import SceneBridge.Arena
import SceneBridge.Component
import SceneBridge.Log
import SceneBridge.World.Error

/-!
# The world

A world is an arena whose live slots hold component bundles, so only live entities carry components
and a reused slot starts out bare. `World.get` is the view through which the operations are
described.
-/

namespace SceneBridge

structure World (κ : Type) [ProjectKind κ] where
  arena : Arena (Bundle κ) := Arena.empty

namespace World

variable {κ : Type} [ProjectKind κ]

def empty : World κ := {}

instance : Inhabited (World κ) := ⟨empty⟩

/-! ## Entities -/

/-- A new entity with the given components; of two of a kind the later one counts. -/
def spawnWith (w : World κ) (components : List (Component κ)) : Entity × World κ :=
  let (e, arena) := w.arena.allocate (Bundle.ofList components)
  (e, { arena })

def spawn (w : World κ) : Entity × World κ := w.spawnWith []

def despawn? (w : World κ) (e : Entity) : Option (World κ) :=
  (w.arena.free? e).map fun arena => { arena }

def isAlive (w : World κ) (e : Entity) : Bool := w.arena.isAlive e

def size (w : World κ) : Nat := w.arena.liveCount

def isEmpty (w : World κ) : Bool := w.size == 0

def entities (w : World κ) : List Entity := w.arena.live

/-! ## Components -/

def get (w : World κ) (e : Entity) (k : Kind κ) : Option k.Value :=
  (w.arena.get? e).bind fun bundle => bundle.get? k

def has (w : World κ) (e : Entity) (k : Kind κ) : Bool := (w.get e k).isSome

def insert (w : World κ) (e : Entity) (k : Kind κ) (v : k.Value) : Except SceneError (World κ) :=
  match w.arena.get? e with
  | some bundle => .ok { arena := w.arena.set e (bundle.set k v) }
  | none => .error (.entityNotFound e)

def overwrite? (w : World κ) (e : Entity) (k : Kind κ) (v : k.Value) : Option (World κ) :=
  match w.arena.get? e with
  | some bundle => if bundle.has k then some { arena := w.arena.set e (bundle.set k v) } else none
  | none => none

def remove (w : World κ) (e : Entity) (k : Kind κ) : Option k.Value × World κ :=
  match w.arena.get? e with
  | some bundle => (bundle.get? k, { arena := w.arena.set e (bundle.erase k) })
  | none => (none, w)

def query (w : World κ) (k : Kind κ) : List Entity :=
  w.arena.entries.filterMap fun (e, bundle) => if bundle.has k then some e else none

def kinds (w : World κ) (e : Entity) : List (Kind κ) :=
  ((w.arena.get? e).map Bundle.kinds).getD []

/-! ## Templates -/

def logTarget : String := "void_scene::world"

/-- Clone the components of a live template, its prefab mark apart, onto a new entity. -/
def instantiate (w : World κ) (template : Entity) :
    Logged (Except SceneError (Entity × World κ)) :=
  match w.arena.get? template with
  | none => pure (.error (.templateNotFound template))
  | some bundle => do
    let (e, arena) := w.arena.allocate (bundle.erase .prefab)
    Logged.write .trace logTarget
      s!"Instantiated {e.describe} from template {template.describe}"
    return .ok (e, { arena })

/-! ## What the operations show -/

@[simp] theorem get_empty (e : Entity) (k : Kind κ) : (empty : World κ).get e k = none := by
  simp [get, empty]

theorem isAlive_of_get {w : World κ} {e : Entity} {k : Kind κ} {v : k.Value}
    (h : w.get e k = some v) : w.isAlive e = true := by
  obtain ⟨bundle, hb, -⟩ := Option.bind_eq_some_iff.mp h
  exact Arena.isAlive_iff.mpr ⟨bundle, hb⟩

theorem insert_dead {w : World κ} {e : Entity} (h : w.isAlive e = false) (k : Kind κ)
    (v : k.Value) : w.insert e k v = .error (.entityNotFound e) := by
  have hnone : w.arena.get? e = none := by
    simpa [isAlive, Arena.isAlive] using h
  simp [insert, hnone]

end World

end SceneBridge
