import SceneBridge.Guest.Protocol
import SceneBridge.World

/-!
# The template registry

The families that a guest may instantiate from, gathered from the world once and sent to the guest
in ascending order of their ids. A guest names a template by family and position.
-/

namespace SceneBridge

structure TemplateRegistry where
  families : Std.TreeMap Int32 (List Entity) := ∅
  pushed : Bool := false

namespace TemplateRegistry

def empty : TemplateRegistry := {}

instance : Inhabited TemplateRegistry := ⟨empty⟩

def logTarget : String := "void_mirror::registry"

variable {κ : Type} [ProjectKind κ]

/-- Take in the family of one holder; of two with one id the first counts. -/
def gather (w : World κ) (r : TemplateRegistry) (holder : Entity) : Logged TemplateRegistry :=
  match w.get holder .templateFamily with
  | none => pure r
  | some family =>
    if r.families.contains family.familyId then do
      Logged.write .warn logTarget
        s!"Template family {family.familyId} declared more than once, keeping the first"
      return r
    else
      pure { r with families := r.families.insert family.familyId family.templates }

/-- The families of a world, holders taken in slot order. -/
def collect (w : World κ) : Logged TemplateRegistry :=
  (w.query .templateFamily).foldlM (gather w) empty

def insert (r : TemplateRegistry) (familyId : Int32) (templates : List Entity) :
    TemplateRegistry :=
  { r with families := r.families.insert familyId templates }

variable {γ ρ σ : Type} [Guest γ ρ σ]

def send (guest : γ) : List (Int32 × List Entity) → Logged (Except BridgeError Unit × γ)
  | [] => pure (.ok (), guest)
  | (familyId, templates) :: rest => do
    match ← Guest.register guest familyId templates with
    | (.error err, guest) => return (.error err, guest)
    | (.ok (), guest) =>
      let count := templates.length
      Logged.write .debug logTarget
        s!"Registered template family {familyId} ({count} templates)"
      send guest rest

def pushAll (r : TemplateRegistry) (guest : γ) :
    Logged (Except BridgeError Unit × TemplateRegistry × γ) := do
  if r.pushed then return (.ok (), r, guest)
  match ← send guest r.families.toList with
  | (.error err, guest) => return (.error err, r, guest)
  | (.ok (), guest) => return (.ok (), { r with pushed := true }, guest)

def family? (r : TemplateRegistry) (familyId : Int32) : Option (List Entity) :=
  r.families[familyId]?

/-- The entity behind a guest's name for a template; a negative position names none. -/
def resolve (r : TemplateRegistry) (t : TemplateRef) : Option Entity :=
  if t.index < 0 then none
  else (r.family? t.familyId).bind fun templates => templates[t.index.toInt.toNat]?

def size (r : TemplateRegistry) : Nat := r.families.size

def isEmpty (r : TemplateRegistry) : Bool := r.families.isEmpty

end TemplateRegistry

end SceneBridge
