import SceneBridge.Entity

/-!
# Generational arenas

An arena hands out handles to slots. A vacated slot is reused, last vacated first, under a new
generation, so that old handles to it stay dead. Each live slot carries a payload: `Unit` where only
liveness matters, the components of an entity in the scene's store.
-/

namespace SceneBridge

/-- One slot: its present generation and, while it is live, its payload. -/
structure Slot (α : Type) where
  generation : UInt32
  occupant : Option α

/-- Slots, the stack of vacant ones, and the number of live ones. -/
structure Arena (α : Type) where
  slots : Array (Slot α) := #[]
  vacant : List UInt32 := []
  liveCount : Nat := 0

namespace Arena

variable {α : Type}

def empty : Arena α := {}

instance : Inhabited (Arena α) := ⟨empty⟩

/-- Hand out a handle, from the slot vacated last if there is one. -/
def allocate (a : Arena α) (x : α) : Entity × Arena α :=
  match a.vacant with
  | index :: rest =>
    let generation := (a.slots[index.toNat]?.map Slot.generation).getD 0
    (⟨index, generation⟩,
      { slots := a.slots.setIfInBounds index.toNat ⟨generation, some x⟩
        vacant := rest
        liveCount := a.liveCount + 1 })
  | [] =>
    (⟨UInt32.ofNat a.slots.size, 0⟩,
      { slots := a.slots.push ⟨0, some x⟩
        vacant := []
        liveCount := a.liveCount + 1 })

def get? (a : Arena α) (e : Entity) : Option α :=
  if e.isPlaceholder then none
  else
    match a.slots[e.index.toNat]? with
    | some slot => if slot.generation = e.generation then slot.occupant else none
    | none => none

def isAlive (a : Arena α) (e : Entity) : Bool := (a.get? e).isSome

/-- Replace the payload behind a live handle; a dead handle changes nothing. -/
def set (a : Arena α) (e : Entity) (x : α) : Arena α :=
  if a.isAlive e then
    { a with slots := a.slots.setIfInBounds e.index.toNat ⟨e.generation, some x⟩ }
  else a

/-- Vacate the slot of a live handle and move its generation on; `none` for a dead handle. -/
def free? (a : Arena α) (e : Entity) : Option (Arena α) :=
  if a.isAlive e then
    some
      { slots := a.slots.setIfInBounds e.index.toNat ⟨e.generation + 1, none⟩
        vacant := e.index :: a.vacant
        liveCount := a.liveCount - 1 }
  else none

/-- The live handles with their payloads, in slot order. Indices have 32 bits, so slots beyond those
have no handle. -/
def entries (a : Arena α) : List (Entity × α) :=
  a.slots.toList.zipIdx.filterMap fun (slot, index) =>
    if index < UInt32.size then
      slot.occupant.map fun x => (⟨UInt32.ofNat index, slot.generation⟩, x)
    else none

def live (a : Arena α) : List Entity := a.entries.map Prod.fst

@[simp] theorem get?_empty (e : Entity) : (empty : Arena α).get? e = none := by
  simp [get?, empty]

theorem get?_eq_some_iff {a : Arena α} {e : Entity} {x : α} :
    a.get? e = some x ↔
      e.isPlaceholder = false ∧ a.slots[e.index.toNat]? = some ⟨e.generation, some x⟩ := by
  unfold get?
  split
  · simp_all
  · split
    · next slot hslot =>
      rcases slot with ⟨generation, occupant⟩
      by_cases hg : generation = e.generation <;> simp_all
    · simp_all

theorem isAlive_iff {a : Arena α} {e : Entity} : a.isAlive e = true ↔ ∃ x, a.get? e = some x :=
  Option.isSome_iff_exists

theorem free?_isSome (a : Arena α) (e : Entity) : (a.free? e).isSome = a.isAlive e := by
  unfold free?
  split <;> simp_all

theorem get?_set {a : Arena α} {e : Entity} (he : a.isAlive e = true) (x : α) (f : Entity) :
    (a.set e x).get? f = if f = e then some x else a.get? f := by
  obtain ⟨y, hy⟩ := isAlive_iff.mp he
  obtain ⟨hp, hslot⟩ := get?_eq_some_iff.mp hy
  obtain ⟨hbound, -⟩ := Array.getElem?_eq_some_iff.mp hslot
  simp only [set, he, if_true]
  by_cases hf : f = e
  · subst hf
    simp [get?, hp, hbound]
  · by_cases hi : f.index = e.index
    · have hg : e.generation ≠ f.generation := by
        intro hg
        cases f
        cases e
        simp_all
      simp only [get?, hi, hslot, Array.getElem?_setIfInBounds, hbound, if_true, hg, if_false, hf]
    · have hne : e.index.toNat ≠ f.index.toNat := fun h => hi (UInt32.toNat_inj.mp h.symm)
      simp [get?, hne, hf]

end Arena

end SceneBridge
