/-!
# Component sets and snapshots

A component set is a closed set of kinds, numbered from zero. A `Snapshot` holds at most one
component of each kind, in ascending order of their numbers. What `Snapshot.get?` shows after each
operation is said beside it.
-/

namespace SceneBridge.Wire

inductive CodecError
  | unknownKind (tag : UInt8)
  | duplicateKind (tag : UInt8)
  | tooManyRecords (count capacity : Nat)
deriving DecidableEq

def CodecError.label : CodecError → String
  | unknownKind _ => "UnknownComponentKind"
  | duplicateKind _ => "DuplicateComponentKind"
  | tooManyRecords .. => "TooManyRecords"

def CodecError.message : CodecError → String
  | unknownKind tag => s!"Unknown component kind {tag}"
  | duplicateKind tag => s!"Component kind {tag} repeated in one snapshot"
  | tooManyRecords count capacity => s!"{count} records exceed the {capacity} component kinds"

/-- A closed set of component kinds and the raw record of each. -/
class ComponentSet (U : Type) where
  Raw : Type
  /-- Tags run from zero up to this bound. -/
  kindCount : Nat
  tag : U → UInt8
  toRaw : U → Raw
  /-- The tag a raw record claims. -/
  rawTag : Raw → UInt8
  /-- Read one record; only a tag outside the set fails. -/
  ofRaw : Raw → Except CodecError U

export ComponentSet (Raw)

/-- Writing and reading a record agree, and tags stay below the bound. -/
class LawfulComponentSet (U : Type) [ComponentSet U] : Prop where
  ofRaw_toRaw : ∀ c : U, ComponentSet.ofRaw (ComponentSet.toRaw c) = .ok c
  rawTag_toRaw : ∀ c : U, ComponentSet.rawTag (ComponentSet.toRaw c) = ComponentSet.tag c
  tag_lt : ∀ c : U, (ComponentSet.tag c).toNat < ComponentSet.kindCount U

instance : ComponentSet Empty where
  Raw := Empty
  kindCount := 0
  tag := Empty.elim
  toRaw := Empty.elim
  rawTag := Empty.elim
  ofRaw := Empty.elim

structure Snapshot (U : Type) where
  components : List U := []
deriving DecidableEq

namespace Snapshot

variable {U : Type} [ComponentSet U]

open ComponentSet (tag)

def empty : Snapshot U := {}

/-- Put a component in its place by tag, over one of the same kind. -/
def place (c : U) : List U → List U
  | [] => [c]
  | d :: ds =>
    if tag c < tag d then c :: d :: ds
    else if tag c = tag d then c :: ds
    else d :: place c ds

def insert (s : Snapshot U) (c : U) : Snapshot U := ⟨place c s.components⟩

def get? (s : Snapshot U) (t : UInt8) : Option U := s.components.find? fun c => tag c == t

def exchange (s : Snapshot U) (c : U) : Option U × Snapshot U := (s.get? (tag c), s.insert c)

def contains (s : Snapshot U) (t : UInt8) : Bool := (s.get? t).isSome

def ofList (cs : List U) : Snapshot U := cs.foldl insert empty

def size (s : Snapshot U) : Nat := s.components.length

def isEmpty (s : Snapshot U) : Bool := s.components.isEmpty

@[simp] theorem get?_empty (t : UInt8) : (empty : Snapshot U).get? t = none := rfl

theorem find?_place_self (c : U) (ds : List U) :
    (place c ds).find? (fun d => tag d == tag c) = some c := by
  induction ds with
  | nil => simp [place]
  | cons d ds ih =>
    unfold place
    split
    · simp
    · split
      · simp
      · next hne =>
        have hd : (tag d == tag c) = false := by
          simpa using fun h : tag d = tag c => hne h.symm
        simp [hd, ih]

theorem find?_place_of_ne {c : U} {t : UInt8} (h : t ≠ tag c) (ds : List U) :
    (place c ds).find? (fun d => tag d == t) = ds.find? fun d => tag d == t := by
  have hc : (tag c == t) = false := by simpa using fun e : tag c = t => h e.symm
  induction ds with
  | nil => simp [place, hc]
  | cons d ds ih =>
    unfold place
    split
    · simp [hc]
    · split
      · next heq =>
        have hd : (tag d == t) = false := by rw [← heq]; exact hc
        simp [hc, hd]
      · simp [List.find?_cons, ih]

/-- An insertion shows at its own tag and nowhere else. -/
theorem get?_insert (s : Snapshot U) (c : U) (t : UInt8) :
    (s.insert c).get? t = if t = tag c then some c else s.get? t := by
  split
  · next h => rw [h]; exact find?_place_self c s.components
  · next h => exact find?_place_of_ne h s.components

theorem get?_foldl_insert (cs : List U) (s : Snapshot U) (t : UInt8) :
    (cs.foldl insert s).get? t = (cs.filter fun c => tag c == t).getLast?.or (s.get? t) := by
  induction cs generalizing s with
  | nil => rfl
  | cons c cs ih =>
    rw [List.foldl_cons, ih, get?_insert]
    by_cases ht : t = tag c
    · simp [ht, List.getLast?_cons]
    · have hc : tag c ≠ t := fun h => ht h.symm
      simp [ht, hc]

theorem get?_ofList (cs : List U) (t : UInt8) :
    (ofList cs).get? t = (cs.filter fun c => tag c == t).getLast? := by
  rw [ofList, get?_foldl_insert, get?_empty, Option.or_none]

theorem contains_ofList_iff {cs : List U} {t : UInt8} :
    (ofList cs).contains t = true ↔ ∃ c ∈ cs, tag c = t := by
  rw [contains, get?_ofList]
  simp

end Snapshot

end SceneBridge.Wire
