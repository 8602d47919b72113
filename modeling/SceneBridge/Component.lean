import SceneBridge.Entity
import SceneBridge.Transform

/-!
# Components

A component is a value of one of a fixed set of built-in kinds or of a kind that a project adds. A
`Bundle` holds the components of one entity, at most one of each kind. `Bundle.get?_set` and
`Bundle.get?_erase` describe it through what `get?` shows.
-/

namespace SceneBridge

/-- A 128-bit asset hash. -/
structure Guid where
  hash : Vector UInt32 4
deriving DecidableEq

/-- An ordered list of template entities that a guest may instantiate by position. -/
structure TemplateFamily where
  familyId : Int32
  templates : List Entity
deriving DecidableEq

/-- The component kinds that a project adds to the built-in ones. -/
class ProjectKind (κ : Type) where
  decEq : DecidableEq κ
  Value : κ → Type
  label : κ → String

instance {κ : Type} [ProjectKind κ] : DecidableEq κ := ProjectKind.decEq

instance : ProjectKind Empty where
  decEq := inferInstance
  Value := Empty.elim
  label := Empty.elim

inductive Kind (κ : Type)
  | name
  | parent
  | localTransform
  /-- The world matrix that the guest writes back. -/
  | localToWorld
  /-- Asks for the entity to be shared with the guest. -/
  | shareRequest
  /-- Marks a template, which is never shared itself; its instances drop the mark. -/
  | prefab
  | guid
  | templateFamily
  | project (kind : κ)
deriving DecidableEq

namespace Kind

variable {κ : Type} [ProjectKind κ]

/-- What a component of a kind holds; a bare mark holds nothing. -/
abbrev Value : Kind κ → Type
  | name => String
  | parent => Entity
  | localTransform => LocalTransform
  | localToWorld => Matrix
  | shareRequest => Unit
  | prefab => Unit
  | guid => Guid
  | templateFamily => TemplateFamily
  | project kind => ProjectKind.Value kind

def label : Kind κ → String
  | name => "Name"
  | parent => "Parent"
  | localTransform => "LocalTransform"
  | localToWorld => "LocalToWorld"
  | shareRequest => "MirrorRequest"
  | prefab => "Prefab"
  | guid => "Guid"
  | templateFamily => "TemplateFamily"
  | project kind => ProjectKind.label kind

end Kind

structure Component (κ : Type) [ProjectKind κ] where
  kind : Kind κ
  value : kind.Value

/-- The components of one entity, the kind set last in front. -/
structure Bundle (κ : Type) [ProjectKind κ] where
  components : List (Component κ) := []

namespace Bundle

variable {κ : Type} [ProjectKind κ]

def empty : Bundle κ := {}

def find? (k : Kind κ) : List (Component κ) → Option k.Value
  | [] => none
  | c :: cs => if h : c.kind = k then some (h ▸ c.value) else find? k cs

def get? (b : Bundle κ) (k : Kind κ) : Option k.Value := find? k b.components

def has (b : Bundle κ) (k : Kind κ) : Bool := (b.get? k).isSome

def erase (b : Bundle κ) (k : Kind κ) : Bundle κ :=
  ⟨b.components.filter fun c => c.kind ≠ k⟩

def set (b : Bundle κ) (k : Kind κ) (v : k.Value) : Bundle κ :=
  ⟨⟨k, v⟩ :: (b.erase k).components⟩

def ofList (cs : List (Component κ)) : Bundle κ :=
  cs.foldl (fun b c => b.set c.kind c.value) empty

def kinds (b : Bundle κ) : List (Kind κ) := b.components.map Component.kind

@[simp] theorem get?_empty (k : Kind κ) : (empty : Bundle κ).get? k = none := rfl

theorem find?_filter_ne (k k' : Kind κ) (cs : List (Component κ)) :
    find? k' (cs.filter fun c => c.kind ≠ k) = if k' = k then none else find? k' cs := by
  induction cs with
  | nil => simp [find?]
  | cons c cs ih =>
    by_cases hc : c.kind = k
    · by_cases hk : k' = k
      · simp_all
      · have : c.kind ≠ k' := fun h => hk (h ▸ hc)
        simp_all [find?]
    · by_cases hk : k' = k
      · subst hk
        simp_all [find?]
      · simp_all [find?]

theorem get?_erase (b : Bundle κ) (k k' : Kind κ) :
    (b.erase k).get? k' = if k' = k then none else b.get? k' :=
  find?_filter_ne k k' b.components

@[simp] theorem get?_set_self (b : Bundle κ) (k : Kind κ) (v : k.Value) :
    (b.set k v).get? k = some v := by
  simp [get?, set, find?]

theorem get?_set_of_ne (b : Bundle κ) {k k' : Kind κ} (v : k.Value) (h : k' ≠ k) :
    (b.set k v).get? k' = b.get? k' := by
  have hk : k ≠ k' := fun e => h e.symm
  have he := get?_erase b k k'
  simp only [get?, h, if_false] at he
  simp only [get?, set, find?, hk, dif_neg, not_false_eq_true, he]

end Bundle

end SceneBridge
