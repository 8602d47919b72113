import Std.Data.TreeMap
import SceneBridge.WordPair

/-!
# Entity handles

A handle names a slot of the scene and the generation of that slot when the handle was issued. The
generation moves on whenever a slot is vacated, so a handle to a former occupant never names the
present one. `Entity.ofBits_toBits` and `Entity.toBits_ofBits` say that packing into one word loses
nothing.
-/

namespace SceneBridge

/-- A slot of the scene together with one of its generations. -/
structure Entity where
  index : UInt32
  generation : UInt32
deriving DecidableEq

namespace Entity

/-- The handle that never names a live entity. -/
def placeholder : Entity := ⟨0xffffffff, 0xffffffff⟩

instance : Inhabited Entity := ⟨placeholder⟩

/-- The last slot index is reserved, whatever the generation. -/
def isPlaceholder (e : Entity) : Bool := e.index == 0xffffffff

/-- Both parts in one word, the generation in the high half. -/
def toBits (e : Entity) : UInt64 := WordPair.join e.index e.generation

def ofBits (bits : UInt64) : Entity := ⟨WordPair.low bits, WordPair.high bits⟩

instance : Ord Entity := ⟨compareLex (compareOn index) (compareOn generation)⟩

instance : Std.TransOrd Entity :=
  inferInstanceAs (Std.TransCmp (compareLex (compareOn index) (compareOn generation)))

instance : Std.LawfulEqOrd Entity where
  eq_of_compare {a b} h := by
    obtain ⟨hi, hg⟩ := Ordering.then_eq_eq.mp h
    have hi := Std.LawfulEqOrd.eq_of_compare hi
    have hg := Std.LawfulEqOrd.eq_of_compare hg
    cases a
    cases b
    simp_all

/-- Slot and generation, as in `7v2`. -/
protected def toString (e : Entity) : String := s!"{e.index}v{e.generation}"

instance : ToString Entity := ⟨Entity.toString⟩

/-- The form in which messages name an entity. -/
def describe (e : Entity) : String :=
  if e.isPlaceholder then "Entity(placeholder)" else s!"Entity({e})"

theorem ofBits_toBits (e : Entity) : ofBits e.toBits = e := by
  simp [ofBits, toBits]

theorem toBits_ofBits (bits : UInt64) : (ofBits bits).toBits = bits := by
  simp [ofBits, toBits]

end Entity

/-- A handle as a guest sees it: the same two words, read as signed numbers. -/
structure SignedHandle where
  index : Int32
  version : Int32
deriving DecidableEq, Inhabited

namespace Entity

def toSigned (e : Entity) : SignedHandle := ⟨e.index.toInt32, e.generation.toInt32⟩

end Entity

namespace SignedHandle

def toEntity (h : SignedHandle) : Entity := ⟨h.index.toUInt32, h.version.toUInt32⟩

@[simp] theorem toEntity_toSigned (e : Entity) : e.toSigned.toEntity = e := by
  simp [Entity.toSigned, toEntity]

@[simp] theorem toSigned_toEntity (h : SignedHandle) : h.toEntity.toSigned = h := by
  simp [Entity.toSigned, toEntity]

end SignedHandle

end SceneBridge
