import SceneBridge.Entity
import SceneBridge.Transform
import SceneBridge.Guest.Id
import SceneBridge.Wire.Codec

/-!
# The built-in component set

Four kinds of component cross to the guest: the parent by guest id, the entity's own handle, its
asset hash and its matrix. A raw record is a tag and a payload of sixteen 32-bit words; the tag says
how many of the words count, and bytes are ordered from the lowest up.
-/

namespace SceneBridge.Wire

/-- A component as the guest knows it. -/
inductive InbuiltComponent
  | parent (id : GuestId)
  | entity (handle : SignedHandle)
  | guid (hash : Vector UInt32 4)
  | transform (matrix : Matrix)
deriving DecidableEq

/-- A tag and sixteen payload words. All records have one size, so a bad tag never shifts the ones
after it. -/
structure RawRecord where
  tag : UInt8
  payload : Vector UInt32 16
deriving DecidableEq

namespace RawRecord

def pad (words : List UInt32) : Vector UInt32 16 := Vector.ofFn fun i => words[i]?.getD 0

/-- The four bytes of a word, lowest first. -/
def wordBytes (w : UInt32) : List UInt8 :=
  [w.toUInt8, (w >>> 8).toUInt8, (w >>> 16).toUInt8, (w >>> 24).toUInt8]

def wordOfBytes (b0 b1 b2 b3 : UInt8) : UInt32 :=
  b0.toUInt32 ||| b1.toUInt32 <<< 8 ||| b2.toUInt32 <<< 16 ||| b3.toUInt32 <<< 24

/-- Words out of bytes; missing bytes of the last word are zero. -/
def wordsOfBytes : List UInt8 → List UInt32
  | [] => []
  | [b0] => [wordOfBytes b0 0 0 0]
  | [b0, b1] => [wordOfBytes b0 b1 0 0]
  | [b0, b1, b2] => [wordOfBytes b0 b1 b2 0]
  | b0 :: b1 :: b2 :: b3 :: rest => wordOfBytes b0 b1 b2 b3 :: wordsOfBytes rest

def ofBytes (tag : UInt8) (bytes : List UInt8) : RawRecord := ⟨tag, pad (wordsOfBytes bytes)⟩

def wordCount (tag : UInt8) : Nat :=
  if tag = 0 then 2 else if tag = 1 then 2 else if tag = 2 then 4 else if tag = 3 then 16 else 0

def word (r : RawRecord) (i : Nat) : UInt32 := r.payload[i]?.getD 0

def selected (r : RawRecord) : List UInt32 := r.payload.toList.take (wordCount r.tag)

/-- The size of a record in bytes, the gap after the tag included. -/
def byteSize : Nat := 72

def describe (r : RawRecord) : String := s!"InbuiltData \x7b tag: {r.tag}, .. \x7d"

end RawRecord

namespace InbuiltComponent

def tag : InbuiltComponent → UInt8
  | parent _ => 0
  | entity _ => 1
  | guid _ => 2
  | transform _ => 3

def words : InbuiltComponent → List UInt32
  | parent id => [WordPair.low id.raw, WordPair.high id.raw]
  | entity handle => [handle.index.toUInt32, handle.version.toUInt32]
  | guid hash => hash.toList
  | transform matrix => matrix.toList.map Single.bits

def toRaw (c : InbuiltComponent) : RawRecord := ⟨c.tag, RawRecord.pad c.words⟩

def ofRaw (r : RawRecord) : Except CodecError InbuiltComponent :=
  match r.tag with
  | 0 => .ok (parent ⟨WordPair.join (r.word 0) (r.word 1)⟩)
  | 1 => .ok (entity ⟨(r.word 0).toInt32, (r.word 1).toInt32⟩)
  | 2 => .ok (guid #v[r.word 0, r.word 1, r.word 2, r.word 3])
  | 3 => .ok (transform (r.payload.map Single.mk))
  | tag => .error (.unknownKind tag)

instance : ComponentSet InbuiltComponent where
  Raw := RawRecord
  kindCount := 4
  tag := tag
  toRaw := toRaw
  rawTag := RawRecord.tag
  ofRaw := ofRaw

theorem ofRaw_toRaw (c : InbuiltComponent) : ofRaw c.toRaw = .ok c := by
  cases c with
  | parent id => simp [toRaw, ofRaw, RawRecord.word, RawRecord.pad, words, tag]
  | entity handle => simp [toRaw, ofRaw, RawRecord.word, RawRecord.pad, words, tag]
  | guid hash =>
    simp only [toRaw, ofRaw, RawRecord.word, RawRecord.pad, words, tag, Except.ok.injEq, guid.injEq]
    ext i hi
    rcases i with _ | _ | _ | _ | i
    · simp
    · simp
    · simp
    · simp
    · omega
  | transform matrix =>
    simp only [toRaw, ofRaw, RawRecord.pad, words, tag, Except.ok.injEq, transform.injEq]
    ext i hi
    simp

instance : LawfulComponentSet InbuiltComponent where
  ofRaw_toRaw := ofRaw_toRaw
  rawTag_toRaw _ := rfl
  tag_lt c := by cases c <;> simp [ComponentSet.tag, ComponentSet.kindCount, tag]

/-- Equality of the numbers in a matrix, and of all else as it stands. -/
def sameNumbers : InbuiltComponent → InbuiltComponent → Bool
  | transform a, transform b => (List.zipWith Single.sameNumber a.toList b.toList).all id
  | a, b => a == b

end InbuiltComponent

def Snapshot.sameNumbers (s t : Snapshot InbuiltComponent) : Bool :=
  s.size == t.size
    && (List.zipWith InbuiltComponent.sameNumbers s.components t.components).all id

end SceneBridge.Wire
