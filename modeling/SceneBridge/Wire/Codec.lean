import SceneBridge.Wire.Snapshot

/-!
# Encoding and decoding of snapshots

A snapshot is sent as one raw record for each of its components, in order of tags. Decoding drops
single records that it cannot accept and says which; a buffer with more records than there are kinds
is dropped whole.
-/

namespace SceneBridge.Wire

/-- A decoded buffer: what was accepted, and the position and fault of each record that was not. -/
structure Decoded (U : Type) where
  snapshot : Snapshot U := {}
  errors : List (Nat × CodecError) := []
deriving DecidableEq

variable {U : Type} [ComponentSet U]

open ComponentSet (kindCount ofRaw rawTag tag toRaw)

def encode (s : Snapshot U) : List (Raw U) := s.components.map toRaw

/-- An encoder keeps one buffer and fills it anew for each snapshot. -/
structure Encoder (U : Type) [ComponentSet U] where
  buffer : List (Raw U) := []

namespace Encoder

def clear (e : Encoder U) : Encoder U := { e with buffer := [] }

def extend (e : Encoder U) (records : List (Raw U)) : Encoder U :=
  { e with buffer := e.buffer ++ records }

def encode (e : Encoder U) (s : Snapshot U) : List (Raw U) × Encoder U :=
  let filled := e.clear.extend (s.components.map toRaw)
  (filled.buffer, filled)

end Encoder

/-- Take in the records from position `index` on; the first of a kind counts. -/
def decodeFrom (index : Nat) (s : Snapshot U) : List (Raw U) → Decoded U
  | [] => { snapshot := s }
  | r :: rs =>
    match ofRaw r with
    | .ok (c : U) =>
      if s.contains (tag c) then
        let rest := decodeFrom (index + 1) s rs
        { rest with errors := (index, .duplicateKind (rawTag r)) :: rest.errors }
      else
        decodeFrom (index + 1) (s.insert c) rs
    | .error err =>
      let rest := decodeFrom (index + 1) s rs
      { rest with errors := (index, err) :: rest.errors }

def decode (records : List (Raw U)) : Decoded U :=
  if records.length > kindCount U then
    { errors := [(kindCount U, .tooManyRecords records.length (kindCount U))] }
  else
    decodeFrom 0 .empty records

def Decoded.isClean (d : Decoded U) : Bool := d.errors.isEmpty

@[simp] theorem Encoder.value_encode (e : Encoder U) (s : Snapshot U) :
    (e.encode s).1 = Wire.encode s :=
  rfl

theorem length_encode (s : Snapshot U) : (encode s).length = s.size := by
  simp [encode, Snapshot.size]

theorem length_errors_decodeFrom_le (index : Nat) (s : Snapshot U) (records : List (Raw U)) :
    (decodeFrom index s records).errors.length ≤ records.length := by
  induction records generalizing index s with
  | nil => simp [decodeFrom]
  | cons r rs ih =>
    unfold decodeFrom
    split
    · split
      · simpa using ih (index + 1) s
      · exact Nat.le_succ_of_le (ih (index + 1) _)
    · simpa using ih (index + 1) s

end SceneBridge.Wire
