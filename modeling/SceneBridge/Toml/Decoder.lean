import SceneBridge.Single
import SceneBridge.Toml.Document

/-!
# Reading settings out of TOML

A decoder turns a value into a setting or says what is wrong with it. A record is written as a table
of its fields, or as an array of them in their order; what it does not know is passed over.
-/

namespace SceneBridge.Toml

abbrev Decoder (α : Type) := Value → Except String α

namespace Decoder

variable {α : Type}

def string : Decoder String
  | .text s => .ok s
  | _ => .error "expected a string"

def boolean : Decoder Bool
  | .boolean b => .ok b
  | _ => .error "expected a boolean"

def integer (low high : Int) : Decoder Int
  | .integer n => if low ≤ n && n ≤ high then .ok n else .error "integer out of range"
  | _ => .error "expected an integer"

/-- An integer of 64 bits that is not negative. -/
def natural : Decoder Nat := fun v => (integer 0 0xffffffffffffffff v).map Int.toNat

def uint32 : Decoder UInt32 := fun v => do
  let n ← integer 0 0xffffffff v
  return UInt32.ofNat n.toNat

def int32 : Decoder Int32 := fun v => do
  let n ← integer Int32.minValue.toInt Int32.maxValue.toInt v
  return Int32.ofInt n

/-- A number of single precision, rounded once from the value as it was read. -/
def single : Decoder Single
  | .integer n => .ok (Single.ofInt64 (Int64.ofInt n))
  | .number x => .ok (Single.ofFloat x)
  | _ => .error "expected a number"

def list (element : Decoder α) : Decoder (List α)
  | .array _ elements => elements.mapM element
  | _ => .error "expected an array"

/-- An array of at least `n` elements; those after the first `n` are passed over. -/
def vector (n : Nat) (element : Decoder α) : Decoder (Vector α n)
  | .array _ elements => do
    let found ← (elements.take n).mapM element
    if h : found.toArray.size = n then return ⟨found.toArray, h⟩
    else throw "array too short"
  | _ => .error "expected an array"

/-- The fields of a record, in the order of their names. A date stands for a record without any
known field. -/
def fields (names : List String) : Value → Except String (List (Option Value))
  | .table _ entries => .ok (names.map fun name => entries.lookup name)
  | .array _ elements => .ok (names.zipIdx.map fun (_, i) => elements[i]?)
  | .datetime => .ok (names.map fun _ => none)
  | _ => .error "expected a table"

/-- A field with a value to take where it is missing. -/
def optional (default : α) (decode : Decoder α) : Option Value → Except String α
  | some v => decode v
  | none => .ok default

def required (decode : Decoder α) : Option Value → Except String α
  | some v => decode v
  | none => .error "missing field"

/-- A field that may be missing and is then nothing. -/
def maybe (decode : Decoder α) : Option Value → Except String (Option α)
  | some v => (decode v).map some
  | none => .ok none

def document (decode : Decoder α) (text : String) : Except String α :=
  match Document.parse text with
  | some root => decode root
  | none => .error "not a TOML document"

end Decoder

end SceneBridge.Toml
