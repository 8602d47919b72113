/-!
# Single-precision numbers

A `Single` is a binary32 number kept as its bit pattern. Copying one keeps every bit, the payload of
a NaN included, and equality of `Single`s is equality of patterns; `Single.sameNumber` compares the
numbers instead. Arithmetic rounds to nearest after every operation.
-/

namespace SceneBridge

/-- A binary32 number, as its bit pattern. -/
structure Single where
  bits : UInt32
deriving DecidableEq, Inhabited

namespace Single

def toFloat32 (x : Single) : Float32 := Float32.ofBits x.bits

def ofFloat32 (x : Float32) : Single := ⟨x.toBits⟩

def ofFloat (x : Float) : Single := ofFloat32 x.toFloat32

def ofInt64 (n : Int64) : Single := ofFloat32 n.toFloat32

instance : OfNat Single 0 := ⟨⟨0x00000000⟩⟩
instance : OfNat Single 1 := ⟨⟨0x3f800000⟩⟩
instance : OfNat Single 2 := ⟨⟨0x40000000⟩⟩

def quarter : Single := ⟨0x3e800000⟩

instance : Add Single := ⟨fun x y => ofFloat32 (x.toFloat32 + y.toFloat32)⟩
instance : Sub Single := ⟨fun x y => ofFloat32 (x.toFloat32 - y.toFloat32)⟩
instance : Mul Single := ⟨fun x y => ofFloat32 (x.toFloat32 * y.toFloat32)⟩
instance : Div Single := ⟨fun x y => ofFloat32 (x.toFloat32 / y.toFloat32)⟩

/-- Negation flips the sign bit and nothing else. -/
instance : Neg Single := ⟨fun x => ⟨x.bits ^^^ 0x80000000⟩⟩

def sqrt (x : Single) : Single := ofFloat32 x.toFloat32.sqrt

/-- The order of the numbers: false when either side is a NaN. -/
def less (x y : Single) : Bool := x.toFloat32 < y.toFloat32

/-- Equality of the numbers: the two zeros are equal, a NaN equals nothing. -/
def sameNumber (x y : Single) : Bool := x.toFloat32 == y.toFloat32

/-- The exponent is all ones and the fraction is not zero. -/
def isNaN (x : Single) : Bool := 0x7f800000 < (x.bits &&& 0x7fffffff)

theorem neg_neg (x : Single) : - -x = x := by
  cases x with
  | mk bits =>
    show Single.mk ((bits ^^^ 0x80000000) ^^^ 0x80000000) = Single.mk bits
    rw [UInt32.xor_assoc, UInt32.xor_self, UInt32.xor_zero]

end Single

end SceneBridge
