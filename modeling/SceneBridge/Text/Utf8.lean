/-!
# Lenient UTF-8

Bytes are read as UTF-8 in one pass. Where they break the encoding, each longest start of a
character that could still have been completed, or else the single byte, becomes one replacement
character.
-/

namespace SceneBridge.Text

/-- A character whose first bytes have been read: how many bytes are missing, the bits so far, and
the range the next byte must lie in. -/
structure OpenChar where
  missing : Nat
  bits : Nat
  low : UInt8
  high : UInt8

def replacementChar : Char := Char.ofNat 0xfffd

/-- Read the first byte of a character. The range of the byte after it excludes overlong forms,
surrogates and values past the last code point. -/
def OpenChar.start (b : UInt8) : List Char × Option OpenChar :=
  if b < 0x80 then ([Char.ofNat b.toNat], none)
  else if 0xc2 ≤ b && b ≤ 0xdf then ([], some ⟨1, b.toNat % 32, 0x80, 0xbf⟩)
  else if b = 0xe0 then ([], some ⟨2, 0, 0xa0, 0xbf⟩)
  else if b = 0xed then ([], some ⟨2, 13, 0x80, 0x9f⟩)
  else if 0xe1 ≤ b && b ≤ 0xef then ([], some ⟨2, b.toNat % 16, 0x80, 0xbf⟩)
  else if b = 0xf0 then ([], some ⟨3, 0, 0x90, 0xbf⟩)
  else if b = 0xf4 then ([], some ⟨3, 4, 0x80, 0x8f⟩)
  else if 0xf1 ≤ b && b ≤ 0xf3 then ([], some ⟨3, b.toNat % 8, 0x80, 0xbf⟩)
  else ([replacementChar], none)

/-- Read one more byte: complete or continue the open character, or give it up and start anew. -/
def OpenChar.next : Option OpenChar → UInt8 → List Char × Option OpenChar
  | none, b => start b
  | some c, b =>
    if c.low ≤ b && b ≤ c.high then
      let bits := c.bits * 64 + b.toNat % 64
      if c.missing ≤ 1 then ([Char.ofNat bits], none)
      else ([], some ⟨c.missing - 1, bits, 0x80, 0xbf⟩)
    else
      let (chars, state) := start b
      (replacementChar :: chars, state)

def decodeFrom : Option OpenChar → List UInt8 → List Char
  | none, [] => []
  | some _, [] => [replacementChar]
  | state, b :: bs =>
    let (chars, state) := OpenChar.next state b
    chars ++ decodeFrom state bs

/-- Every byte sequence has a reading. -/
def decodeLossy (bytes : List UInt8) : List Char := decodeFrom none bytes

theorem decodeLossy_ascii (bytes : List UInt8) (h : ∀ b ∈ bytes, b < 0x80) :
    decodeLossy bytes = bytes.map fun b => Char.ofNat b.toNat := by
  unfold decodeLossy
  induction bytes with
  | nil => rfl
  | cons b bs ih =>
    have hb : b < 0x80 := h b (by simp)
    have hbs : ∀ c ∈ bs, c < 0x80 := fun c hc => h c (by simp [hc])
    simp [decodeFrom, OpenChar.next, OpenChar.start, hb, ih hbs]

end SceneBridge.Text
