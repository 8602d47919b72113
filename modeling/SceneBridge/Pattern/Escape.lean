import SceneBridge.Pattern.Cursor
import SceneBridge.Pattern.Term

/-!
# Escapes

What a backslash and the characters behind it stand for.
-/

namespace SceneBridge.Pattern

def isMeta (c : Char) : Bool := "\\.+*?()|[]\x7b\x7d^$#&-~".contains c

/-- The characters that stand for themselves behind a backslash: those of ASCII that are neither
letters nor digits nor angles. -/
def isPlainEscape (c : Char) : Bool :=
  isMeta c || (c.toNat < 0x80 && !c.isAlphanum && c ≠ '<' && c ≠ '>')

/-- Letters that stand for a control character. -/
def controlEscape? : Char → Option Char
  | 'a' => some '\x07'
  | 'f' => some '\x0c'
  | 't' => some '\t'
  | 'n' => some '\n'
  | 'r' => some '\r'
  | 'v' => some '\x0b'
  | _ => none

/-- Letters that stand for a set, and whether they name what is outside of it. -/
def shorthand? : Char → Option (CharSet × Bool)
  | 'd' => some (.digit, false)
  | 's' => some (.space, false)
  | 'w' => some (.word, false)
  | 'D' => some (.digit, true)
  | 'S' => some (.space, true)
  | 'W' => some (.word, true)
  | _ => none

def assertionEscape? : Char → Option Assertion
  | 'A' => some .textStart
  | 'z' => some .textStop
  | 'b' => some (.word .boundary)
  | 'B' => some (.word .noBoundary)
  | '<' => some (.word .start)
  | '>' => some (.word .stop)
  | _ => none

def wordEdge? : String → Option WordEdge
  | "start" => some .start
  | "end" => some .stop
  | "start-half" => some .startHalf
  | "end-half" => some .stopHalf
  | _ => none

namespace Read

def isHex (c : Char) : Bool := (Text.hexDigit? c).isSome

/-- The character with a code point, which has been read since `start`. -/
def scalar (start : Place) (digits : List Char) (stop : Place) : Read Char := do
  let code := Text.numberOf 16 digits
  if code.isValidChar then return Char.ofNat code else fail .hexValue ⟨start, stop⟩

def hexDigits : Nat → List Char → Read (List Char)
  | 0, digits => return digits.reverse
  | count + 1, digits => do
    match ← peek? with
    | none => failHere .escapeEnd
    | some c =>
      if isHex c then
        discard advance
        hexDigits count (c :: digits)
      else failAt .hexDigit c

/-- A code point in hexadecimal, with a fixed count of digits or between braces. -/
def hexEscape (start : Place) (letter : Char) : Read Term := do
  match ← advance with
  | none => failHere .escapeEnd
  | some '\x7b' =>
    let brace ← here
    discard advance
    let inside ← here
    let digits ← collect isHex
    match ← peek? with
    | none => failFrom .escapeEnd brace
    | some '\x7d' =>
      let stop ← here
      discard advance
      if digits.isEmpty then failFrom .hexEmpty brace
      let char ← scalar inside digits stop
      return .literal { span := ⟨start, ← here⟩, char }
    | some c => failAt .hexDigit c
  | some _ =>
    let inside ← here
    let count := if letter = 'x' then 2 else if letter = 'u' then 4 else 8
    let digits ← hexDigits count []
    let char ← scalar inside digits (← here)
    return .literal { span := ⟨start, ← here⟩, char, isByte := letter = 'x' }

def propertyEscape (start : Place) : Read Term := do
  match ← advance with
  | none => failHere .escapeEnd
  | some '\x7b' =>
    discard advance
    let name ← collect (· ≠ '\x7d')
    if (← peek?).isNone then failHere .escapeEnd
    bump
    return .property ⟨start, ← here⟩ (String.ofList name)
  | some c =>
    if c = '\\' then failAt .propertyLetter c
    discard advance
    return .property ⟨start, ← here⟩ c.toString

/-- What follows the letter of a word boundary between braces. Where it cannot be the name of an
edge it is left to be read as a repetition. -/
def edgeName? (start : Place) : Read (Option WordEdge) := do
  let isNameChar (c : Char) : Bool := c.isAlpha || c = '-'
  let before ← get
  let brace ← here
  match ← advance with
  | none => failFrom .boundaryEnd start
  | some c =>
    if isNameChar c then
      let inside ← here
      let name ← collect isNameChar
      if (← peek?) ≠ some '\x7d' then failFrom .boundaryUnclosed brace
      let stop ← here
      bump
      match wordEdge? (String.ofList name) with
      | some edge => return some edge
      | none => fail .boundaryUnknown ⟨inside, stop⟩
    else
      set before
      return none

/-- A condition; a word boundary may say which edge of a word it means. -/
def assertionEscape (start : Place) (kind : Assertion) : Read Term := do
  let mut kind := kind
  if kind = .word .boundary && (← peek?) = some '\x7b' then
    if let some edge ← edgeName? start then kind := .word edge
  return .assertion ⟨start, ← here⟩ kind

def escape : Read Term := do
  let start ← here
  bump
  match ← peek? with
  | none => failFrom .escapeEnd start
  | some c =>
    if c.isDigit then fail .backreference ⟨start, (← here).after c⟩
    else if c = 'x' || c = 'u' || c = 'U' then hexEscape start c
    else if c = 'p' || c = 'P' then propertyEscape start
    else
      bump
      let span := ⟨start, ← here⟩
      if let some (set, negated) := shorthand? c then return .shorthand span set negated
      if isPlainEscape c then return .literal { span, char := c }
      if let some char := controlEscape? c then return .literal { span, char }
      match assertionEscape? c with
      | some kind => assertionEscape start kind
      | none => fail .escapeUnknown span

end Read

end SceneBridge.Pattern
