import SceneBridge.Pattern.Fault
import SceneBridge.Text.Blank
import SceneBridge.Text.Digit

/-!
# Reading a pattern

A cursor stands in the text of a pattern. In a verbose part, blanks and comments between the
characters of the pattern do not count.
-/

namespace SceneBridge.Pattern

structure Cursor where
  rest : List Char
  place : Place := {}
  verbose : Bool := false
  /-- The group names read so far, with where they stand. -/
  names : List (String × Span) := []

/-- Drop blanks and comments. A comment goes from a number sign to the end of its line. -/
def dropBlanks : Bool → List Char → Place → List Char × Place
  | _, [], p => ([], p)
  | true, c :: rest, p => dropBlanks (c ≠ '\n') rest (p.after c)
  | false, c :: rest, p =>
    if Text.isBlank c then dropBlanks false rest (p.after c)
    else if c = '#' then dropBlanks true rest (p.after c)
    else (c :: rest, p)

/-- The next character that counts. A comment ends here at its first character that is not blank. -/
def peekBlanks : Bool → List Char → Option Char
  | _, [] => none
  | comment, c :: rest =>
    if Text.isBlank c then peekBlanks comment rest
    else if !comment && c = '#' then peekBlanks true rest
    else some c

namespace Cursor

def bump (cursor : Cursor) : Cursor :=
  match cursor.rest with
  | c :: rest => { cursor with rest, place := cursor.place.after c }
  | [] => cursor

def skip (cursor : Cursor) : Cursor :=
  if cursor.verbose then
    let (rest, place) := dropBlanks false cursor.rest cursor.place
    { cursor with rest, place }
  else cursor

def peekNext? (cursor : Cursor) : Option Char :=
  if cursor.verbose then peekBlanks false (cursor.rest.drop 1) else (cursor.rest.drop 1).head?

theorem length_bump_le (cursor : Cursor) : cursor.bump.rest.length ≤ cursor.rest.length := by
  unfold bump
  split
  · next h => simp [h]
  · exact Nat.le_refl _

end Cursor

abbrev Read := StateT Cursor (Except Fault)

namespace Read

def peek? : Read (Option Char) := return (← get).rest.head?

def here : Read Place := return (← get).place

def bump : Read Unit := modify Cursor.bump

def skip : Read Unit := modify Cursor.skip

def advance : Read (Option Char) := do
  bump
  skip
  peek?

def fail {α : Type} (cause : Cause) (span : Span) : Read α := throw { cause, span }

/-- A fault at the present place, with no extent. -/
def failHere {α : Type} (cause : Cause) : Read α := do fail cause (Span.point (← here))

def failFrom {α : Type} (cause : Cause) (start : Place) : Read α := do
  fail cause ⟨start, ← here⟩

def charSpan (c : Char) : Read Span := do
  let place ← here
  return ⟨place, place.after c⟩

def failAt {α : Type} (cause : Cause) (c : Char) : Read α := do fail cause (← charSpan c)

def takeWhileWithin (next : Read Unit) (keep : Char → Bool) : Nat → List Char → Read (List Char)
  | 0, taken => return taken.reverse
  | fuel + 1, taken => do
    match ← peek? with
    | some c =>
      if keep c then
        next
        takeWhileWithin next keep fuel (c :: taken)
      else return taken.reverse
    | none => return taken.reverse

/-- The longest run of characters that pass a test; every one of them is read. -/
def takeWhile (next : Read Unit) (keep : Char → Bool) : Read (List Char) := do
  takeWhileWithin next keep (← get).rest.length []

/-- A run, with what does not count dropped behind each of its characters. -/
def collect (keep : Char → Bool) : Read (List Char) := takeWhile (discard advance) keep

/-- A decimal number, which may stand between blanks. It is read even where it is at fault. -/
def decimal : Read (Except Fault Nat) := do
  discard (collect Text.isBlank)
  let start ← here
  let digits ← collect fun c => '0' ≤ c && c ≤ '9'
  let span := ⟨start, ← here⟩
  discard (collect Text.isBlank)
  let number := Text.numberOf 10 digits
  if digits.isEmpty then return .error { cause := .countDigits, span }
  else if number < UInt32.size then return .ok number
  else return .error { cause := .decimalTooLarge, span }

end Read

end SceneBridge.Pattern
