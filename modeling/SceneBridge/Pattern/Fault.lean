/-!
# Faults of a written pattern

A fault is a cause and the part of the text it concerns. `Fault.report` shows the text with that
part marked, and says the cause.
-/

namespace SceneBridge.Pattern

/-- A place in a text, counted from one. -/
structure Place where
  line : Nat := 1
  column : Nat := 1
deriving DecidableEq

namespace Place

def after (p : Place) (c : Char) : Place :=
  if c = '\n' then ⟨p.line + 1, 1⟩ else ⟨p.line, p.column + 1⟩

def isBefore (p q : Place) : Bool :=
  p.line < q.line || (p.line = q.line && p.column < q.column)

end Place

/-- A part of a text, up to but not including the place `stop`. -/
structure Span where
  start : Place
  stop : Place
deriving DecidableEq

namespace Span

def point (p : Place) : Span := ⟨p, p⟩

def isOneLine (s : Span) : Bool := s.start.line = s.stop.line

def atMost (s t : Span) : Bool :=
  s.start.isBefore t.start || (s.start = t.start && !t.stop.isBefore s.stop)

end Span

inductive Cause
  | backreference
  | boundaryEnd
  | boundaryUnclosed
  | boundaryUnknown
  | caseFolding
  | classEscape
  | classRangeBound
  | classRangeOrder
  | classUnclosed
  | countDigits
  | countOrder
  | countUnclosed
  | decimalTooLarge
  | escapeEnd
  | escapeUnknown
  | flagDangling
  | flagEnd
  | flagRepeated
  | flagTwiceNegated
  | flagUnknown
  | groupUnclosed
  | groupUnopened
  | hexDigit
  | hexEmpty
  | hexValue
  | lookAround
  | nameEmpty
  | nameEnd
  | nameLetter
  | nameRepeated
  | nestedTooDeep
  | notText
  | nothingToRepeat
  | propertyLetter
  | propertyUnknown
  | propertyValueUnknown
  | shorthandUnknown
  | unicodeRefused
deriving DecidableEq

/-- How deep parts of a pattern may stand inside each other. -/
def nestingLimit : Nat := 250

def Cause.message : Cause → String
  | backreference => "backreferences are not supported"
  | boundaryEnd =>
    "found either the beginning of a special word boundary or a bounded repetition on a \\b " ++
      "with an opening brace, but no closing brace"
  | boundaryUnclosed =>
    "special word boundary assertion is either unclosed or contains an invalid character"
  | boundaryUnknown =>
    "unrecognized special word boundary assertion, valid choices are: " ++
      "start, end, start-half or end-half"
  | caseFolding =>
    "Unicode-aware case insensitivity matching is not available " ++
      "(make sure the unicode-case feature is enabled)"
  | classEscape => "invalid escape sequence found in character class"
  | classRangeBound => "invalid range boundary, must be a literal"
  | classRangeOrder => "invalid character class range, the start must be <= the end"
  | classUnclosed => "unclosed character class"
  | countDigits => "repetition quantifier expects a valid decimal"
  | countOrder => "invalid repetition count range, the start must be <= the end"
  | countUnclosed => "unclosed counted repetition"
  | decimalTooLarge => "decimal literal invalid"
  | escapeEnd => "incomplete escape sequence, reached end of pattern prematurely"
  | escapeUnknown => "unrecognized escape sequence"
  | flagDangling => "dangling flag negation operator"
  | flagEnd => "expected flag but got end of regex"
  | flagRepeated => "duplicate flag"
  | flagTwiceNegated => "flag negation operator repeated"
  | flagUnknown => "unrecognized flag"
  | groupUnclosed => "unclosed group"
  | groupUnopened => "unopened group"
  | hexDigit => "invalid hexadecimal digit"
  | hexEmpty => "hexadecimal literal empty"
  | hexValue => "hexadecimal literal is not a Unicode scalar value"
  | lookAround => "look-around, including look-ahead and look-behind, is not supported"
  | nameEmpty => "empty capture group name"
  | nameEnd => "unclosed capture group name"
  | nameLetter => "invalid capture group character"
  | nameRepeated => "duplicate capture group name"
  | nestedTooDeep =>
    "exceed the maximum number of nested parentheses/brackets (" ++ toString nestingLimit ++ ")"
  | notText => "pattern can match invalid UTF-8"
  | nothingToRepeat => "repetition operator missing expression"
  | propertyLetter => "invalid Unicode character class"
  | propertyUnknown => "Unicode property not found"
  | propertyValueUnknown => "Unicode property value not found"
  | shorthandUnknown =>
    "Unicode-aware Perl class not found (make sure the unicode-perl feature is enabled)"
  | unicodeRefused => "Unicode not allowed here"

/-- A cause, the part of the text it concerns, and the earlier part that this one repeats. -/
structure Fault where
  cause : Cause
  span : Span
  earlier : Option Span := none

namespace Fault

/-- The lines of a text without their ends. A carriage return counts to the end of a line. -/
def linesOf (text : String) : List String :=
  let ended (line : String) : String :=
    match line.toList.reverse with
    | '\r' :: rest => String.ofList rest.reverse
    | _ => line
  match (text.splitOn "\n").reverse with
  | last :: before =>
    (before.reverse.map ended) ++ (if last = "" then [] else [last])
  | [] => []

/-- Marks under the parts of one line, from a column on. -/
def marksFrom : Nat → List Span → String
  | _, [] => ""
  | column, span :: spans =>
    let blanks := span.start.column - 1 - column
    let width := max 1 (span.stop.column - span.start.column)
    "".pushn ' ' blanks ++ "".pushn '^' width ++ marksFrom (column + blanks + width) spans

def spans (f : Fault) : List Span := (f.span :: f.earlier.toList).mergeSort Span.atMost

/-- The text line by line, numbered if there are several, with marks below the parts concerned. -/
def marked (f : Fault) (text : String) : List String :=
  let lines := linesOf text
  let count := lines.length + (if text.endsWith "\n" then 1 else 0)
  let digits := if count ≤ 1 then 0 else (toString count).length
  let margin := if digits = 0 then 4 else digits + 2
  lines.zipIdx.flatMap fun (line, i) =>
    let number := toString (i + 1)
    let head :=
      if digits = 0 then "    " else "".pushn ' ' (digits - number.length) ++ number ++ ": "
    let here := f.spans.filter fun s => s.isOneLine && s.start.line = i + 1
    (head ++ line) :: if here.isEmpty then [] else ["".pushn ' ' margin ++ marksFrom 0 here]

def extent (s : Span) : String :=
  "on line " ++ toString s.start.line ++ " (column " ++ toString s.start.column ++
    ") through line " ++ toString s.stop.line ++ " (column " ++ toString (s.stop.column - 1) ++ ")"

/-- The text with the fault marked, and the cause. A text of several lines stands between rules. -/
def report (f : Fault) (text : String) : String :=
  let rule := "".pushn '~' 79
  let body :=
    if text.contains '\n' then
      [rule] ++ f.marked text ++ [rule] ++ (f.spans.filter fun s => !s.isOneLine).map extent
    else f.marked text
  "\n".intercalate (["regex parse error:"] ++ body ++ ["error: " ++ f.cause.message])

end Fault

end SceneBridge.Pattern
