import SceneBridge.Pattern.Basic
import SceneBridge.Pattern.Reader

/-!
# What written patterns mean

The parts of a pattern are taken in the order in which they are written. Flags hold from where they
are set to the end of the group around them. Sets beyond ASCII are known only as far as they are
written out: there is no table of properties, and case is folded in ASCII alone.
-/

namespace SceneBridge.Pattern

structure Modes where
  caseless : Bool := false
  multiLine : Bool := false
  dotAll : Bool := false
  crlf : Bool := false
  unicode : Bool := true

namespace Modes

def apply (m : Modes) (items : List FlagItem) : Modes where
  caseless := (flagState items .caseless).getD m.caseless
  multiLine := (flagState items .multiLine).getD m.multiLine
  dotAll := (flagState items .dotAll).getD m.dotAll
  crlf := (flagState items .crlf).getD m.crlf
  unicode := (flagState items .unicode).getD m.unicode

end Modes

def fault {α : Type} (cause : Cause) (span : Span) : Except Fault α := .error { cause, span }

/-- A set that only ASCII characters may be in. -/
def asciiOnly (span : Span) (s : CharSet) : Except Fault CharSet :=
  if s.isAscii then .ok s else fault .notText span

/-- Add the other cases where case does not count. -/
def foldCase (modes : Modes) (span : Span) (s : CharSet) : Except Fault CharSet :=
  if !modes.caseless then .ok s
  else if !modes.unicode then .ok s.foldAscii
  else if s.isEmpty then .ok s
  else fault .caseFolding span

/-- The set itself or what is outside of it: among the characters, or among the bytes. -/
def negateIf (modes : Modes) (span : Span) (negated : Bool) (s : CharSet) :
    Except Fault CharSet :=
  if modes.unicode then .ok (if negated then CharSet.scalars.diff s else s)
  else asciiOnly span (if negated then CharSet.bytes.diff s else s)

def shorthandSet (modes : Modes) (span : Span) (s : CharSet) (negated : Bool) :
    Except Fault CharSet :=
  if modes.unicode then fault .shorthandUnknown span else negateIf modes span negated s

/-- Property names are compared without case, blanks, dashes and a leading `is`. No property is
known; these three are names of values as well. -/
def propertySet (modes : Modes) (span : Span) (name : String) : Except Fault CharSet :=
  if !modes.unicode then fault .unicodeRefused span
  else
    let lower := name.toList.map Char.toLower
    let lower := if ['i', 's'].isPrefixOf lower then lower.drop 2 else lower
    let bare := lower.filter fun c => c.toNat < 0x80 && c ≠ ' ' && c ≠ '_' && c ≠ '-'
    if ["cf", "sc", "lc"].contains (String.ofList bare) then fault .propertyValueUnknown span
    else fault .propertyUnknown span

/-- A character as a code point. Where only bytes count it has to be one. -/
def literalCode (modes : Modes) (l : Literal) : Except Fault Nat :=
  let code := l.char.toNat
  if modes.unicode then .ok code
  else if l.isByte && 0x7f < code then fault .notText l.span
  else if 0xff < code then fault .unicodeRefused l.span
  else .ok code

def SetOperation.apply : SetOperation → CharSet → CharSet → CharSet
  | intersection => CharSet.inter
  | difference => CharSet.diff
  | symmetricDifference => CharSet.symmDiff

mutual

def ClassTerm.chars (modes : Modes) : ClassTerm → Except Fault CharSet
  | .empty _ => .ok .empty
  | .literal l => do
    let code ← literalCode modes l
    return .range code code
  | .range _ low high => do
    let low ← literalCode modes low
    return .range low (← literalCode modes high)
  | .named span set negated => do negateIf modes span negated (← foldCase modes span set)
  | .shorthand span set negated => shorthandSet modes span set negated
  | .property span name => propertySet modes span name
  | .bracket span negated inside => do
    negateIf modes span negated (← foldCase modes span (← inside.chars modes))
  | .union _ items => ClassTerm.charsOfAll modes items
  | .combine _ operation left right => do
    let l ← left.chars modes
    let r ← right.chars modes
    let r ← foldCase modes right.span r
    let l ← foldCase modes left.span l
    return operation.apply l r

def ClassTerm.charsOfAll (modes : Modes) : List ClassTerm → Except Fault CharSet
  | [] => .ok .empty
  | item :: items => do
    let chars ← item.chars modes
    return chars.union (← ClassTerm.charsOfAll modes items)

end

def literalPattern (modes : Modes) (l : Literal) : Except Fault Pattern :=
  if !modes.unicode && l.isByte && 0x7f < l.char.toNat then fault .notText l.span
  else if !modes.caseless then .ok (.oneOf (.single l.char))
  else if modes.unicode then fault .caseFolding l.span
  else .ok (.oneOf (CharSet.single l.char).foldAscii)

def dotPattern (modes : Modes) (span : Span) : Except Fault Pattern :=
  if !modes.unicode then fault .notText span
  else if modes.dotAll then .ok (.oneOf .scalars)
  else
    let breaks := if modes.crlf then [(0x0a, 0x0a), (0x0d, 0x0d)] else [(0x0a, 0x0a)]
    .ok (.oneOf (CharSet.scalars.diff ⟨breaks⟩))

def Assertion.edge (modes : Modes) : Assertion → Edge
  | lineStart =>
    if !modes.multiLine then .textStart
    else if modes.crlf then .lineStartCrlf
    else .lineStart
  | lineStop =>
    if !modes.multiLine then .textStop else if modes.crlf then .lineStopCrlf else .lineStop
  | textStart => .textStart
  | textStop => .textStop
  | word edge => .word modes.unicode edge

mutual

/-- What a part means under the flags in force, and the flags in force behind it. -/
def Term.meaning : Term → StateT Modes (Except Fault) Pattern
  | .empty _ => return .empty
  | .flags _ items => do
    modify fun modes => modes.apply items
    return .empty
  | .literal l => do literalPattern (← get) l
  | .dot span => do dotPattern (← get) span
  | .assertion _ kind => do return .atEdge (kind.edge (← get))
  | .shorthand span set negated => do return .oneOf (← shorthandSet (← get) span set negated)
  | .property span name => do return .oneOf (← propertySet (← get) span name)
  | .bracket span negated inside => do
    let modes ← get
    return .oneOf (← negateIf modes span negated (← foldCase modes span (← inside.chars modes)))
  | .repeated _ low high part => do return ofTimes low high (← part.meaning)
  | .group _ captures items inside => do
    let around ← get
    set (around.apply items)
    let p ← inside.meaning
    set around
    return if captures then .captured p else p
  | .sequence _ parts => do return ofSequence (← Term.meaningOfAll parts)
  | .branches _ parts => do return ofBranches (← Term.meaningOfAll parts)

def Term.meaningOfAll : List Term → StateT Modes (Except Fault) (List Pattern)
  | [] => return []
  | part :: parts => do
    let p ← part.meaning
    return p :: (← Term.meaningOfAll parts)

end

inductive Refusal
  | fault (fault : Fault)
  | tooLarge
  | unicodeWords

def Refusal.message (text : String) : Refusal → String
  | fault f => f.report text
  | tooLarge => "Compiled regex exceeds size limit of " ++ toString roomLimit ++ " bytes."
  | unicodeWords => "error building NFA"

def ofString (text : String) : Except Refusal Pattern := do
  let meaning : Except Fault (Pattern × Modes) := do (← Term.ofString text).meaning.run {}
  match meaning with
  | .error f => throw (.fault f)
  | .ok (p, _) =>
    if roomLimit < p.room then throw .tooLarge
    else if p.usesUnicodeWords then throw .unicodeWords
    else return p

end SceneBridge.Pattern
