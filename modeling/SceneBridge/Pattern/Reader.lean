import SceneBridge.Pattern.Bracket
import SceneBridge.Text.Letter

/-!
# From text to written pattern

`Term.ofString` reads a whole pattern. Open groups stand on a stack, innermost first; what stands at
the end of the text without its closing parenthesis is at fault.
-/

namespace SceneBridge.Pattern

def isNameChar (first : Bool) (c : Char) : Bool :=
  c = '_' || Text.isLetter c ||
    (!first && (Text.isNumber c || c = '.' || c = '[' || c = ']'))

def flag? : Char → Option Flag
  | 'i' => some .caseless
  | 'm' => some .multiLine
  | 's' => some .dotAll
  | 'U' => some .swapGreed
  | 'u' => some .unicode
  | 'R' => some .crlf
  | 'x' => some .verbose
  | _ => none

/-- Branches being read: those that are complete, and the parts of the present one. -/
structure OpenBranches where
  start : Place
  branches : List Term := []
  partsStart : Place
  parts : List Term := []

namespace OpenBranches

def ofPlace (start : Place) : OpenBranches := { start, partsStart := start }

def push (b : OpenBranches) (part : Term) : OpenBranches := { b with parts := part :: b.parts }

def branch (b : OpenBranches) (stop : Place) : Term :=
  .ofParts ⟨b.partsStart, stop⟩ b.parts.reverse

/-- End the present branch at a bar, and begin the next behind it. -/
def endBranch (b : OpenBranches) (stop next : Place) : OpenBranches :=
  { b with branches := b.branches ++ [b.branch stop], partsStart := next, parts := [] }

def close (b : OpenBranches) (stop : Place) : Term :=
  if b.branches.isEmpty then b.branch stop
  else .branches ⟨b.start, stop⟩ (b.branches ++ [b.branch stop])

end OpenBranches

/-- A group being read, with the branches it interrupts. -/
structure OpenGroup where
  around : OpenBranches
  span : Span
  captures : Bool
  items : List FlagItem
  /-- Whether the text around the group is verbose. -/
  verbose : Bool

namespace Read

/-- The name of a group, up to its closing angle. No two groups share a name. -/
def groupName : Read Unit := do
  let start ← here
  let name ← do
    match ← peek? with
    | some c => if isNameChar true c then takeWhile bump (isNameChar false) else pure []
    | none => pure []
  let stop ← here
  match ← peek? with
  | none => failHere .nameEnd
  | some '>' =>
    bump
    if name.isEmpty then fail .nameEmpty (Span.point start)
    let name := String.ofList name
    let span := ⟨start, stop⟩
    if let some (_, earlier) := (← get).names.find? fun (n, _) => n = name then
      throw { cause := .nameRepeated, span, earlier := some earlier }
    modify fun cursor => { cursor with names := (name, span) :: cursor.names }
  | some c => failAt .nameLetter c

def repeatedItem? (items : List FlagItem) (flag : Option Flag) : Option FlagItem :=
  items.find? fun item => item.flag = flag

def flagsWithin : Nat → List FlagItem → Read (List FlagItem)
  | 0, items => return items
  | fuel + 1, items => do
    match ← peek? with
    | none => return items
    | some c =>
      let last? := items.getLast?
      if c = ':' || c = ')' then
        match last? with
        | some { span, flag := none } => fail .flagDangling span
        | _ => return items
      else
        let span ← charSpan c
        let flag ← do
          if c = '-' then pure none
          else match flag? c with
            | some flag => pure (some flag)
            | none => fail .flagUnknown span
        if let some item := repeatedItem? items flag then
          let cause := if c = '-' then .flagTwiceNegated else .flagRepeated
          throw { cause, span, earlier := some item.span }
        bump
        if (← peek?).isNone then failHere .flagEnd
        flagsWithin fuel (items ++ [{ span, flag }])

def flags : Read (List FlagItem) := do flagsWithin (← get).rest.length []

def lookArounds : List (List Char) := [['?', '='], ['?', '!'], ['?', '<', '='], ['?', '<', '!']]

def bumpBy (count : Nat) : Read Unit := count.forM fun _ _ => bump

def setVerbose (verbose : Bool) : Read Unit := modify fun cursor => { cursor with verbose }

/-- What an opening parenthesis begins: a group, or flags for the rest of the group around it. -/
def groupStart (around : OpenBranches) : Read (OpenBranches ⊕ OpenGroup) := do
  let start ← here
  bump
  let span := ⟨start, ← here⟩
  skip
  let { rest, verbose, .. } ← get
  if let some look := lookArounds.find? fun look => look.isPrefixOf rest then
    bumpBy look.length
    failFrom .lookAround start
  let group (captures : Bool) (items : List FlagItem) : OpenGroup :=
    { around, span, captures, items, verbose }
  match rest with
  | '?' :: 'P' :: '<' :: _ =>
    bumpBy 3
    groupName
    return .inr (group true [])
  | '?' :: '<' :: _ =>
    bumpBy 2
    groupName
    return .inr (group true [])
  | '?' :: _ =>
    let mark ← here
    bump
    if (← peek?).isNone then fail .groupUnclosed span
    let items ← flags
    let closes := (← peek?) = some ')'
    bump
    if closes then
      if items.isEmpty then fail .nothingToRepeat (Span.point mark)
      setVerbose ((flagState items .verbose).getD verbose)
      return .inl (around.push (.flags ⟨start, ← here⟩ items))
    else return .inr (group false items)
  | _ => return .inr (group true [])

def takePart (branches : OpenBranches) : Read (Term × OpenBranches) := do
  match branches.parts with
  | part :: parts =>
    if part.isRepeatable then return (part, { branches with parts })
    else failHere .nothingToRepeat
  | [] => failHere .nothingToRepeat

/-- A question mark behind a repetition, which changes what is preferred but not what matches. -/
def lazyMark : Read Unit := do
  if (← peek?) = some '?' then bump

def repetition (branches : OpenBranches) (low : Nat) (high : Option Nat) : Read OpenBranches := do
  let (part, branches) ← takePart branches
  bump
  lazyMark
  return branches.push (.repeated ⟨part.span.start, ← here⟩ low high part)

/-- How often a counted repetition repeats; the cursor stands behind the opening brace. -/
def countRange (start : Place) : Read (Nat × Option Nat) := do
  let low ← decimal
  match ← peek? with
  | none => failFrom .countUnclosed start
  | some ',' =>
    match ← advance with
    | none => failFrom .countUnclosed start
    | some '\x7d' => return (← low, none)
    | some _ =>
      let low ← low
      return (low, some (← (← decimal)))
  | some _ =>
    let low ← low
    return (low, some low)

def countedRepetition (branches : OpenBranches) : Read OpenBranches := do
  let start ← here
  let (part, branches) ← takePart branches
  if (← advance).isNone then failFrom .countUnclosed start
  let (low, high) ← countRange start
  if (← peek?) ≠ some '\x7d' then failFrom .countUnclosed start
  discard advance
  lazyMark
  let stop ← here
  if high.any (· < low) then fail .countOrder ⟨start, stop⟩
  return branches.push (.repeated ⟨part.span.start, stop⟩ low high part)

def atom (c : Char) : Read Term := do
  if c = '\\' then escape
  else
    let span ← charSpan c
    bump
    match c with
    | '.' => return .dot span
    | '^' => return .assertion span .lineStart
    | '$' => return .assertion span .lineStop
    | c => return .literal { span, char := c }

def termWithin : Nat → OpenBranches → List OpenGroup → Read Term
  | 0, branches, _ => return branches.close (← here)
  | fuel + 1, branches, groups => do
    skip
    match ← peek? with
    | none =>
      match groups with
      | [] => return branches.close (← here)
      | group :: _ => fail .groupUnclosed group.span
    | some '(' =>
      match ← groupStart branches with
      | .inl branches => termWithin fuel branches groups
      | .inr group =>
        setVerbose ((flagState group.items .verbose).getD group.verbose)
        termWithin fuel (.ofPlace (← here)) (group :: groups)
    | some ')' =>
      match groups with
      | [] => failAt .groupUnopened ')'
      | group :: groups =>
        let inside := branches.close (← here)
        bump
        setVerbose group.verbose
        let span := ⟨group.span.start, ← here⟩
        termWithin fuel (group.around.push (.group span group.captures group.items inside)) groups
    | some '|' =>
      let stop ← here
      bump
      termWithin fuel (branches.endBranch stop (← here)) groups
    | some '[' => termWithin fuel (branches.push (← brackets)) groups
    | some '?' => termWithin fuel (← repetition branches 0 (some 1)) groups
    | some '*' => termWithin fuel (← repetition branches 0 none) groups
    | some '+' => termWithin fuel (← repetition branches 1 none) groups
    | some '\x7b' => termWithin fuel (← countedRepetition branches) groups
    | some c => termWithin fuel (branches.push (← atom c)) groups

end Read

/-- Read a pattern. Every round reads at least one character, so there are at most as many rounds as
characters, and one that finds the end. -/
def Term.ofString (text : String) : Except Fault Term := do
  let cursor : Cursor := { rest := text.toList }
  let (term, _) ← (Read.termWithin (cursor.rest.length + 1) (.ofPlace {}) []).run cursor
  term.checkNesting 0
  return term

end SceneBridge.Pattern
