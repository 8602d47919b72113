import SceneBridge.Pattern.Escape

/-!
# Brackets

A set of characters between brackets: single characters, ranges, named sets and further brackets one
after another, combined by operators that all bind alike, from the left.
-/

namespace SceneBridge.Pattern

/-- Brackets being read: the place they began, and what has been read of them so far. -/
structure OpenBracket where
  span : Span
  negated : Bool
  /-- The operand and operator in front of the present items. -/
  pending : Option (ClassTerm × SetOperation) := none
  itemsStart : Place
  /-- The present items, latest first. -/
  items : List ClassTerm := []

namespace OpenBracket

def push (b : OpenBracket) (item : ClassTerm) : OpenBracket := { b with items := item :: b.items }

def operand (b : OpenBracket) : ClassTerm :=
  match b.items with
  | [] => .empty (Span.point b.itemsStart)
  | [item] => item
  | last :: before =>
    let items := (last :: before).reverse
    let start := (items.head?.map (·.span.start)).getD b.itemsStart
    .union ⟨start, last.span.stop⟩ items

def content (b : OpenBracket) : ClassTerm :=
  match b.pending with
  | none => b.operand
  | some (left, operation) =>
    .combine ⟨left.span.start, b.operand.span.stop⟩ operation left b.operand

end OpenBracket

/-- A part as an item between brackets. Conditions and dots have no place there. -/
def ClassTerm.ofTerm? : Term → Option ClassTerm
  | .literal l => some (.literal l)
  | .shorthand span set negated => some (.shorthand span set negated)
  | .property span name => some (.property span name)
  | _ => none

namespace Read

def operator? : Char → Char → Option SetOperation
  | '&', '&' => some .intersection
  | '-', '-' => some .difference
  | '~', '~' => some .symmetricDifference
  | _, _ => none

/-- The dashes and the first closing bracket that stand for themselves where brackets begin. -/
def leadingItems (start : Place) : Nat → OpenBracket → Read OpenBracket
  | 0, bracket => return bracket
  | fuel + 1, bracket => do
    match ← peek? with
    | some '-' =>
      let bracket := bracket.push (.literal { span := ← charSpan '-', char := '-' })
      if (← advance).isNone then fail .classUnclosed (Span.point start)
      leadingItems start fuel bracket
    | some ']' =>
      if bracket.items.isEmpty then
        let bracket := bracket.push (.literal { span := ← charSpan ']', char := ']' })
        if (← advance).isNone then failFrom .classUnclosed start
        return bracket
      else return bracket
    | _ => return bracket

/-- The beginning of brackets; the cursor stands at the opening one. -/
def openBracket : Read OpenBracket := do
  let start ← here
  let mut first ← advance
  if first.isNone then failFrom .classUnclosed start
  let negated := first = some '^'
  if negated then
    first ← advance
    if first.isNone then failFrom .classUnclosed start
  let place ← here
  let bracket : OpenBracket := { span := ⟨start, place⟩, negated, itemsStart := place }
  let bracket ← leadingItems start (← get).rest.length bracket
  return { bracket with span := ⟨start, ← here⟩ }

def namedSet? : Read (Option ClassTerm) := do
  let before ← get
  let start ← here
  match before.rest with
  | '[' :: ':' :: rest =>
    let (negated, rest) :=
      match rest with
      | '^' :: rest => (true, rest)
      | rest => (false, rest)
    let name := rest.takeWhile (· ≠ ':')
    let set? := (CharSet.named.find? fun (n, _) => n = String.ofList name).map (·.2)
    match set?, rest.drop name.length with
    | some set, ':' :: ']' :: _ =>
      let length := name.length + (if negated then 5 else 4)
      length.forM fun _ _ => bump
      return some (.named ⟨start, ← here⟩ set negated)
    | _, _ => return none
  | _ => return none

def classAtom (c : Char) : Read Term := do
  if c = '\\' then escape
  else
    let span ← charSpan c
    bump
    return .literal { span, char := c }

def asLiteral : Term → Read Literal
  | .literal l => return l
  | t => fail .classRangeBound t.span

/-- A single item, or a range where a dash follows that is neither the last character nor the first
of an operator. -/
def classRange (bracket : OpenBracket) (c : Char) : Read ClassTerm := do
  let first ← classAtom c
  skip
  let next ← peek?
  if next.isNone then fail .classUnclosed bracket.span
  let beyond := (← get).peekNext?
  if next ≠ some '-' || beyond = some ']' || beyond = some '-' then
    match ClassTerm.ofTerm? first with
    | some item => return item
    | none => fail .classEscape first.span
  else
    match ← advance with
    | none => fail .classUnclosed bracket.span
    | some c =>
      let second ← classAtom c
      let span := ⟨first.span.start, second.span.stop⟩
      let low ← asLiteral first
      let high ← asLiteral second
      if high.char < low.char then fail .classRangeOrder span
      return .range span low high

def bracketsWithin : Nat → OpenBracket → List OpenBracket → Read Term
  | 0, bracket, _ => fail .classUnclosed bracket.span
  | fuel + 1, bracket, outer => do
    skip
    match (← get).rest with
    | [] => fail .classUnclosed bracket.span
    | '[' :: _ =>
      match ← namedSet? with
      | some item => bracketsWithin fuel (bracket.push item) outer
      | none => bracketsWithin fuel (← openBracket) (bracket :: outer)
    | ']' :: _ =>
      bump
      let span := ⟨bracket.span.start, ← here⟩
      match outer with
      | [] => return .bracket span bracket.negated bracket.content
      | parent :: outer =>
        let item := .bracket span bracket.negated bracket.content
        bracketsWithin fuel (parent.push item) outer
    | c :: rest =>
      match rest.head?.bind (operator? c) with
      | some operation =>
        let content := bracket.content
        bump
        bump
        let itemsStart ← here
        let pending := some (content, operation)
        bracketsWithin fuel { bracket with pending, itemsStart, items := [] } outer
      | none => bracketsWithin fuel (bracket.push (← classRange bracket c)) outer

/-- Brackets; the cursor stands at the opening one. Every round reads at least one character. -/
def brackets : Read Term := do
  let fuel := (← get).rest.length
  bracketsWithin (fuel + 1) (← openBracket) []

end Read

end SceneBridge.Pattern
