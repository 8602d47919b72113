import SceneBridge.Log
import SceneBridge.Pattern.OfTerm
import SceneBridge.Text.Blank

/-!
# Line filters

A filter has rules, which say up to which severity the lines of a target are shown, and may have a
pattern that the text of every shown line matches. `FilterReading.ofString` reads one, with a
complaint about each part that it has to leave out.
-/

namespace SceneBridge

/-- One rule of a filter: targets that begin with `scope` are shown up to `verbosity`. A rule
without a scope is for every target. -/
structure FilterRule where
  scope : Option String
  verbosity : Nat

namespace FilterRule

def appliesTo (rule : FilterRule) (target : String) : Bool :=
  rule.scope.all fun scope => target.startsWith scope

def scopeLength (rule : FilterRule) : Nat := (rule.scope.map String.length).getD 0

/-- Add a rule. One for the same scope gives way, and the new rule takes its place. -/
def insert (rule : FilterRule) : List FilterRule → List FilterRule
  | [] => [rule]
  | other :: rest =>
    if other.scope = rule.scope then rule :: rest else other :: insert rule rest

end FilterRule

/-- Which lines are shown. The rule with the longest matching scope decides, of two the later; a
line that no rule matches is hidden. -/
structure LineFilter where
  rules : List FilterRule
  pattern : Option Pattern := none

namespace LineFilter

/-- Everything up to one verbosity, whatever the target. -/
def upTo (verbosity : Nat) : LineFilter := { rules := [⟨none, verbosity⟩] }

def deciding (f : LineFilter) (target : String) : Option FilterRule :=
  (f.rules.filter (·.appliesTo target)).foldl
    (fun best rule =>
      match best with
      | some b => if b.scopeLength ≤ rule.scopeLength then some rule else some b
      | none => some rule)
    none

def shows (f : LineFilter) (line : LogLine) : Bool :=
  match f.deciding line.target with
  | some rule =>
    line.level.verbosity ≤ rule.verbosity && f.pattern.all fun p => p.occursIn line.text
  | none => false

end LineFilter

/-- What has been read of a filter: its rules, its pattern, and the parts that were left out. -/
structure FilterReading where
  rules : List FilterRule := []
  pattern : Option Pattern := none
  complaints : List String := []

namespace FilterReading

def trim (text : String) : String :=
  String.ofList (Text.trimEnd (text.toList.dropWhile Text.isBlank))

def add (r : FilterReading) (rule : FilterRule) : FilterReading :=
  { r with rules := rule.insert r.rules }

def complain (r : FilterReading) (complaint : String) : FilterReading :=
  { r with complaints := r.complaints ++ [complaint] }

def invalid (text : String) : String := "invalid logging spec '" ++ text ++ "'"

/-- A rule as written: a level for every target, a scope shown in full, or `scope=level`. Blanks
count in a scope, but not around a level. -/
def addRule (r : FilterReading) (text : String) : FilterReading :=
  match text.splitOn "=" with
  | [single] =>
    match LogLevel.verbosityOf? single with
    | some verbosity => r.add ⟨none, verbosity⟩
    | none => r.add ⟨some single, LogLevel.trace.verbosity⟩
  | [scope, level] =>
    let level := trim level
    if level = "" then r.add ⟨some scope, LogLevel.trace.verbosity⟩
    else
      match LogLevel.verbosityOf? level with
      | some verbosity => r.add ⟨some scope, verbosity⟩
      | none => r.complain (invalid level)
  | _ => r.complain (invalid text)

def addRules (r : FilterReading) (text : String) : FilterReading :=
  (((text.splitOn ",").map trim).filter (· ≠ "")).foldl addRule r

def addPattern (r : FilterReading) (text : String) : FilterReading :=
  match Pattern.ofString text with
  | .ok p => { r with pattern := some p }
  | .error refusal => r.complain ("invalid regex filter - " ++ refusal.message text)

def ofString (text : String) : FilterReading :=
  match text.splitOn "/" with
  | [rules] => addRules {} rules
  | [rules, pattern] => (addRules {} rules).addPattern pattern
  | _ => complain {} (invalid text ++ " (too many '/'s)")

/-- The filter that has been read. Without any rule it shows errors only. -/
def filter (r : FilterReading) : LineFilter where
  rules := if r.rules.isEmpty then (LineFilter.upTo LogLevel.error.verbosity).rules else r.rules
  pattern := r.pattern

def warnings (r : FilterReading) : List String :=
  r.complaints.flatMap fun complaint =>
    ("warning: " ++ complaint ++ ", ignoring it").splitOn "\n"

end FilterReading

theorem FilterRule.insert_insert (rule other : FilterRule) (h : other.scope = rule.scope)
    (rules : List FilterRule) : rule.insert (other.insert rules) = rule.insert rules := by
  induction rules with
  | nil => simp [insert, h]
  | cons first rest ih =>
    simp only [insert]
    by_cases hf : first.scope = rule.scope
    · simp [insert, h, hf]
    · simp [insert, h, hf, ih]

end SceneBridge
