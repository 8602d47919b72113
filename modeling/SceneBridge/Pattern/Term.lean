import SceneBridge.Pattern.CharSet
import SceneBridge.Pattern.Fault

/-!
# Written patterns

A pattern as it is written, each part with its place in the text. What a part stands for can depend
on the flags in force where it stands; `Pattern.OfTerm` settles that.
-/

namespace SceneBridge.Pattern

inductive Flag
  | caseless
  | multiLine
  | dotAll
  | swapGreed
  | unicode
  | crlf
  | verbose
deriving DecidableEq

/-- One character of a flag list: a flag, or the dash that negates those behind it. -/
structure FlagItem where
  span : Span
  flag : Option Flag

def flagState : List FlagItem → Flag → Option Bool
  | [], _ => none
  | item :: rest, flag =>
    if item.flag = some flag then some true
    else if item.flag = none then
      if rest.any (·.flag = some flag) then some false else none
    else flagState rest flag

/-- A character that stands for itself. Written as two hexadecimal digits it can also be a byte. -/
structure Literal where
  span : Span
  char : Char
  isByte : Bool := false

inductive WordEdge
  | boundary
  | noBoundary
  | start
  | stop
  | startHalf
  | stopHalf
deriving DecidableEq

inductive Assertion
  | lineStart
  | lineStop
  | textStart
  | textStop
  | word (edge : WordEdge)
deriving DecidableEq

inductive SetOperation
  | intersection
  | difference
  | symmetricDifference
deriving DecidableEq

inductive ClassTerm
  | empty (span : Span)
  | literal (literal : Literal)
  | range (span : Span) (low high : Literal)
  | named (span : Span) (set : CharSet) (negated : Bool)
  | shorthand (span : Span) (set : CharSet) (negated : Bool)
  | property (span : Span) (name : String)
  | bracket (span : Span) (negated : Bool) (inside : ClassTerm)
  | union (span : Span) (items : List ClassTerm)
  | combine (span : Span) (operation : SetOperation) (left right : ClassTerm)

def ClassTerm.span : ClassTerm → Span
  | .literal l => l.span
  | .empty s | .range s .. | .named s .. | .shorthand s .. | .property s _ | .bracket s ..
  | .union s _ | .combine s .. => s

inductive Term
  | empty (span : Span)
  | flags (span : Span) (items : List FlagItem)
  | literal (literal : Literal)
  | dot (span : Span)
  | assertion (span : Span) (kind : Assertion)
  | shorthand (span : Span) (set : CharSet) (negated : Bool)
  | property (span : Span) (name : String)
  | bracket (span : Span) (negated : Bool) (inside : ClassTerm)
  | repeated (span : Span) (low : Nat) (high : Option Nat) (part : Term)
  | group (span : Span) (captures : Bool) (items : List FlagItem) (inside : Term)
  | sequence (span : Span) (parts : List Term)
  | branches (span : Span) (parts : List Term)

namespace Term

def span : Term → Span
  | literal l => l.span
  | empty s | flags s _ | dot s | assertion s _ | shorthand s .. | property s _ | bracket s ..
  | repeated s .. | group s .. | sequence s _ | branches s _ => s

/-- Whether a repetition may follow: there has to be something to repeat. -/
def isRepeatable : Term → Bool
  | empty _ | flags .. => false
  | _ => true

def ofParts (span : Span) : List Term → Term
  | [] => empty span
  | [part] => part
  | parts => sequence span parts

end Term

/-! ## Nesting

Everything but single characters and conditions counts as one level. -/

def descend (depth : Nat) (span : Span) : Except Fault Nat :=
  if depth < nestingLimit then .ok (depth + 1) else .error { cause := .nestedTooDeep, span }

mutual

def ClassTerm.checkNesting (depth : Nat) : ClassTerm → Except Fault Unit
  | .bracket span _ inside => do inside.checkNesting (← descend depth span)
  | .union span items => do ClassTerm.checkNestingAll (← descend depth span) items
  | .combine span _ left right => do
    let depth ← descend depth span
    left.checkNesting depth
    right.checkNesting depth
  | _ => return ()

def ClassTerm.checkNestingAll (depth : Nat) : List ClassTerm → Except Fault Unit
  | [] => return ()
  | item :: items => do
    item.checkNesting depth
    ClassTerm.checkNestingAll depth items

end

mutual

def Term.checkNesting (depth : Nat) : Term → Except Fault Unit
  | .bracket span _ inside => do inside.checkNesting (← descend depth span)
  | .repeated span _ _ part => do part.checkNesting (← descend depth span)
  | .group span _ _ inside => do inside.checkNesting (← descend depth span)
  | .sequence span parts => do Term.checkNestingAll (← descend depth span) parts
  | .branches span parts => do Term.checkNestingAll (← descend depth span) parts
  | _ => return ()

def Term.checkNestingAll (depth : Nat) : List Term → Except Fault Unit
  | [] => return ()
  | part :: parts => do
    part.checkNesting depth
    Term.checkNestingAll depth parts

end

end SceneBridge.Pattern
