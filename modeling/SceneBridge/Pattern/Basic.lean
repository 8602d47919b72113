import SceneBridge.Pattern.CharSet
import SceneBridge.Pattern.Term

/-!
# Patterns

A pattern is read as a function on places in a text: from the places where a match may begin to
those where it may end. Places are counted from zero, and sets of places are ascending lists.
`Pattern.occursIn` asks whether a match can begin anywhere.
-/

namespace SceneBridge

/-- Conditions on a place. What counts as a line or a word end depends on the flags. -/
inductive Edge
  | textStart
  | textStop
  | lineStart
  | lineStop
  | lineStartCrlf
  | lineStopCrlf
  | word (unicode : Bool) (edge : Pattern.WordEdge)
deriving DecidableEq

inductive Pattern
  | empty
  | oneOf (chars : Pattern.CharSet)
  | atEdge (edge : Edge)
  | seq (first second : Pattern)
  | alt (first second : Pattern)
  | times (low : Nat) (high : Option Nat) (part : Pattern)
  | captured (part : Pattern)

namespace Edge

open Pattern

def isWordAt (text : Array Char) (i : Nat) : Bool := (text[i]?).any CharSet.word.contains

def isWordBefore (text : Array Char) (i : Nat) : Bool := i ≠ 0 && isWordAt text (i - 1)

def holds (text : Array Char) (i : Nat) : Edge → Bool
  | textStart => i = 0
  | textStop => i = text.size
  | lineStart => i = 0 || text[i - 1]? = some '\n'
  | lineStop => i = text.size || text[i]? = some '\n'
  | lineStartCrlf =>
    i = 0 || text[i - 1]? = some '\n' || (text[i - 1]? = some '\r' && text[i]? ≠ some '\n')
  | lineStopCrlf =>
    i = text.size || text[i]? = some '\r' ||
      (text[i]? = some '\n' && (i = 0 || text[i - 1]? ≠ some '\r'))
  | word _ .boundary => isWordBefore text i != isWordAt text i
  | word _ .noBoundary => isWordBefore text i == isWordAt text i
  | word _ .start => !isWordBefore text i && isWordAt text i
  | word _ .stop => isWordBefore text i && !isWordAt text i
  | word _ .startHalf => !isWordBefore text i
  | word _ .stopHalf => !isWordAt text i

end Edge

namespace Pattern

/-- The union of two ascending lists. -/
def joinPlaces (xs ys : List Nat) : List Nat := (xs.merge ys).eraseReps

/-- Apply a step a given number of times, as long as it changes anything. -/
def iterate (step : List Nat → List Nat) : Nat → List Nat → List Nat
  | 0, places => places
  | count + 1, places =>
    let next := step places
    if next = places then places else iterate step count next

/-- Everything reached by at most a given number of steps from the latest places. -/
def spread (step : List Nat → List Nat) : Nat → List Nat → List Nat → List Nat
  | 0, reached, _ => reached
  | rounds + 1, reached, latest =>
    match (step latest).filter fun i => !reached.contains i with
    | [] => reached
    | i :: is => spread step rounds (joinPlaces reached (i :: is)) (i :: is)

/-- Where matches end that begin at one of some places. A round of an unlimited repetition that
reaches no new place is the last, so there are no more rounds than places. -/
def ends (text : Array Char) : Pattern → List Nat → List Nat
  | empty, places => places
  | oneOf chars, places =>
    (places.filter fun i => (text[i]?).any chars.contains).map (· + 1)
  | atEdge e, places => places.filter fun i => e.holds text i
  | seq a b, places => b.ends text (a.ends text places)
  | alt a b, places => joinPlaces (a.ends text places) (b.ends text places)
  | times low high a, places =>
    let reached := iterate (a.ends text) low places
    let rounds := match high with
      | some high => high - low
      | none => text.size + 1
    spread (a.ends text) rounds reached reached
  | captured a, places => a.ends text places

def occursIn (p : Pattern) (text : String) : Bool :=
  let text := text.toList.toArray
  !(p.ends text (List.range (text.size + 1))).isEmpty

def ofSequence : List Pattern → Pattern
  | [] => empty
  | [p] => p
  | p :: ps => seq p (ofSequence ps)

def ofBranches : List Pattern → Pattern
  | [] => oneOf .empty
  | [p] => p
  | p :: ps => alt p (ofBranches ps)

def isZeroWidth : Pattern → Bool
  | empty | atEdge _ => true
  | oneOf _ => false
  | seq a b | alt a b => a.isZeroWidth && b.isZeroWidth
  | times _ high a => a.isZeroWidth || high = some 0
  | captured a => a.isZeroWidth

/-- A repetition. One that never repeats is empty, and what takes no characters need not be
repeated more than once. -/
def ofTimes (low : Nat) (high : Option Nat) (p : Pattern) : Pattern :=
  let low := if p.isZeroWidth then min low 1 else low
  let high := if p.isZeroWidth then some (min (high.getD 1) 1) else high
  if high = some 0 then empty
  else if low = 1 && high = some 1 then p
  else times low high p

def usesUnicodeWords : Pattern → Bool
  | atEdge (.word unicode _) => unicode
  | empty | oneOf _ | atEdge _ => false
  | seq a b | alt a b => a.usesUnicodeWords || b.usesUnicodeWords
  | times _ _ a | captured a => a.usesUnicodeWords

/-! ## Room

A pattern with its repetitions written out becomes a list of states. Their room is limited. -/

/-- The bytes that one state takes. -/
def stateRoom : Nat := 32

/-- The room of a set: a single character is a state for each of its bytes, a set in ASCII a state
with its ranges and one to go on from, any other a tree over the bytes of its characters. -/
def setRoom (chars : CharSet) : Nat :=
  match chars.ranges with
  | [(low, high)] =>
    if low = high then (Char.ofNat low).utf8Size * stateRoom
    else if chars.isAscii then 2 * stateRoom + 8
    else 9 * stateRoom + 136
  | ranges =>
    if chars.isAscii then 2 * stateRoom + 8 * ranges.length
    else 9 * stateRoom + 136

def room : Pattern → Nat
  | empty | atEdge _ => stateRoom
  | oneOf chars => setRoom chars
  | seq a b => a.room + b.room
  | alt a b => a.room + b.room + 2 * (stateRoom + 4)
  | times low none a => max low 1 * a.room + stateRoom + 8
  | times low (some high) a =>
    low * a.room + (high - low) * (a.room + stateRoom + 8) + stateRoom
  | captured a => a.room + 2 * stateRoom

/-- The bytes a pattern may take. -/
def roomLimit : Nat := 10485760

@[simp] theorem ends_empty (text : Array Char) (places : List Nat) :
    empty.ends text places = places := rfl

@[simp] theorem ends_seq (text : Array Char) (a b : Pattern) (places : List Nat) :
    (seq a b).ends text places = b.ends text (a.ends text places) := rfl

@[simp] theorem ends_ofSequence_cons (text : Array Char) (p : Pattern) (ps : List Pattern)
    (places : List Nat) :
    (ofSequence (p :: ps)).ends text places = (ofSequence ps).ends text (p.ends text places) := by
  cases ps <;> rfl

end Pattern

end SceneBridge
