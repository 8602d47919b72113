/-!
# Sets of characters

A set is a list of inclusive ranges of code points, ascending and with gaps between them. The
operations keep that form; `containsCode_insert` says what adding a range does.
-/

namespace SceneBridge.Pattern

structure CharSet where
  ranges : List (Nat × Nat)
deriving DecidableEq

namespace CharSet

def empty : CharSet := ⟨[]⟩

def range (low high : Nat) : CharSet := ⟨[(low, high)]⟩

def single (c : Char) : CharSet := range c.toNat c.toNat

/-- All characters: every code point that is not a surrogate. -/
def scalars : CharSet := ⟨[(0, 0xd7ff), (0xe000, 0x10ffff)]⟩

/-- The code points that one byte can hold. -/
def bytes : CharSet := range 0 0xff

def containsCode (s : CharSet) (n : Nat) : Bool :=
  s.ranges.any fun (low, high) => low ≤ n && n ≤ high

def contains (s : CharSet) (c : Char) : Bool := s.containsCode c.toNat

def isEmpty (s : CharSet) : Bool := s.ranges.isEmpty

def isAscii (s : CharSet) : Bool := s.ranges.all fun (_, high) => high ≤ 0x7f

/-- Add a range, joining it with those that it meets. -/
def insertRange (low high : Nat) : List (Nat × Nat) → List (Nat × Nat)
  | [] => [(low, high)]
  | (a, b) :: rest =>
    if high + 1 < a then (low, high) :: (a, b) :: rest
    else if b + 1 < low then (a, b) :: insertRange low high rest
    else insertRange (min low a) (max high b) rest

def insert (s : CharSet) (low high : Nat) : CharSet := ⟨insertRange low high s.ranges⟩

def union (s t : CharSet) : CharSet :=
  t.ranges.foldl (fun s (low, high) => s.insert low high) s

def ofRanges (ranges : List (Nat × Nat)) : CharSet := union empty ⟨ranges⟩

def overlap? : Nat × Nat → Nat × Nat → Option (Nat × Nat)
  | (a, b), (c, d) => if max a c ≤ min b d then some (max a c, min b d) else none

def inter (s t : CharSet) : CharSet :=
  ofRanges (s.ranges.flatMap fun r => t.ranges.filterMap (overlap? r))

def gapsFrom (first last : Nat) : List (Nat × Nat) → List (Nat × Nat)
  | [] => if first ≤ last then [(first, last)] else []
  | (low, high) :: rest =>
    (if first < low then [(first, low - 1)] else []) ++ gapsFrom (high + 1) last rest

def diff (s t : CharSet) : CharSet := s.inter ⟨gapsFrom 0 0x10ffff t.ranges⟩

def symmDiff (s t : CharSet) : CharSet := (s.diff t).union (t.diff s)

/-- The same set with the other case of each of its ASCII letters. -/
def foldAscii (s : CharSet) : CharSet :=
  let upper := (s.inter (range 0x41 0x5a)).ranges.map fun (a, b) => (a + 32, b + 32)
  let lower := (s.inter (range 0x61 0x7a)).ranges.map fun (a, b) => (a - 32, b - 32)
  (s.union ⟨upper⟩).union ⟨lower⟩

/-! ## Named sets -/

def digit : CharSet := ⟨[(0x30, 0x39)]⟩
def lower : CharSet := ⟨[(0x61, 0x7a)]⟩
def upper : CharSet := ⟨[(0x41, 0x5a)]⟩
def space : CharSet := ⟨[(0x09, 0x0d), (0x20, 0x20)]⟩
def word : CharSet := ⟨[(0x30, 0x39), (0x41, 0x5a), (0x5f, 0x5f), (0x61, 0x7a)]⟩

/-- The sets of ASCII characters that a pattern may name inside brackets. -/
def named : List (String × CharSet) :=
  [("alnum", ⟨[(0x30, 0x39), (0x41, 0x5a), (0x61, 0x7a)]⟩),
   ("alpha", ⟨[(0x41, 0x5a), (0x61, 0x7a)]⟩),
   ("ascii", ⟨[(0x00, 0x7f)]⟩),
   ("blank", ⟨[(0x09, 0x09), (0x20, 0x20)]⟩),
   ("cntrl", ⟨[(0x00, 0x1f), (0x7f, 0x7f)]⟩),
   ("digit", digit),
   ("graph", ⟨[(0x21, 0x7e)]⟩),
   ("lower", lower),
   ("print", ⟨[(0x20, 0x7e)]⟩),
   ("punct", ⟨[(0x21, 0x2f), (0x3a, 0x40), (0x5b, 0x60), (0x7b, 0x7e)]⟩),
   ("space", space),
   ("upper", upper),
   ("word", word),
   ("xdigit", ⟨[(0x30, 0x39), (0x41, 0x46), (0x61, 0x66)]⟩)]

theorem containsCode_insert {s : CharSet} (hs : ∀ r ∈ s.ranges, r.1 ≤ r.2) {low high : Nat}
    (h : low ≤ high) (n : Nat) :
    (s.insert low high).containsCode n = ((low ≤ n && n ≤ high) || s.containsCode n) := by
  obtain ⟨ranges⟩ := s
  simp only [insert, containsCode] at hs ⊢
  induction ranges generalizing low high with
  | nil => simp [insertRange]
  | cons r rest ih =>
    obtain ⟨a, b⟩ := r
    have hab : a ≤ b := hs (a, b) List.mem_cons_self
    have hrest : ∀ r ∈ rest, r.1 ≤ r.2 := fun r hr => hs r (List.mem_cons_of_mem _ hr)
    simp only [insertRange]
    split
    · rfl
    split
    · rw [List.any_cons, ih h hrest, List.any_cons]
      exact Bool.or_left_comm ..
    · rw [ih (by omega) hrest, List.any_cons, ← Bool.or_assoc]
      congr 1
      rw [Bool.eq_iff_iff]
      simp only [Bool.and_eq_true, Bool.or_eq_true, decide_eq_true_eq]
      omega

end CharSet

end SceneBridge.Pattern
