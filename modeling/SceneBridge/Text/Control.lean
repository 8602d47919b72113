/-!
# Control characters

What is left of a text for a reader without a terminal: control sequences and control characters
are left out, tabs, form feeds and line breaks stay.
-/

namespace SceneBridge.Text

/-- A control sequence that has begun, by what may come next in it. -/
inductive ControlSequence
  | escape
  | intermediate
  | parameters
  | command
  | deviceEntry
  | deviceParameters
  | deviceIntermediate
  | string
deriving DecidableEq

def isBetween (low high : Nat) (c : Char) : Bool :=
  low ≤ c.toNat && c.toNat ≤ high

/-- Whether one of the bytes of a character is the one that ends a string. -/
def endsString (c : Char) : Bool :=
  (String.utf8EncodeChar c).contains 0x9c

namespace ControlSequence

/-- Whether tabs, form feeds and line breaks inside the sequence are shown. -/
def showsSpacing : ControlSequence → Bool
  | escape | intermediate | parameters => true
  | _ => false

/-- The sequence after one more character; none once the character ends it. -/
def next (sequence : ControlSequence) (c : Char) : Option ControlSequence :=
  match sequence with
  | escape =>
    if c = '[' then some parameters
    else if c = ']' then some command
    else if c = 'P' then some deviceEntry
    else if c = 'X' || c = '^' || c = '_' then some string
    else if isBetween 0x20 0x2f c then some intermediate
    else if isBetween 0x30 0x7e c then none
    else some escape
  | intermediate => if isBetween 0x30 0x7e c then none else some intermediate
  | parameters => if isBetween 0x40 0x7e c then none else some parameters
  | command => if c.toNat = 0x07 then none else some command
  | deviceEntry =>
    if isBetween 0x40 0x7e c then some string
    else if isBetween 0x20 0x2f c then some deviceIntermediate
    else if isBetween 0x30 0x3f c then some deviceParameters
    else some deviceEntry
  | deviceParameters =>
    if isBetween 0x3c 0x7e c then some string
    else if isBetween 0x20 0x2f c then some deviceIntermediate
    else some deviceParameters
  | deviceIntermediate =>
    if isBetween 0x30 0x7e c then some string else some deviceIntermediate
  | string => if endsString c then none else some string

end ControlSequence

def isEscape (c : Char) : Bool := c.toNat = 0x1b

/-- The two controls that cancel whatever sequence they stand in. -/
def isCancel (c : Char) : Bool := c.toNat = 0x18 || c.toNat = 0x1a

def isSpacing (c : Char) : Bool := c = '\t' || c = '\n' || c.toNat = 0x0c || c = '\r'

/-- Whether a character outside of sequences is shown: every one but the controls of ASCII, of
which only spacing is. -/
def isShown (c : Char) : Bool :=
  isSpacing c || (0x20 ≤ c.toNat && c.toNat ≠ 0x7f)

/-- Where a reader of a text stands. Spacing in a sequence suspends it: text is shown up to the next
control that is left out, and there the sequence goes on. A character outside ASCII drops it. -/
inductive ControlMode
  | text (suspended : Option ControlSequence)
  | within (sequence : ControlSequence)
deriving DecidableEq

namespace ControlMode

def resume : Option ControlSequence → ControlMode
  | some sequence => within sequence
  | none => text none

def step (mode : ControlMode) (c : Char) : Bool × ControlMode :=
  if isEscape c then (false, within .escape)
  else if isCancel c then (false, text none)
  else
    match mode with
    | text suspended =>
      if isShown c then (true, text (if c.toNat < 0x80 then suspended else none))
      else (false, resume suspended)
    | within sequence =>
      if isSpacing c && sequence.showsSpacing then (true, text (some sequence))
      else (false, resume (sequence.next c))

end ControlMode

def plainFrom : ControlMode → List Char → List Char
  | _, [] => []
  | mode, c :: cs =>
    match mode.step c with
    | (true, next) => c :: plainFrom next cs
    | (false, next) => plainFrom next cs

/-- A text without its control characters and sequences. -/
def plain (cs : List Char) : List Char := plainFrom (.text none) cs

theorem isShown_of_step {mode next : ControlMode} {c : Char} (h : mode.step c = (true, next)) :
    isShown c = true := by
  simp only [ControlMode.step] at h
  split at h
  · simp at h
  split at h
  · simp at h
  split at h
  · split at h
    · assumption
    · simp at h
  · split at h
    · next hs =>
      rw [Bool.and_eq_true] at hs
      simp [isShown, hs.1]
    · simp at h

theorem step_text_of_isShown {c : Char} (h : isShown c = true) :
    (ControlMode.text none).step c = (true, .text none) := by
  have he : isEscape c = false := by
    rw [Bool.eq_false_iff]
    intro he
    have : c = '\x1b' := Char.toNat_inj.mp (by simpa [isEscape] using he)
    subst this
    exact absurd h (by decide)
  have hc : isCancel c = false := by
    rw [Bool.eq_false_iff]
    intro hc
    simp only [isCancel, Bool.or_eq_true, decide_eq_true_eq] at hc
    rcases hc with hc | hc
    · have : c = '\x18' := Char.toNat_inj.mp hc
      subst this
      exact absurd h (by decide)
    · have : c = '\x1a' := Char.toNat_inj.mp hc
      subst this
      exact absurd h (by decide)
  simp [ControlMode.step, he, hc, h]

theorem isShown_of_mem_plainFrom {cs : List Char} {c : Char} :
    ∀ {mode : ControlMode}, c ∈ plainFrom mode cs → isShown c = true := by
  induction cs with
  | nil => intro mode h; simp [plainFrom] at h
  | cons d ds ih =>
    intro mode h
    simp only [plainFrom] at h
    split at h
    · next hs =>
      rcases List.mem_cons.mp h with rfl | h
      · exact isShown_of_step hs
      · exact ih h
    · exact ih h

theorem plainFrom_sublist (cs : List Char) :
    ∀ mode : ControlMode, (plainFrom mode cs).Sublist cs := by
  induction cs with
  | nil => intro mode; simp [plainFrom]
  | cons d ds ih =>
    intro mode
    simp only [plainFrom]
    split
    · exact (ih _).cons_cons d
    · exact (ih _).cons d

theorem plain_of_isShown {cs : List Char} (h : ∀ c ∈ cs, isShown c = true) : plain cs = cs := by
  unfold plain
  induction cs with
  | nil => rfl
  | cons d ds ih =>
    simp only [plainFrom, step_text_of_isShown (h d List.mem_cons_self),
      ih fun c hc => h c (List.mem_cons_of_mem d hc)]

theorem plain_plain (cs : List Char) : plain (plain cs) = plain cs :=
  plain_of_isShown fun _ hc => isShown_of_mem_plainFrom hc

end SceneBridge.Text
