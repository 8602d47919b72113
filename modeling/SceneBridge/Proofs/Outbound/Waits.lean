import Mathlib.Data.List.Chain
import SceneBridge.Proofs.Outbound.FixedPoint
import SceneBridge.Proofs.Outbound.Warnings

/-!
# Long waits

A run is a series of steps, between which anything may happen to the world and to both sides. A stay
is a part of a run through which an entity waits. `Stay.warnsOnce` says how old its wait is in each
step, and that it is reported by the first step that both succeeds and finds it old enough.
-/

namespace SceneBridge.Outbound

open Wire

variable {κ : Type} [ProjectKind κ]
variable {U V γ : Type} [ComponentSet U] [ComponentSet V] [Guest γ (Raw U) (Raw V)]

/-! ## Single steps -/

/-- What a step is given beside the queue. -/
structure Given (κ U V γ : Type) [ProjectKind κ] [ComponentSet U] [ComponentSet V] where
  world : World κ
  ingestion : Ingestion κ U V
  link : Link γ
  tick : Nat

/-- One step of a run, and the queue it starts from. -/
structure Step (κ U V γ : Type) [ProjectKind κ] [ComponentSet U] [ComponentSet V] extends
    Given κ U V γ where
  before : Outbound

namespace Step

variable (s : Step κ U V γ)

def after : Outbound := (s.before.resolve s.world s.ingestion s.link s.tick).value.2.1

def succeeds : Bool := (s.before.resolve s.world s.ingestion s.link s.tick).value.1.isOk

def log : List LogLine := (s.before.resolve s.world s.ingestion s.link s.tick).log

def heard : List LogLine := guestLines (s.before.exchanges s.world s.ingestion s.link s.tick)

def waiting : List Waiting := (s.before.swept s.world s.ingestion s.link s.tick).waiting

/-- The step writes the line of a wait once, and for no other age. -/
def Reports (e : Entity) (age : Nat) : Prop :=
  ∀ a, s.log.count (waitLine e a) = s.heard.count (waitLine e a) + if a = age then 1 else 0

/-- The step writes no line of the entity's wait. -/
def Silent (e : Entity) : Prop := ∀ a, s.log.count (waitLine e a) = s.heard.count (waitLine e a)

/-- The step succeeds, and a wait is at least `limit` ticks old at its end. -/
def isDue (limit since : Nat) : Bool := s.succeeds && 0 < limit && limit ≤ s.tick - since

variable {s}

theorem succeeds_iff :
    s.succeeds = true ↔ (s.before.swept s.world s.ingestion s.link s.tick).fault = none := by
  cases h : (s.before.swept s.world s.ingestion s.link s.tick).fault with
  | none => simp [succeeds, value_resolve_of_clean h, Except.isOk, Except.toBool]
  | some err => simp [succeeds, resolve_of_fault h, Except.isOk, Except.toBool]

theorem pending_after (s : Step κ U V γ) :
    s.after.pending = s.waiting.map fun p =>
      { p with warned := p.warned || s.succeeds && p.isDue s.before.warnAfter s.tick } := by
  cases h : (s.before.swept s.world s.ingestion s.link s.tick).fault with
  | none =>
    rw [succeeds_iff.mpr h, after, value_resolve_of_clean h]
    simp only [Bool.true_and]
    exact value_reportWaits _ _ _
  | some err =>
    have hfails : s.succeeds = false := by
      rw [← Bool.not_eq_true, succeeds_iff, h]
      simp
    rw [hfails, after, resolve_of_fault h]
    simp [waiting]

theorem warnAfter_after (s : Step κ U V γ) : s.after.warnAfter = s.before.warnAfter := by
  cases h : (s.before.swept s.world s.ingestion s.link s.tick).fault with
  | none => rw [after, value_resolve_of_clean h]
  | some err => rw [after, resolve_of_fault h]

theorem isPending_after_iff {e : Entity} :
    s.after.isPending e = true ↔ ∃ p ∈ s.waiting, p.entity = e := by
  rw [isPending, any_entity_iff, after, map_entity_pending_resolve, List.mem_map]
  rfl

theorem nodup_waiting (h : (s.before.pending.map Waiting.entity).Nodup) :
    (s.waiting.map Waiting.entity).Nodup :=
  ((s.before.course_swept s.world s.ingestion s.link s.tick).ready
    (ready_queue h s.world s.link.table s.tick)).nodup

theorem nodup_after (h : (s.before.pending.map Waiting.entity).Nodup) :
    (s.after.pending.map Waiting.entity).Nodup := by
  rw [after, map_entity_pending_resolve]
  exact nodup_waiting h

theorem proper_of_mem_waiting {p : Waiting} (hp : p ∈ s.waiting) :
    p.entity.isPlaceholder = false := by
  have hqueue := (s.before.course_swept s.world s.ingestion s.link s.tick).waiting.subset hp
  have hcandidate := (mem_queue_iff s.before s.world s.link.table s.tick).mp
    (List.mem_map_of_mem hqueue)
  obtain ⟨bundle, hb⟩ := World.isAlive_iff.mp (isCandidate_iff.mp hcandidate).1.1
  exact (Arena.get?_eq_some_iff.mp hb).1

theorem before_or_new {p : Waiting} (hp : p ∈ s.waiting) :
    p ∈ s.before.pending ∨
      s.before.isPending p.entity = false ∧ p = { entity := p.entity, since := s.tick } := by
  have hqueue := (s.before.course_swept s.world s.ingestion s.link s.tick).waiting.subset hp
  rw [value_queue] at hqueue
  rcases List.mem_append.mp hqueue with hkept | hnew
  · exact .inl (List.mem_filter.mp hkept).1
  · rw [newCandidates_eq] at hnew
    obtain ⟨e, he, rfl⟩ := List.mem_map.mp hnew
    obtain ⟨hfresh, hcandidate⟩ := Bool.and_eq_true_iff.mp (List.mem_filter.mp he).2
    refine .inr ⟨?_, rfl⟩
    -- an entry for a candidate would have been kept
    rw [← Bool.not_eq_true, isPending, List.any_eq_true]
    rintro ⟨q, hq, hqe⟩
    rw [Bool.not_eq_true', ← Bool.not_eq_true, List.any_eq_true] at hfresh
    refine hfresh ⟨q, List.mem_filter.mpr ⟨hq, ?_⟩, hqe⟩
    rw [eq_of_beq hqe]
    exact hcandidate

/-- Beside what the guest writes, a step that succeeds writes a line for each wait that is due. -/
theorem count_log (h : (s.before.pending.map Waiting.entity).Nodup) (e : Entity) (age : Nat) :
    s.log.count (waitLine e age) = s.heard.count (waitLine e age) +
      if s.succeeds = true ∧ ∃ p ∈ s.waiting, p.entity = e ∧
        p.isDue s.before.warnAfter s.tick = true ∧ age = s.tick - p.since then 1 else 0 := by
  cases hfault : (s.before.swept s.world s.ingestion s.link s.tick).fault with
  | none =>
    have hreports := count_reportWaits s.before.warnAfter s.tick (nodup_waiting h)
      (fun p hp => proper_of_mem_waiting hp) e age
    simp only [succeeds_iff.mpr hfault, true_and]
    rw [← hreports]
    exact count_resolve_of_clean hfault
  | some err =>
    have hfails : ¬ s.succeeds = true := by simp [succeeds_iff, hfault]
    rw [if_neg fun hreport => hfails hreport.1]
    exact count_resolve_of_fault hfault

theorem succeeds_and_isDue (s : Step κ U V γ) (limit : Nat) (e : Entity) (since : Nat)
    (warned : Bool) :
    (s.succeeds && Waiting.isDue limit s.tick { entity := e, since, warned }) =
      (!warned && s.isDue limit since) := by
  cases warned with
  | true => simp [Waiting.isDue]
  | false => simp [Waiting.isDue, isDue, Bool.and_assoc]

theorem eq_of_mem_after {e : Entity} {since : Nat} {warned : Bool}
    (hwaiting : ∀ q ∈ s.waiting, q.entity = e → q = { entity := e, since, warned }) {p : Waiting}
    (hp : p ∈ s.after.pending) (hpe : p.entity = e) :
    p = { entity := e, since
          warned := warned || s.isDue s.before.warnAfter since } := by
  rw [pending_after] at hp
  obtain ⟨q, hq, rfl⟩ := List.mem_map.mp hp
  -- a mark that is there stays, and nothing else in the entry changes
  rw [hwaiting q hq hpe, succeeds_and_isDue]
  cases warned with
  | true => rfl
  | false => rfl

theorem silent_of_not_pending (h : (s.before.pending.map Waiting.entity).Nodup) {e : Entity}
    (he : s.after.isPending e = false) : s.Silent e := by
  intro age
  rw [count_log h, if_neg, Nat.add_zero]
  rintro ⟨-, p, hp, hpe, -⟩
  simp [isPending_after_iff.mpr ⟨p, hp, hpe⟩] at he

theorem silent_of_failure (h : (s.before.pending.map Waiting.entity).Nodup)
    (hfails : s.succeeds = false) (e : Entity) : s.Silent e := by
  intro age
  rw [count_log h, if_neg, Nat.add_zero]
  rintro ⟨hsucceeds, -⟩
  simp [hfails] at hsucceeds

theorem mem_after_of_failure (h : (s.before.pending.map Waiting.entity).Nodup)
    (hfails : s.succeeds = false) {p : Waiting} (hp : p ∈ s.before.pending)
    (hstays : s.after.isPending p.entity = true) : p ∈ s.after.pending := by
  obtain ⟨q, hq, hqe⟩ := isPending_after_iff.mp hstays
  -- the entry that is left is the old one, as no second one is made for an entity
  have hsame : q = p := by
    rcases before_or_new hq with hbefore | ⟨hnew, -⟩
    · exact List.inj_on_of_nodup_map h hbefore hp hqe
    · rw [hqe, isPending, ← Bool.not_eq_true, any_entity_iff] at hnew
      exact absurd (List.mem_map_of_mem hp) hnew
  rw [pending_after, hfails]
  simpa [hsame] using hq

end Step

/-! ## Runs -/

def steps (o : Outbound) : List (Given κ U V γ) → List (Step κ U V γ)
  | [] => []
  | given :: rest =>
    let s : Step κ U V γ := ⟨given, o⟩
    s :: steps s.after rest

/-- Steps that follow each other, from an empty queue on, at later and later ticks. -/
structure Run (limit : Nat) (run : List (Step κ U V γ)) : Prop where
  chain : run.IsChain fun s t => t.before = s.after
  start : ∀ s ∈ run.head?, s.before.pending = []
  ticks : run.Pairwise fun s t => s.tick < t.tick
  warnAfter : ∀ s ∈ run, s.before.warnAfter = limit
  nodup : ∀ s ∈ run, (s.before.pending.map Waiting.entity).Nodup

theorem Run.before_eq {limit : Nat} {run part front back : List (Step κ U V γ)}
    {s t : Step κ U V γ} (hrun : Run limit run) (hpart : part <:+: run)
    (hsplit : part = front ++ s :: t :: back) : t.before = s.after := by
  have hchain := hrun.chain.infix hpart
  rw [hsplit] at hchain
  exact (List.isChain_cons_cons.mp (List.isChain_append.mp hchain).2.1).1

theorem head?_steps {o : Outbound} {given : List (Given κ U V γ)} {s : Step κ U V γ}
    (h : s ∈ (steps o given).head?) : s.before = o := by
  cases given with
  | nil => simp [steps] at h
  | cons first rest =>
    obtain rfl := Option.some.inj h
    rfl

theorem isChain_steps (o : Outbound) (given : List (Given κ U V γ)) :
    (steps o given).IsChain fun s t => t.before = s.after := by
  induction given generalizing o with
  | nil => exact .nil
  | cons first rest ih => exact List.isChain_cons.mpr ⟨fun t ht => head?_steps ht, ih _⟩

theorem map_steps (o : Outbound) (given : List (Given κ U V γ)) :
    (steps o given).map Step.toGiven = given := by
  induction given generalizing o with
  | nil => rfl
  | cons first rest ih => rw [steps, List.map_cons, ih]

theorem before_of_mem_steps {P : Outbound → Prop}
    (hstep : ∀ s : Step κ U V γ, P s.before → P s.after) {o : Outbound} (ho : P o)
    {given : List (Given κ U V γ)} : ∀ s ∈ steps o given, P s.before := by
  induction given generalizing o with
  | nil => simp [steps]
  | cons first rest ih => exact List.forall_mem_cons.mpr ⟨ho, ih (hstep ⟨first, o⟩ ho)⟩

theorem run_steps (warnPasses warnAfter : Nat) {given : List (Given κ U V γ)}
    (hticks : (given.map Given.tick).Pairwise (· < ·)) :
    Run warnAfter (steps (.new warnPasses warnAfter) given) where
  chain := isChain_steps _ given
  start s hs := by rw [head?_steps hs]; rfl
  ticks := by
    rw [← map_steps (.new warnPasses warnAfter) given, List.map_map] at hticks
    exact List.pairwise_map.mp hticks
  warnAfter := before_of_mem_steps (P := fun o => o.warnAfter = warnAfter)
    (fun s hs => s.warnAfter_after.trans hs) rfl
  nodup := before_of_mem_steps (P := fun o => (o.pending.map Waiting.entity).Nodup)
    (fun s hs => Step.nodup_after hs) (by simp [Outbound.new])

/-! ## Stays -/

/-- A part of a run through which an entity waits: its first step put the entity in the queue, and
the entity is pending at the end of each. -/
structure Stay (run : List (Step κ U V γ)) (e : Entity) (first : Step κ U V γ)
    (rest : List (Step κ U V γ)) : Prop where
  part : first :: rest <:+: run
  entered : first.before.isPending e = false
  pending : ∀ s ∈ first :: rest, s.after.isPending e = true

/-- Of the steps of a stay the first that finds the wait due reports it, and no other one does. -/
structure Reported (limit : Nat) (e : Entity) (since : Nat) (front : List (Step κ U V γ))
    (s : Step κ U V γ) (back : List (Step κ U V γ)) : Prop where
  early : ∀ u ∈ front, u.isDue limit since = false
  due : s.isDue limit since = true
  reports : s.Reports e (s.tick - since)
  silent : ∀ u ∈ front ++ back, u.Silent e

structure WarnsOnce (limit : Nat) (e : Entity) (first : Step κ U V γ)
    (rest : List (Step κ U V γ)) : Prop where
  since : ∀ front s back, first :: rest = front ++ s :: back → first.tick ≤ s.tick ∧
    ∀ p, p ∈ s.after.pending ∧ p.entity = e ↔
      p = { entity := e, since := first.tick
            warned := (front ++ [s]).any fun u => u.isDue limit first.tick }
  once : (∀ s ∈ first :: rest, s.isDue limit first.tick = false ∧ s.Silent e) ∨
    ∃ front s back, first :: rest = front ++ s :: back ∧ Reported limit e first.tick front s back

namespace Stay

variable {limit : Nat} {run rest front back : List (Step κ U V γ)} {first s : Step κ U V γ}
variable {e : Entity}

/-- What waits is the entry of the first step, marked if the wait has been due since. -/
theorem waiting_eq (hrun : Run limit run) (h : Stay run e first rest)
    (hsplit : first :: rest = front ++ s :: back) {p : Waiting} (hp : p ∈ s.waiting)
    (hpe : p.entity = e) :
    p = { entity := e, since := first.tick
          warned := front.any fun u => u.isDue limit first.tick } := by
  -- from the last step in front back to the first, which has no entry to start from
  induction front using List.reverseRecOn generalizing s back p with
  | nil =>
    obtain ⟨rfl, -⟩ := List.cons.inj hsplit
    rcases Step.before_or_new hp with hbefore | ⟨-, hnew⟩
    · have hentered := h.entered
      rw [← hpe, isPending, ← Bool.not_eq_true, any_entity_iff] at hentered
      exact absurd (List.mem_map_of_mem hbefore) hentered
    · rw [hpe] at hnew
      exact hnew
  | append_singleton front u ih =>
    rw [List.append_assoc, List.singleton_append] at hsplit
    have hu : u ∈ first :: rest := by simp [hsplit]
    have hnext := hrun.before_eq h.part hsplit
    rcases Step.before_or_new hp with hbefore | ⟨hnew, -⟩
    · -- the entry is the one that the step before has left
      rw [hnext] at hbefore
      rw [Step.eq_of_mem_after (fun q hq hqe => ih hsplit hq hqe) hbefore hpe,
        hrun.warnAfter u (h.part.subset hu), List.any_append]
      simp
    · rw [hnext, hpe, h.pending u hu] at hnew
      simp at hnew

theorem mem_after_iff (hrun : Run limit run) (h : Stay run e first rest)
    (hsplit : first :: rest = front ++ s :: back) (p : Waiting) :
    p ∈ s.after.pending ∧ p.entity = e ↔
      p = { entity := e, since := first.tick
            warned := (front ++ [s]).any fun u => u.isDue limit first.tick } := by
  have hs : s ∈ first :: rest := by simp [hsplit]
  have heq : ∀ p ∈ s.after.pending, p.entity = e →
      p = { entity := e, since := first.tick
            warned := (front ++ [s]).any fun u => u.isDue limit first.tick } := by
    intro p hp hpe
    rw [Step.eq_of_mem_after (fun q hq hqe => h.waiting_eq hrun hsplit hq hqe) hp hpe,
      hrun.warnAfter s (h.part.subset hs), List.any_append]
    simp
  refine ⟨fun hp => heq p hp.1 hp.2, ?_⟩
  rintro rfl
  have hpending := h.pending s hs
  rw [isPending, any_entity_iff] at hpending
  obtain ⟨p, hp, hpe⟩ := List.mem_map.mp hpending
  rw [← heq p hp hpe]
  exact ⟨hp, hpe⟩

theorem tick_le (hrun : Run limit run) (h : Stay run e first rest) (hs : s ∈ first :: rest) :
    first.tick ≤ s.tick := by
  have hticks := List.pairwise_cons.mp (hrun.ticks.sublist h.part.sublist)
  rcases List.mem_cons.mp hs with rfl | hs
  · exact Nat.le_refl _
  · exact Nat.le_of_lt (hticks.1 s hs)

theorem count_log (hrun : Run limit run) (h : Stay run e first rest)
    (hsplit : first :: rest = front ++ s :: back) (age : Nat) :
    s.log.count (waitLine e age) = s.heard.count (waitLine e age) +
      if (∀ u ∈ front, u.isDue limit first.tick = false) ∧ s.isDue limit first.tick = true ∧
        age = s.tick - first.tick then 1 else 0 := by
  have hs : s ∈ first :: rest := by simp [hsplit]
  have hfront : (!front.any fun u => u.isDue limit first.tick) = true ↔
      ∀ u ∈ front, u.isDue limit first.tick = false := by simp
  rw [Step.count_log (hrun.nodup s (h.part.subset hs)), hrun.warnAfter s (h.part.subset hs)]
  refine congrArg _ (if_congr ?_ rfl rfl)
  rw [← hfront, ← and_assoc, ← Bool.and_eq_true, ← Step.succeeds_and_isDue (e := e),
    Bool.and_eq_true]
  constructor
  · rintro ⟨hsucceeds, p, hp, hpe, hdue, rfl⟩
    rw [h.waiting_eq hrun hsplit hp hpe] at hdue ⊢
    exact ⟨⟨hsucceeds, hdue⟩, rfl⟩
  · rintro ⟨⟨hsucceeds, hdue⟩, rfl⟩
    obtain ⟨p, hp, hpe⟩ := Step.isPending_after_iff.mp (h.pending s hs)
    obtain rfl := h.waiting_eq hrun hsplit hp hpe
    exact ⟨hsucceeds, _, hp, rfl, hdue, rfl⟩

theorem silent_of_not_due (hrun : Run limit run) (h : Stay run e first rest)
    (hs : s ∈ first :: rest) (hdue : s.isDue limit first.tick = false) : s.Silent e := by
  intro age
  obtain ⟨front, back, hsplit⟩ := List.append_of_mem hs
  rw [h.count_log hrun hsplit, if_neg (by simp [hdue]), Nat.add_zero]

theorem silent_of_due_before (hrun : Run limit run) (h : Stay run e first rest)
    (hsplit : first :: rest = front ++ s :: back) {u : Step κ U V γ} (hu : u ∈ front)
    (hdue : u.isDue limit first.tick = true) : s.Silent e := by
  intro age
  rw [h.count_log hrun hsplit, if_neg, Nat.add_zero]
  rintro ⟨hearly, -⟩
  simp [hearly u hu] at hdue

theorem reported (hrun : Run limit run) (h : Stay run e first rest)
    (hsplit : first :: rest = front ++ s :: back)
    (hearly : ∀ u ∈ front, u.isDue limit first.tick = false)
    (hdue : s.isDue limit first.tick = true) : Reported limit e first.tick front s back where
  early := hearly
  due := hdue
  reports age := by
    rw [h.count_log hrun hsplit]
    exact congrArg _ (if_congr ((and_iff_right hearly).trans (and_iff_right hdue)) rfl rfl)
  silent u hu := by
    rcases List.mem_append.mp hu with hu | hu
    · exact h.silent_of_not_due hrun (by simp [hsplit, hu]) (hearly u hu)
    · obtain ⟨passed, later, rfl⟩ := List.append_of_mem hu
      have hlater : first :: rest = (front ++ s :: passed) ++ u :: later := by simp [hsplit]
      exact h.silent_of_due_before hrun hlater (by simp) hdue

theorem warnsOnce (hrun : Run limit run) (h : Stay run e first rest) :
    WarnsOnce limit e first rest where
  since front s back hsplit :=
    ⟨h.tick_le hrun (by simp [hsplit]), h.mem_after_iff hrun hsplit⟩
  once := by
    cases hfind : (first :: rest).find? fun s => s.isDue limit first.tick with
    | none =>
      refine .inl fun s hs => ?_
      have hdue := List.find?_eq_none.mp hfind s hs
      exact ⟨eq_false_of_ne_true hdue,
        h.silent_of_not_due hrun hs (eq_false_of_ne_true hdue)⟩
    | some s =>
      obtain ⟨hdue, front, back, hsplit, hearly⟩ := List.find?_eq_some_iff_append.mp hfind
      exact .inr ⟨front, s, back, hsplit,
        h.reported hrun hsplit (fun u hu => by simpa using hearly u hu) hdue⟩

end Stay

/-- Whoever is pending is in a stay, since nobody is pending before the run. -/
theorem Run.exists_stay {limit : Nat} {run : List (Step κ U V γ)} (hrun : Run limit run)
    {s : Step κ U V γ} (hs : s ∈ run) {e : Entity} (he : s.after.isPending e = true) :
    ∃ first rest, Stay run e first rest ∧ s ∈ first :: rest := by
  obtain ⟨front, back, hsplit⟩ := List.append_of_mem hs
  suffices hends : ∃ passed first rest, front ++ [s] = passed ++ first :: rest ∧
      s ∈ first :: rest ∧ first.before.isPending e = false ∧
      ∀ u ∈ first :: rest, u.after.isPending e = true by
    obtain ⟨passed, first, rest, hstay, hmem, hentered, hpending⟩ := hends
    refine ⟨first, rest, ⟨⟨passed, back, ?_⟩, hentered, hpending⟩, hmem⟩
    rw [← hstay, hsplit, List.append_assoc, List.singleton_append]
  clear hs
  induction front using List.reverseRecOn generalizing s back with
  | nil =>
    refine ⟨[], s, [], rfl, List.mem_cons_self, ?_, by simpa using he⟩
    rw [isPending, hrun.start s (by simp [hsplit])]
    rfl
  | append_singleton front u ih =>
    rw [List.append_assoc, List.singleton_append] at hsplit
    cases hbefore : s.before.isPending e with
    | false =>
      exact ⟨front ++ [u], s, [], rfl, List.mem_cons_self, hbefore, by simpa using he⟩
    | true =>
      -- the stay of the step before goes on
      have hnext := hrun.before_eq List.infix_rfl hsplit
      obtain ⟨passed, first, rest, hstay, -, hentered, hpending⟩ := ih (hnext ▸ hbefore) _ hsplit
      refine ⟨passed, first, rest ++ [s], ?_, by simp, hentered, ?_⟩
      · rw [hstay, List.append_assoc, List.cons_append]
      · rw [← List.cons_append]
        exact List.forall_mem_append.mpr ⟨hpending, by simpa using he⟩

/-- The waits of a run: who is pending when, since when, and what is reported of it. -/
structure TellsWaits (limit : Nat) (run : List (Step κ U V γ)) : Prop where
  stays : ∀ e first rest, Stay run e first rest → WarnsOnce limit e first rest
  covered : ∀ s ∈ run, ∀ e, s.after.isPending e = true →
    ∃ first rest, Stay run e first rest ∧ s ∈ first :: rest
  since_le : ∀ s ∈ run, ∀ p ∈ s.after.pending, p.since ≤ s.tick
  absent : ∀ s ∈ run, ∀ e, s.after.isPending e = false → s.Silent e
  failing : ∀ s ∈ run, s.succeeds = false → (∀ e, s.Silent e) ∧
    ∀ p ∈ s.before.pending, s.after.isPending p.entity = true → p ∈ s.after.pending

/-- Whatever happens between the steps of a run at later and later ticks, a wait is counted from
the step that began it, and is reported once if it lasts for `warnAfter` ticks. -/
theorem tellsWaits_of_ticks (warnPasses warnAfter : Nat) (given : List (Given κ U V γ))
    (hticks : (given.map Given.tick).Pairwise (· < ·)) :
    TellsWaits warnAfter (steps (.new warnPasses warnAfter) given) where
  stays _ _ _ h := h.warnsOnce (run_steps warnPasses warnAfter hticks)
  covered s hs e he := (run_steps warnPasses warnAfter hticks).exists_stay hs he
  since_le s hs p hp := by
    have hrun := run_steps warnPasses warnAfter hticks
    have he : s.after.isPending p.entity = true := any_entity_iff.mpr (List.mem_map_of_mem hp)
    obtain ⟨first, rest, hstay, hmem⟩ := hrun.exists_stay hs he
    obtain ⟨front, back, hsplit⟩ := List.append_of_mem hmem
    rw [((hstay.mem_after_iff hrun hsplit p).mp ⟨hp, rfl⟩)]
    exact hstay.tick_le hrun hmem
  absent s hs _ he :=
    Step.silent_of_not_pending ((run_steps warnPasses warnAfter hticks).nodup s hs) he
  failing s hs hfails :=
    have hnodup := (run_steps warnPasses warnAfter hticks).nodup s hs
    ⟨Step.silent_of_failure hnodup hfails,
      fun _ hp hstays => Step.mem_after_of_failure hnodup hfails hp hstays⟩

def childAnd (others : List (List (Component Empty))) : World Empty :=
  ([] :: [⟨.shareRequest, ()⟩, ⟨.parent, slotEntity 0⟩] :: others).foldl
    (fun w components => (w.spawnWith components).2) .empty

/-- The child waits through five steps, of which the third fails because the guest refuses somebody
else, and again after a step on an empty world. -/
def interruptedWait : List (Given Empty Empty Empty (ScriptedGuest Empty Empty)) :=
  let refusing : Link (ScriptedGuest Empty Empty) :=
    { table := .empty, guest := { replies := [GuestId.invalid.raw] } }
  let wait (tick : Nat) : Given Empty Empty Empty (ScriptedGuest Empty Empty) :=
    ⟨childAnd [], noRecords, tangledLink, tick⟩
  [wait 1, wait 2, ⟨childAnd [[⟨.shareRequest, ()⟩]], noRecords, refusing, 4⟩, wait 5, wait 6,
    ⟨.empty, noRecords, tangledLink, 7⟩, wait 8, wait 10]

theorem interruptedWait_tellsWaits :
    let run := steps (.new 4 2) interruptedWait
    (interruptedWait.map Given.tick).Pairwise (· < ·) ∧
      run.map Step.succeeds = [true, true, false, true, true, true, true, true] ∧
      run.map (fun s => s.after.pending.map fun p => (p.entity, p.since, p.warned)) =
        [(1, false), (1, false), (1, false), (1, true), (1, true)].map
            (fun p => [(slotEntity 1, p)]) ++
          [[], [(slotEntity 1, 8, false)], [(slotEntity 1, 8, true)]] ∧
      run.map (fun s => warnings s.log) =
        [[], [], [], [waitLine (slotEntity 1) 4], [], [], [], [waitLine (slotEntity 1) 2]] ∧
      TellsWaits 2 run :=
  ⟨by decide, by decide, by decide, by decide +kernel,
    tellsWaits_of_ticks 4 2 interruptedWait (by decide)⟩

end SceneBridge.Outbound
