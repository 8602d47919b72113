import SceneBridge.Proofs.Outbound.FixedPoint

/-!
# How many sweeps a step takes

The depth of an entity counts the candidates from it up to the first one that nothing keeps waiting.
A sweep brings the depth of everybody it leaves behind down, in whatever order it goes through its
queue. So a step needs no more sweeps than the largest depth, and one more to find out that somebody
is left who has to wait.
-/

namespace SceneBridge.Outbound

open Wire

variable {κ : Type} [ProjectKind κ]

/-! ## Depths -/

inductive Depth (w : World κ) (table : Correspondence) : Entity → Nat → Prop
  | root {e : Entity} (candidate : isCandidate w table e = true)
      (orphan : w.get e .parent = none) : Depth w table e 1
  | shared {e parent : Entity} (candidate : isCandidate w table e = true)
      (child : w.get e .parent = some parent) (known : table.containsHost parent = true) :
      Depth w table e 1
  | chained {e parent : Entity} {n : Nat} (candidate : isCandidate w table e = true)
      (child : w.get e .parent = some parent) (tail : Depth w table parent n) :
      Depth w table e (n + 1)

/-- The largest depth of a table's candidates; zero if none of them has one. -/
structure Deepest (w : World κ) (table : Correspondence) (D : Nat) : Prop where
  bound : ∀ e n, Depth w table e n → n ≤ D
  attained : D = 0 ∨ ∃ e, Depth w table e D

variable {w : World κ} {t : Correspondence} {e : Entity} {m n : Nat}

theorem Depth.pos (h : Depth w t e n) : 0 < n := by
  cases h with
  | root => omega
  | shared => omega
  | chained => omega

theorem Depth.candidate (h : Depth w t e n) : isCandidate w t e = true := by
  cases h with
  | root candidate _ => exact candidate
  | shared candidate _ _ => exact candidate
  | chained candidate _ _ => exact candidate

theorem exists_depth_iff : (∃ n, Depth w t e n) ↔ Resolvable w t e := by
  constructor
  · rintro ⟨n, h⟩
    induction h with
    | root candidate orphan => exact .root candidate orphan
    | shared candidate child known => exact .shared candidate child known
    | chained candidate child _ ih => exact .chained candidate child ih
  · intro h
    induction h with
    | root candidate orphan => exact ⟨1, .root candidate orphan⟩
    | shared candidate child known => exact ⟨1, .shared candidate child known⟩
    | chained candidate child _ ih =>
      obtain ⟨n, hn⟩ := ih
      exact ⟨n + 1, .chained candidate child hn⟩

theorem Depth.of_chained {parent : Entity} (h : Depth w t e n)
    (child : w.get e .parent = some parent) (tail : Depth w t parent m) :
    ∃ m', Depth w t parent m' ∧ n = m' + 1 := by
  have hunshared : t.containsHost parent = false := (isCandidate_iff.mp tail.candidate).2
  cases h with
  | root _ orphan => simp [orphan] at child
  | shared _ child' known =>
    obtain rfl := Option.some.inj (child'.symm.trans child)
    simp [hunshared] at known
  | @chained _ parent' m' _ child' tail' =>
    obtain rfl := Option.some.inj (child'.symm.trans child)
    exact ⟨m', tail', rfl⟩

theorem Depth.unique (hm : Depth w t e m) (hn : Depth w t e n) : m = n := by
  induction hm generalizing n with
  | root _ orphan =>
    cases hn with
    | root => rfl
    | shared => rfl
    | chained _ child _ => simp [orphan] at child
  | shared _ child known =>
    cases hn with
    | root => rfl
    | shared => rfl
    | chained _ child' tail =>
      obtain rfl := Option.some.inj (child'.symm.trans child)
      have hunshared := (isCandidate_iff.mp tail.candidate).2
      simp [hunshared] at known
  | chained _ child tail ih =>
    obtain ⟨m', hm', rfl⟩ := hn.of_chained child tail
    rw [ih hm']

theorem exists_deepest {pairs : List (Entity × GuestId)}
    (hpairs : ∀ e, Resolvable w t e → e ∈ pairs.map Prod.fst) : ∃ D, Deepest w t D := by
  -- the largest depth within a list of hosts, the list growing host by host
  have hlist : ∀ hosts : List Entity, ∃ D, (∀ e ∈ hosts, ∀ n, Depth w t e n → n ≤ D) ∧
      (D = 0 ∨ ∃ e, Depth w t e D) := by
    intro hosts
    induction hosts with
    | nil => exact ⟨0, by simp, .inl rfl⟩
    | cons f hosts ih =>
      obtain ⟨D, hbound, hattained⟩ := ih
      by_cases hdeeper : ∃ n, Depth w t f n ∧ D < n
      · obtain ⟨n, hn, hlt⟩ := hdeeper
        refine ⟨n, fun e he m hm => ?_, .inr ⟨f, hn⟩⟩
        rcases List.mem_cons.mp he with rfl | he
        · exact Nat.le_of_eq (hm.unique hn)
        · have hle := hbound e he m hm
          omega
      · refine ⟨D, fun e he m hm => ?_, hattained⟩
        rcases List.mem_cons.mp he with rfl | he
        · by_contra hlt
          exact hdeeper ⟨m, hm, by omega⟩
        · exact hbound e he m hm
  obtain ⟨D, hbound, hattained⟩ := hlist (pairs.map Prod.fst)
  exact ⟨D, fun e n hn => hbound e (hpairs e (exists_depth_iff.mp ⟨n, hn⟩)) n hn, hattained⟩

theorem Depth.of_free (candidate : isCandidate w t e = true)
    (hfree : ∀ parent, ¬ WaitsFor w t e parent) : Depth w t e 1 := by
  cases hparent : w.get e .parent with
  | none => exact .root candidate hparent
  | some parent =>
    refine .shared candidate hparent ?_
    rw [← Bool.not_eq_false]
    intro hunknown
    exact hfree parent ⟨hparent, hunknown⟩

/-! ## Chains -/

/-- The candidates hang one below the other, and nothing keeps the topmost waiting. -/
structure Chain (w : World κ) (table : Correspondence) (links : List Entity) : Prop where
  candidates : ∀ e, isCandidate w table e = true ↔ e ∈ links
  top : ∀ e ∈ links.head?, ∀ parent, ¬ WaitsFor w table e parent
  below : links.IsChain fun e f => w.get f .parent = some e

theorem Chain.depth {links : List Entity} (h : Chain w t links) (i : Nat)
    (hi : i < links.length) : Depth w t links[i] (i + 1) := by
  have hcandidate : isCandidate w t links[i] = true :=
    (h.candidates _).mpr (List.getElem_mem hi)
  induction i with
  | zero =>
    refine .of_free hcandidate (h.top _ ?_)
    rw [List.head?_eq_getElem?, List.getElem?_eq_getElem hi]
    rfl
  | succ i ih =>
    have hparent := List.isChain_iff_getElem.mp h.below i hi
    have hi' : i < links.length := by omega
    exact .chained hcandidate hparent (ih hi' ((h.candidates _).mpr (List.getElem_mem hi')))

theorem Chain.depth_le {links : List Entity} (h : Chain w t links) (hdepth : Depth w t e n) :
    n ≤ links.length := by
  obtain ⟨i, hi, rfl⟩ := List.getElem_of_mem ((h.candidates e).mp hdepth.candidate)
  have heq := hdepth.unique (h.depth i hi)
  omega

theorem Chain.resolvable {links : List Entity} (h : Chain w t links)
    (he : isCandidate w t e = true) : Resolvable w t e := by
  obtain ⟨i, hi, rfl⟩ := List.getElem_of_mem ((h.candidates e).mp he)
  exact exists_depth_iff.mp ⟨i + 1, h.depth i hi⟩

/-! ## One sweep -/

variable {U V γ : Type} [ComponentSet U] [ComponentSet V] [Guest γ (Raw U) (Raw V)]
variable {ingestion : Ingestion κ U V} {link : Link γ} {queue : List Waiting}
variable {xs : List (Exchange γ (Raw U) (Raw V))} {s : Swept γ}

def Covers (w : World κ) (table : Correspondence) (queue : List Waiting) : Prop :=
  ∀ e, isCandidate w table e = true → e ∈ queue.map Waiting.entity

theorem Course.covers (h : Course w ingestion link queue xs s) (clean : s.fault = none)
    (hcovers : Covers w link.table queue) : Covers w s.link.table s.waiting := by
  intro e he
  obtain ⟨hbefore, hnot⟩ := (isCandidate_of_grown h.grown).mp he
  exact (h.mem_spawned_or_waiting clean (hcovers e hbefore)).resolve_left hnot

/-- Whoever a clean sweep leaves behind had to wait when it began. -/
theorem Sweeps.blocked (h : Sweeps w ingestion link queue xs s) (clean : s.fault = none) :
    ∀ p ∈ s.waiting, ∃ parent, WaitsFor w link.table p.entity parent := by
  induction h with
  | done link => intro p hp; simp at hp
  | @deferred link p rest xs s parent blocked _ ih =>
    intro q hq
    rcases List.mem_cons.mp hq with rfl | hq
    · obtain ⟨hparent, hunknown⟩ := request_eq_error_iff.mp blocked
      exact ⟨parent, hparent, Correspondence.containsHost_eq_false_iff.mpr hunknown⟩
    · exact ih clean q hq
  | @accepted x p rest xs s table _ _ _ ih =>
    intro q hq
    obtain ⟨parent, hwait⟩ := ih clean q hq
    exact ⟨parent, hwait.of_grown x.grown_next⟩
  | failed _ _ => simp at clean

/-- Depths come down in a sweep. The induction is on the depth afterwards: whoever is left behind
waited for a parent, which the sweep either shared or left behind too. -/
theorem Sweeps.depth_lt (h : Sweeps w ingestion link queue xs s) (clean : s.fault = none)
    (hready : Ready w link.table queue) (hcovers : Covers w link.table queue)
    (hdepth : Depth w s.link.table e m) : ∃ n, m < n ∧ Depth w link.table e n := by
  have hcourse := h.course
  have hleft : ∀ f, isCandidate w s.link.table f = true →
      isCandidate w link.table f = true ∧ ∃ parent, WaitsFor w link.table f parent := by
    intro f hf
    obtain ⟨p, hp, rfl⟩ := List.mem_map.mp (hcourse.covers clean hcovers f hf)
    exact ⟨((isCandidate_of_grown hcourse.grown).mp hf).1, h.blocked clean p hp⟩
  induction hdepth with
  | root candidate orphan =>
    obtain ⟨-, parent, hparent, -⟩ := hleft _ candidate
    simp [orphan] at hparent
  | @shared e parent candidate child known =>
    obtain ⟨hbefore, parent', hwait⟩ := hleft _ candidate
    obtain rfl := Option.some.inj (child.symm.trans hwait.1)
    -- the parent was not shared before, so it is among those that the sweep shared
    have hspawned : parent ∈ s.spawned.map Prod.fst := by
      refine ((hcourse.grown.containsHost_iff parent).mp known).resolve_left ?_
      simp [hwait.2]
    obtain ⟨n, hn⟩ := exists_depth_iff.mpr (hcourse.resolvable hready parent hspawned)
    have hpos := hn.pos
    exact ⟨n + 1, by omega, .chained hbefore child hn⟩
  | chained candidate child _ ih =>
    obtain ⟨n, hlt, hn⟩ := ih
    exact ⟨n + 1, by omega, .chained (hleft _ candidate).1 child hn⟩

/-! ## All sweeps -/

variable {passes : Nat}

theorem Settles.passes_eq_zero_iff (h : Settles w ingestion link queue xs passes s) :
    passes = 0 ↔ queue = [] := by
  cases h with
  | empty => simp
  | last => simp
  | more => simp

theorem Settles.passes_le_length (h : Settles w ingestion link queue xs passes s) :
    passes ≤ queue.length := by
  induction h with
  | empty => simp
  | last => simp
  | more sweep _ progress _ ih =>
    have hlt := sweep.waiting_length_lt progress
    omega

theorem Course.waiting_ne_nil (h : Course w ingestion link queue xs s) (clean : s.fault = none)
    (hqueue : queue ≠ []) (hidle : s.spawned = []) : s.waiting ≠ [] := by
  obtain ⟨p, rest, rfl⟩ := List.exists_cons_of_ne_nil hqueue
  have hp := h.mem_spawned_or_waiting clean (e := p.entity) (by simp)
  intro hnone
  simp [hidle, hnone] at hp

theorem Settles.passes_le_depth (h : Settles w ingestion link queue xs passes s)
    (clean : s.fault = none) (hready : Ready w link.table queue)
    (hcovers : Covers w link.table queue) {D : Nat}
    (hbound : ∀ e n, Depth w link.table e n → n ≤ D) :
    passes ≤ if s.waiting = [] then D else D + 1 := by
  induction h generalizing D with
  | empty => simp
  | @last link p rest xs s sweep stop =>
    have hidle : s.spawned = [] := stop.resolve_left (not_not.mpr clean)
    rw [if_neg (sweep.course.waiting_ne_nil clean (by simp) hidle)]
    omega
  | @more link p rest xs ys s t passes sweep hclean progress tail ih =>
    have hcourse := sweep.course
    -- somebody was shared, so the largest depth is not zero
    obtain ⟨pair, pairs, hspawned⟩ := List.exists_cons_of_ne_nil progress
    obtain ⟨k, hk⟩ := exists_depth_iff.mpr
      (hcourse.resolvable hready pair.1 (by simp [hspawned]))
    have hpos : 0 < D := Nat.lt_of_lt_of_le hk.pos (hbound _ k hk)
    have hlower : ∀ e m, Depth w s.link.table e m → m ≤ D - 1 := by
      intro e m hm
      obtain ⟨n, hlt, hn⟩ := sweep.depth_lt hclean hready hcovers hm
      have hle := hbound e n hn
      omega
    have hrest := ih clean (hcourse.ready hready) (hcourse.covers hclean hcovers) hlower
    show passes + 1 ≤ if t.waiting = [] then D else D + 1
    split at hrest
    · next hwaiting => rw [if_pos hwaiting]; omega
    · next hwaiting => rw [if_neg hwaiting]; omega

def sweepsFrom (w : World κ) (ingestion : Ingestion κ U V) :
    Nat → Link γ → List Waiting → List (Swept γ)
  | 0, _, _ => []
  | _ + 1, _, [] => []
  | fuel + 1, link, p :: queue =>
    let first := (sweep w ingestion link (p :: queue)).value
    first :: if first.fault.isSome || first.spawned.isEmpty then []
      else sweepsFrom w ingestion fuel first.link first.waiting

def sweeps (o : Outbound) (w : World κ) (ingestion : Ingestion κ U V) (link : Link γ)
    (tick : Nat) : List (Swept γ) :=
  let queue := (o.queue w link.table tick).value
  sweepsFrom w ingestion queue.length link queue

theorem settle_eq_sweepsFrom (w : World κ) (ingestion : Ingestion κ U V) (fuel : Nat)
    (link : Link γ) (queue : List Waiting) :
    (settle w ingestion fuel link queue).value.1 =
        (sweepsFrom w ingestion fuel link queue).length ∧
      (settle w ingestion fuel link queue).value.2.spawned =
        (sweepsFrom w ingestion fuel link queue).flatMap Swept.spawned := by
  induction fuel generalizing link queue with
  | zero => exact ⟨rfl, rfl⟩
  | succ fuel ih =>
    cases queue with
    | nil => exact ⟨rfl, rfl⟩
    | cons p rest =>
      obtain ⟨hlength, hspawned⟩ := ih (sweep w ingestion link (p :: rest)).value.link
        (sweep w ingestion link (p :: rest)).value.waiting
      simp only [settle, sweepsFrom, Logged.value_bind]
      split
      · simp
      · simp [hlength, hspawned]

theorem spawned_ne_nil_of_mem_dropLast (w : World κ) (ingestion : Ingestion κ U V) (fuel : Nat)
    (link : Link γ) (queue : List Waiting) :
    ∀ s ∈ (sweepsFrom w ingestion fuel link queue).dropLast, s.spawned ≠ [] := by
  induction fuel generalizing link queue with
  | zero => intro s hs; simp [sweepsFrom] at hs
  | succ fuel ih =>
    cases queue with
    | nil => intro s hs; simp [sweepsFrom] at hs
    | cons p rest =>
      intro s hs
      simp only [sweepsFrom] at hs
      split at hs
      · simp at hs
      · next hgoesOn =>
        -- a sweep that shared nobody is not followed by another
        have hfirst : (sweep w ingestion link (p :: rest)).value.spawned ≠ [] := by
          intro hidle
          simp [hidle] at hgoesOn
        have hrest := ih (sweep w ingestion link (p :: rest)).value.link
          (sweep w ingestion link (p :: rest)).value.waiting s
        cases hmore : sweepsFrom w ingestion fuel (sweep w ingestion link (p :: rest)).value.link
            (sweep w ingestion link (p :: rest)).value.waiting with
        | nil => simp [hmore] at hs
        | cons next more =>
          rw [hmore] at hs hrest
          rcases List.mem_cons.mp hs with rfl | hs
          · exact hfirst
          · exact hrest hs

/-! ## A whole step -/

variable {o : Outbound} {tick : Nat}

theorem settles_passes (o : Outbound) (w : World κ) (ingestion : Ingestion κ U V) (link : Link γ)
    (tick : Nat) :
    Settles w ingestion link (o.queue w link.table tick).value
      (o.exchanges w ingestion link tick) (o.passes w ingestion link tick)
      (o.swept w ingestion link tick) :=
  settles_settle w ingestion link (Nat.le_refl _)

theorem Ready.length_le {table : Correspondence} (h : Ready w table queue) :
    queue.length ≤ (w.entities.filter (isCandidate w table)).length := by
  have hsub : queue.map Waiting.entity ⊆ w.entities.filter (isCandidate w table) := by
    intro e he
    obtain ⟨p, hp, rfl⟩ := List.mem_map.mp he
    have hcandidate := h.candidates p hp
    obtain ⟨bundle, hbundle⟩ := Arena.isAlive_iff.mp (isCandidate_iff.mp hcandidate).1.1
    refine List.mem_filter.mpr ⟨?_, hcandidate⟩
    exact List.mem_map_of_mem (f := Prod.fst) (Arena.mem_entries_of_get? hbundle)
  have hle := h.nodup.length_le_of_subset hsub
  rwa [List.length_map] at hle

theorem covers_queue (o : Outbound) (w : World κ) (table : Correspondence) (tick : Nat) :
    Covers w table (o.queue w table tick).value :=
  fun _ he => (o.mem_queue_iff w table tick).mpr he

theorem passes_eq_zero_iff :
    o.passes w ingestion link tick = 0 ↔ ∀ e, isCandidate w link.table e = false := by
  rw [(o.settles_passes w ingestion link tick).passes_eq_zero_iff,
    ← List.map_eq_nil_iff (f := Waiting.entity), List.eq_nil_iff_forall_not_mem]
  simp only [mem_queue_iff, Bool.not_eq_true]

theorem passes_le_of_depth_le (hpending : (o.pending.map Waiting.entity).Nodup)
    (clean : (o.swept w ingestion link tick).fault = none) {D : Nat}
    (hbound : ∀ e n, Depth w link.table e n → n ≤ D) :
    o.passes w ingestion link tick ≤
      if (o.swept w ingestion link tick).waiting = [] then D else D + 1 := by
  have hready := ready_queue hpending w link.table tick
  have hsettles := o.settles_passes w ingestion link tick
  exact hsettles.passes_le_depth clean hready (o.covers_queue w link.table tick) hbound

theorem Chain.waiting_eq_nil {links : List Entity} (h : Chain w link.table links)
    (hpending : (o.pending.map Waiting.entity).Nodup)
    (clean : (o.swept w ingestion link tick).fault = none) :
    (o.swept w ingestion link tick).waiting = [] := by
  refine List.eq_nil_iff_forall_not_mem.mpr fun p hp => ?_
  obtain ⟨hcandidate, hnot⟩ := (mem_waiting_iff hpending clean).mp (List.mem_map_of_mem hp)
  exact hnot (h.resolvable hcandidate)

theorem pending_eq_nil_iff :
    (o.resolve w ingestion link tick).value.2.1.pending = [] ↔
      (o.swept w ingestion link tick).waiting = [] := by
  have hmap := o.map_entity_pending_resolve w ingestion link tick
  rw [← List.map_eq_nil_iff (f := Waiting.entity), hmap, List.map_eq_nil_iff]

/-- How a step gets to its end. `ends` is a run of the sweeps that nothing but their own stop
condition cuts short. -/
structure Converges (o : Outbound) (w : World κ) (ingestion : Ingestion κ U V) (link : Link γ)
    (tick : Nat) (report : OutboundReport) (pending : List Waiting) : Prop where
  ends : Settles w ingestion link (o.queue w link.table tick).value
    (o.exchanges w ingestion link tick) report.passes (o.swept w ingestion link tick)
  passes : report.passes = (o.sweeps w ingestion link tick).length
  spawned : report.spawned = (o.sweeps w ingestion link tick).flatMap Swept.spawned
  productive : ∀ s ∈ (o.sweeps w ingestion link tick).dropLast, s.spawned ≠ []
  depth : ∀ e, e ∈ report.spawned.map Prod.fst ↔ ∃ n, Depth w link.table e n
  depth_unique : ∀ e m n, Depth w link.table e m → Depth w link.table e n → m = n
  passes_le_depth : ∃ D, Deepest w link.table D ∧
    report.passes ≤ if pending = [] then D else D + 1
  passes_eq_zero : report.passes = 0 ↔ ∀ e, isCandidate w link.table e = false
  passes_le_candidates :
    report.passes ≤ (w.entities.filter (isCandidate w link.table)).length
  chain : ∀ links, Chain w link.table links → pending = [] ∧ report.passes ≤ links.length

/-- A step in which the guest answers each request with a proper id that the table does not hold
ends within as many sweeps as its candidates are deep, in whatever order they are queued. -/
theorem resolve_converges (hpending : (o.pending.map Waiting.entity).Nodup)
    (hanswers : ∀ x ∈ o.exchanges w ingestion link tick, x.acknowledged = true) :
    ∃ report, (o.resolve w ingestion link tick).value.1 = .ok report ∧
      Converges o w ingestion link tick report
        (o.resolve w ingestion link tick).value.2.1.pending := by
  have clean := clean_of_acknowledged hpending hanswers
  have hsettles := o.settles_passes w ingestion link tick
  have hready := ready_queue hpending w link.table tick
  obtain ⟨hpasses, hpairs⟩ := settle_eq_sweepsFrom w ingestion
    (o.queue w link.table tick).value.length link (o.queue w link.table tick).value
  refine ⟨_, congrArg Prod.fst (value_resolve_of_clean clean), ?_⟩
  refine ⟨hsettles, hpasses, hpairs, ?_, ?_, ?_, ?_, passes_eq_zero_iff, ?_, ?_⟩
  · exact spawned_ne_nil_of_mem_dropLast w ingestion _ link _
  · intro e
    rw [exists_depth_iff]
    exact mem_spawned_iff hpending clean
  · intro e m n hm hn
    exact hm.unique hn
  · obtain ⟨D, hD⟩ : ∃ D, Deepest w link.table D :=
      exists_deepest fun e he => (mem_spawned_iff hpending clean).mpr he
    have hle := passes_le_of_depth_le hpending clean hD.bound
    simp only [← pending_eq_nil_iff] at hle
    exact ⟨D, hD, hle⟩
  · exact Nat.le_trans hsettles.passes_le_length hready.length_le
  · intro links hchain
    have hnobody := hchain.waiting_eq_nil hpending clean
    have hle := passes_le_of_depth_le hpending clean fun e n hn => hchain.depth_le hn
    rw [if_pos hnobody] at hle
    exact ⟨pending_eq_nil_iff.mpr hnobody, hle⟩

/-- Two sweeps share the root and its child, and a third finds that all others wait. -/
theorem tangled_scene_converges :
    tangledQueue.passes tangledWorld noRecords tangledLink 2 = 3 ∧
      ∃ report, (tangledQueue.resolve tangledWorld noRecords tangledLink 2).value.1 = .ok report ∧
        Converges tangledQueue tangledWorld noRecords tangledLink 2 report
          (tangledQueue.resolve tangledWorld noRecords tangledLink 2).value.2.1.pending :=
  ⟨by decide, resolve_converges (by decide) (by decide)⟩

/-- A chain whose children all stand in front of their parents takes a sweep for each of them. -/
example :
    let child (parent : UInt32) : List (Component Empty) :=
      [⟨.shareRequest, ()⟩, ⟨.parent, slotEntity parent⟩]
    let world : World Empty := [child 1, child 2, child 3, [⟨.shareRequest, ()⟩]].foldl
      (fun w components => (w.spawnWith components).2) .empty
    (Outbound.new 4 2).passes world noRecords tangledLink 1 = 4 := by
  decide

end SceneBridge.Outbound
