import Mathlib.Logic.Relation
import SceneBridge.Guest.Script
import SceneBridge.Proofs.Outbound.Step

/-!
# Sharing reaches the least fixed point

`Resolvable` is the least set of candidates that holds every candidate without a parent and every
one whose parent is shared already or in the set. A step only ever asks for members of it, and a
step that ends cleanly leaves none of them out, whatever the order of its queue.
-/

namespace SceneBridge.Outbound

open Wire

variable {κ : Type} [ProjectKind κ]

/-- The candidates whose chain of parents ends at an entity that is shared or has no parent. -/
inductive Resolvable (w : World κ) (table : Correspondence) : Entity → Prop
  | root {e : Entity} (candidate : isCandidate w table e = true)
      (orphan : w.get e .parent = none) : Resolvable w table e
  | shared {e parent : Entity} (candidate : isCandidate w table e = true)
      (child : w.get e .parent = some parent) (known : table.containsHost parent = true) :
      Resolvable w table e
  | chained {e parent : Entity} (candidate : isCandidate w table e = true)
      (child : w.get e .parent = some parent) (tail : Resolvable w table parent) :
      Resolvable w table e

def WaitsFor (w : World κ) (table : Correspondence) (e parent : Entity) : Prop :=
  w.get e .parent = some parent ∧ table.containsHost parent = false

variable {w : World κ} {t t' : Correspondence} {pairs : List (Entity × GuestId)} {e : Entity}

theorem Resolvable.candidate (h : Resolvable w t e) : isCandidate w t e = true := by
  cases h with
  | root candidate _ => exact candidate
  | shared candidate _ _ => exact candidate
  | chained candidate _ _ => exact candidate

theorem Resolvable.of_waitsFor (h : Resolvable w t e) {parent : Entity}
    (hwait : WaitsFor w t e parent) : Resolvable w t parent := by
  cases h with
  | root _ orphan => simp [WaitsFor, orphan] at hwait
  | shared _ child known =>
    obtain rfl := Option.some.inj (child.symm.trans hwait.1)
    simp [hwait.2] at known
  | chained _ child tail =>
    obtain rfl := Option.some.inj (child.symm.trans hwait.1)
    exact tail

/-- An entity waits for at most one other, so a cycle through it goes through its parent too. -/
theorem transGen_parent {parent : Entity} (hwait : WaitsFor w t e parent)
    (hcycle : Relation.TransGen (WaitsFor w t) e e) :
    Relation.TransGen (WaitsFor w t) parent parent := by
  obtain ⟨next, hnext, hback⟩ := Relation.TransGen.head'_iff.mp hcycle
  obtain rfl := Option.some.inj (hnext.1.symm.trans hwait.1)
  exact Relation.TransGen.tail' hback hwait

theorem Resolvable.not_cycle (h : Resolvable w t e) :
    ¬ Relation.TransGen (WaitsFor w t) e e := by
  induction h with
  | root _ orphan =>
    intro hcycle
    obtain ⟨next, hnext, -⟩ := Relation.TransGen.head'_iff.mp hcycle
    simp [WaitsFor, orphan] at hnext
  | shared _ child known =>
    intro hcycle
    obtain ⟨next, hnext, -⟩ := Relation.TransGen.head'_iff.mp hcycle
    obtain rfl := Option.some.inj (child.symm.trans hnext.1)
    simp [hnext.2] at known
  | @chained e parent _ child _ ih =>
    intro hcycle
    -- the parent is on the cycle too, and it was resolved before
    obtain ⟨next, hnext, -⟩ := Relation.TransGen.head'_iff.mp hcycle
    obtain rfl := Option.some.inj (child.symm.trans hnext.1)
    exact ih (transGen_parent hnext hcycle)

/-! ## Growing tables -/

theorem WaitsFor.of_grown (hgrown : t.Grown t' pairs) {parent : Entity}
    (h : WaitsFor w t' e parent) : WaitsFor w t e parent := by
  refine ⟨h.1, ?_⟩
  have hunknown := h.2
  rw [← Bool.not_eq_true, hgrown.containsHost_iff, not_or, Bool.not_eq_true] at hunknown
  exact hunknown.1

theorem Resolvable.of_grown (hgrown : t.Grown t' pairs)
    (hpairs : ∀ f ∈ pairs.map Prod.fst, Resolvable w t f) (h : Resolvable w t' e) :
    Resolvable w t e := by
  induction h with
  | root candidate orphan => exact .root ((isCandidate_of_grown hgrown).mp candidate).1 orphan
  | shared candidate child known =>
    have hcandidate := ((isCandidate_of_grown hgrown).mp candidate).1
    -- a parent that was only just added was resolvable itself
    rcases (hgrown.containsHost_iff _).mp known with hold | hnew
    · exact .shared hcandidate child hold
    · exact .chained hcandidate child (hpairs _ hnew)
  | chained candidate child _ ih =>
    exact .chained ((isCandidate_of_grown hgrown).mp candidate).1 child ih

theorem Resolvable.grown (hgrown : t.Grown t' pairs) (h : Resolvable w t e) :
    e ∈ pairs.map Prod.fst ∨ Resolvable w t' e := by
  by_cases hmem : e ∈ pairs.map Prod.fst
  · exact .inl hmem
  · refine .inr ?_
    induction h with
    | root candidate orphan =>
      exact .root ((isCandidate_of_grown hgrown).mpr ⟨candidate, hmem⟩) orphan
    | shared candidate child known =>
      exact .shared ((isCandidate_of_grown hgrown).mpr ⟨candidate, hmem⟩) child
        ((hgrown.containsHost_iff _).mpr (.inl known))
    | @chained e parent candidate child _ ih =>
      have hcandidate := (isCandidate_of_grown hgrown).mpr ⟨candidate, hmem⟩
      by_cases hparent : parent ∈ pairs.map Prod.fst
      · exact .shared hcandidate child ((hgrown.containsHost_iff _).mpr (.inr hparent))
      · exact .chained hcandidate child (ih hparent)

theorem resolvable_iff_of_grown (hgrown : t.Grown t' pairs)
    (hpairs : ∀ f ∈ pairs.map Prod.fst, Resolvable w t f) :
    Resolvable w t e ↔ e ∈ pairs.map Prod.fst ∨ Resolvable w t' e :=
  ⟨fun h => h.grown hgrown, fun h => h.elim (hpairs e) (.of_grown hgrown hpairs)⟩

theorem not_resolvable_of_stuck
    (h : ∀ f, isCandidate w t f = true → ∃ parent, WaitsFor w t f parent) :
    ¬ Resolvable w t e := by
  intro he
  induction he with
  | root candidate orphan =>
    obtain ⟨parent, hparent, -⟩ := h _ candidate
    simp [orphan] at hparent
  | shared candidate child known =>
    obtain ⟨parent, hparent, hunknown⟩ := h _ candidate
    obtain rfl := Option.some.inj (child.symm.trans hparent)
    simp [hunknown] at known
  | chained _ _ _ ih => exact ih

/-! ## Only resolvable entities are asked for -/

variable {U V γ : Type} [ComponentSet U] [ComponentSet V] [Guest γ (Raw U) (Raw V)]
variable {ingestion : Ingestion κ U V} {link link' : Link γ} {queue : List Waiting}
variable {xs : List (Exchange γ (Raw U) (Raw V))} {s : Swept γ}

theorem resolvable_of_request {r : SpawnRequest (Raw U) (Raw V)}
    (candidate : isCandidate w t e = true) (h : request w ingestion t e = .ok r) :
    Resolvable w t e := by
  rcases parent_of_request h with orphan | ⟨parent, child, known⟩
  · exact .root candidate orphan
  · exact .shared candidate child known

theorem Conversation.resolvable (h : Conversation link xs link')
    (hasked : ∀ x ∈ xs, isCandidate w x.table x.request.host = true ∧
      request w ingestion x.table x.request.host = .ok x.request) :
    ∀ x ∈ xs, Resolvable w link.table x.request.host := by
  induction h with
  | nil => intro x hx; simp at hx
  | @cons x xs link' _ ih =>
    obtain ⟨hcandidate, hrequest⟩ := hasked x List.mem_cons_self
    have hx := resolvable_of_request hcandidate hrequest
    intro y hy
    rcases List.mem_cons.mp hy with rfl | hy
    · exact hx
    · refine .of_grown x.grown_next (fun f hf => ?_)
        (ih (fun z hz => hasked z (List.mem_cons_of_mem x hz)) y hy)
      obtain ⟨pair, hpair, rfl⟩ := List.mem_map.mp hf
      rw [(Exchange.mem_gain.mp hpair).2]
      exact hx

theorem Course.resolvable (h : Course w ingestion link queue xs s)
    (hready : Ready w link.table queue) :
    ∀ f ∈ s.spawned.map Prod.fst, Resolvable w link.table f := by
  intro f hf
  obtain ⟨x, hx, rfl⟩ := List.mem_map.mp (h.hosts_spawned_subset hf)
  exact h.conversation.resolvable (h.asked hready) x hx

/-! ## No resolvable entity is left out -/

theorem Sweeps.idle (h : Sweeps w ingestion link queue xs s) (clean : s.fault = none)
    (hidle : s.spawned = []) :
    s.link = link ∧ ∀ p ∈ s.waiting, ∃ parent, WaitsFor w link.table p.entity parent := by
  induction h with
  | done link => exact ⟨rfl, fun p hp => by simp at hp⟩
  | @deferred link p rest xs s parent blocked _ ih =>
    obtain ⟨hlink, hwaiting⟩ := ih clean hidle
    refine ⟨hlink, fun q hq => ?_⟩
    rcases List.mem_cons.mp hq with rfl | hq
    · obtain ⟨hparent, hunknown⟩ := request_eq_error_iff.mp blocked
      exact ⟨parent, hparent, Correspondence.containsHost_eq_false_iff.mpr hunknown⟩
    · exact hwaiting q hq
  | accepted _ _ _ _ => simp at hidle
  | failed _ _ => simp at clean

theorem Settles.stuck {passes : Nat} (h : Settles w ingestion link queue xs passes s)
    (clean : s.fault = none) :
    ∀ p ∈ s.waiting, ∃ parent, WaitsFor w s.link.table p.entity parent := by
  induction h with
  | empty link => intro p hp; simp at hp
  | last sweep stop =>
    obtain ⟨hlink, hwaiting⟩ := sweep.idle clean (stop.resolve_left (not_not.mpr clean))
    rw [hlink]
    exact hwaiting
  | more _ _ _ _ ih => exact ih clean

theorem Course.mem_spawned_or_waiting (h : Course w ingestion link queue xs s)
    (clean : s.fault = none) (he : e ∈ queue.map Waiting.entity) :
    e ∈ s.spawned.map Prod.fst ∨ e ∈ s.waiting.map Waiting.entity := by
  have hall : xs.filter Exchange.taken = xs := List.filter_eq_self.mpr (h.all_taken clean)
  refine (List.mem_append.mp (h.perm.mem_iff.mpr he)).imp_left fun hx => ?_
  rw [h.spawned, hall, List.map_map]
  exact hx

variable {o : Outbound} {tick : Nat}

theorem not_resolvable_of_clean (clean : (o.swept w ingestion link tick).fault = none) :
    ¬ Resolvable w (o.swept w ingestion link tick).link.table e := by
  have hcourse := o.course_swept w ingestion link tick
  obtain ⟨passes, hsettles⟩ := o.settles_swept w ingestion link tick
  refine not_resolvable_of_stuck fun f hf => ?_
  obtain ⟨hbefore, hnot⟩ := (isCandidate_of_grown hcourse.grown).mp hf
  have hqueued := (o.mem_queue_iff w link.table tick).mpr hbefore
  have hwaiting := (hcourse.mem_spawned_or_waiting clean hqueued).resolve_left hnot
  obtain ⟨p, hp, rfl⟩ := List.mem_map.mp hwaiting
  exact hsettles.stuck clean p hp

theorem mem_spawned_iff (hpending : (o.pending.map Waiting.entity).Nodup)
    (clean : (o.swept w ingestion link tick).fault = none) :
    e ∈ (o.swept w ingestion link tick).spawned.map Prod.fst ↔ Resolvable w link.table e := by
  have hcourse := o.course_swept w ingestion link tick
  have hresolvable := hcourse.resolvable (ready_queue hpending w link.table tick)
  rw [resolvable_iff_of_grown hcourse.grown hresolvable,
    or_iff_left (not_resolvable_of_clean clean)]

theorem mem_waiting_iff (hpending : (o.pending.map Waiting.entity).Nodup)
    (clean : (o.swept w ingestion link tick).fault = none) :
    e ∈ (o.swept w ingestion link tick).waiting.map Waiting.entity ↔
      isCandidate w link.table e = true ∧ ¬ Resolvable w link.table e := by
  have hcourse := o.course_swept w ingestion link tick
  have hready := hcourse.ready (ready_queue hpending w link.table tick)
  rw [← mem_spawned_iff hpending clean]
  constructor
  · intro he
    obtain ⟨p, hp, rfl⟩ := List.mem_map.mp he
    exact (isCandidate_of_grown hcourse.grown).mp (hready.candidates p hp)
  · rintro ⟨hcandidate, hnot⟩
    have hqueued := (o.mem_queue_iff w link.table tick).mpr hcandidate
    exact (hcourse.mem_spawned_or_waiting clean hqueued).resolve_left hnot

/-! ## Steps in which every request is acknowledged -/

theorem clean_of_acknowledged (hpending : (o.pending.map Waiting.entity).Nodup)
    (hanswers : ∀ x ∈ o.exchanges w ingestion link tick, x.acknowledged = true) :
    (o.swept w ingestion link tick).fault = none := by
  have hcourse := o.course_swept w ingestion link tick
  have hasked := hcourse.asked (ready_queue hpending w link.table tick)
  rw [hcourse.fault, Option.map_eq_none_iff, List.find?_eq_none]
  intro x hx
  have hunshared := (isCandidate_iff.mp (hasked x hx).1).2
  simp [Exchange.taken_iff.mpr ⟨hanswers x hx, hunshared⟩]

/-- What a step has to make of a table: the resolvable candidates are shared, each once and with the
id that the table then holds, all other candidates wait, and no pair is lost. -/
structure SharesResolvable (w : World κ) (before after : Correspondence)
    (report : OutboundReport) (pending : List Waiting) : Prop where
  consistent : after.Consistent
  grown : before.Grown after report.spawned
  spawned : ∀ e, e ∈ report.spawned.map Prod.fst ↔ Resolvable w before e
  spawned_nodup : (report.spawned.map Prod.fst).Nodup
  waiting : ∀ e, e ∈ pending.map Waiting.entity ↔
    isCandidate w before e = true ∧ ¬ Resolvable w before e
  waiting_nodup : (pending.map Waiting.entity).Nodup
  waiting_length : report.pending = pending.length
  /-- Children of dead entities, of templates and of entities that do not ask to be shared wait. -/
  barren : ∀ e parent, isCandidate w before e = true → WaitsFor w before e parent →
    w.isAlive parent = false ∨ w.has parent .shareRequest = false ∨ w.has parent .prefab = true →
    e ∈ pending.map Waiting.entity
  /-- Those on a cycle of parents wait, their own parents included. -/
  cyclic : ∀ e, isCandidate w before e = true → Relation.TransGen (WaitsFor w before) e e →
    e ∈ pending.map Waiting.entity

/-- A step in which the guest answers each request with a proper id that the table does not hold
shares exactly the resolvable candidates, in whatever order its queue happens to be. -/
theorem resolve_shares_resolvable (htable : link.table.Consistent)
    (hpending : (o.pending.map Waiting.entity).Nodup)
    (hanswers : ∀ x ∈ o.exchanges w ingestion link tick, x.acknowledged = true) :
    ∃ report, (o.resolve w ingestion link tick).value.1 = .ok report ∧
      SharesResolvable w link.table (o.resolve w ingestion link tick).value.2.2.table report
        (o.resolve w ingestion link tick).value.2.1.pending := by
  have clean := clean_of_acknowledged hpending hanswers
  have hcourse := o.course_swept w ingestion link tick
  have hready := ready_queue hpending w link.table tick
  obtain ⟨report, pending, hresolve, hspawned, hlength, hentities⟩ := resolve_of_clean clean
  have hwaiting : ∀ e, e ∈ pending.map Waiting.entity ↔
      isCandidate w link.table e = true ∧ ¬ Resolvable w link.table e := by
    intro e
    rw [hentities]
    exact mem_waiting_iff hpending clean
  refine ⟨report, by rw [hresolve], ?_⟩
  rw [hresolve]
  refine ⟨(hcourse.conversation.consistent htable).1, ?_, ?_, ?_, hwaiting, ?_, hlength, ?_, ?_⟩
  · rw [hspawned]
    exact hcourse.grown
  · intro e
    rw [hspawned]
    exact mem_spawned_iff hpending clean
  · rw [hspawned]
    exact hcourse.nodup_spawned hready
  · rw [hentities]
    exact (hcourse.ready hready).nodup
  · intro e parent hcandidate hwait hbarren
    refine (hwaiting e).mpr ⟨hcandidate, fun he => ?_⟩
    obtain ⟨halive, hshare, hprefab⟩ := (isCandidate_iff.mp (he.of_waitsFor hwait).candidate).1
    simp [halive, hshare, hprefab] at hbarren
  · intro e hcandidate hcycle
    exact (hwaiting e).mpr ⟨hcandidate, fun he => he.not_cycle hcycle⟩

/-! ## A tangled scene -/

def slotEntity (index : UInt32) : Entity := ⟨index, 0⟩

/-- A child in front of its root, one that is its own parent, a child of a dead entity, a template
and its child, and two that are each other's parents. -/
def tangledWorld : World Empty :=
  let child (parent : UInt32) : List (Component Empty) :=
    [⟨.shareRequest, ()⟩, ⟨.parent, slotEntity parent⟩]
  [child 1, [⟨.shareRequest, ()⟩], child 2, child 9, [⟨.shareRequest, ()⟩, ⟨.prefab, ()⟩], child 4,
    child 7, child 6].foldl (fun w components => (w.spawnWith components).2) .empty

def tangledQueue : Outbound :=
  { pending := [{ entity := slotEntity 2, since := 1 }, { entity := slotEntity 9, since := 1 }]
    warnPasses := 4
    warnAfter := 2 }

def tangledLink : Link (ScriptedGuest Empty Empty) := { table := .empty, guest := {} }

def noRecords : Ingestion Empty Empty Empty := {}

theorem tangled_scene_shares_resolvable :
    ∃ report, (tangledQueue.resolve tangledWorld noRecords tangledLink 2).value.1 = .ok report ∧
      SharesResolvable tangledWorld tangledLink.table
        (tangledQueue.resolve tangledWorld noRecords tangledLink 2).value.2.2.table report
        (tangledQueue.resolve tangledWorld noRecords tangledLink 2).value.2.1.pending :=
  resolve_shares_resolvable Correspondence.consistent_empty (by decide) (by decide)

/-- The root goes first, and its child with it; everything else waits. -/
example : (tangledQueue.resolve tangledWorld noRecords tangledLink 2).value.2.1.pending.map
    Waiting.entity = [2, 3, 5, 6, 7].map slotEntity := by
  decide

end SceneBridge.Outbound
