import SceneBridge.Proofs.Bridge.Abort
import SceneBridge.Proofs.Bridge.Accounts
import SceneBridge.Proofs.Bridge.Frame
import SceneBridge.Proofs.Bridge.Recovery
import SceneBridge.Proofs.Outbound.FirstSweep

/-!
# From one tick to the next

As long as the host leaves the world alone, a tick goes on exactly where a successful one stopped
(`Bridge.TakesUp`): with those that were pending and, behind them, the instances the guest has just
had made. Nobody else has become a candidate (`Sound.isCandidate_tick_iff`), for a playback kills
what the guest destroyed and marks nobody.
-/

namespace SceneBridge.Bridge

open Wire

variable {γ κ U V : Type} [ProjectKind κ] [ComponentSet U] [ComponentSet V]
variable [Guest γ (Raw U) (Raw V)] {b : Bridge γ κ U V} {w : World κ}
variable {report : TickReport} {sharing : OutboundReport} {e : Entity}

/-! ## What is left -/

theorem pending_tick (h : (b.share w).value.1.2 = .ok sharing) :
    (b.tick w).value.2.1.outbound.pending = (b.share w).value.2.outbound.pending := by
  rw [tick_of_shared h, value_guestTurn]

theorem Sound.mem_instantiated_iff (h : b.Sound w) (hok : (b.tick w).value.1 = .ok report) :
    e ∈ report.playback.instantiated ↔ EditOutcome.made e ∈ w.outcomes (b.edits w) := by
  obtain ⟨sharing, hshare, rfl⟩ := tick_eq_ok hok
  have hshrunk := h.shrunk_tick
  have hdespawns := despawns_inbound hshare
  have hplay := CommandBuffer.report_play (b := (b.inbound w).commands) h.world
    (hdespawns ▸ hshrunk.nodup) fun d hd => h.isAlive_of_shared (hshrunk.mapped d (hdespawns ▸ hd))
  rw [edits_inbound hshare] at hplay
  dsimp only
  rw [hplay, List.mem_filterMap]
  constructor
  · rintro ⟨outcome, hmem, hmade⟩
    cases outcome with
    | made f => exact Option.some.inj hmade ▸ hmem
    | written => simp at hmade
    | skipped => simp at hmade
  · exact fun hmem => ⟨_, hmem, rfl⟩

theorem Sound.not_made_of_alive (h : b.Sound w) (hroom : (b.tick w).value.2.2.HasRoom)
    (he : w.isAlive e = true) : EditOutcome.made e ∉ w.outcomes (b.edits w) := by
  intro hmade
  rw [World.isAlive_of_mem_outcomes h.world (hasRoom_of_tick hroom) hmade] at he
  simp at he

/-- An instance is alive after its tick: only what was shared is destroyed, and that was alive
before. -/
theorem Sound.kept_of_made (h : b.Sound w) (hroom : (b.tick w).value.2.2.HasRoom)
    (hmade : EditOutcome.made e ∈ w.outcomes (b.edits w)) : ¬ b.Destroys w e := by
  intro hgone
  have halive := h.isAlive_of_shared (h.shrunk_tick.mapped e (mem_despawns_iff.mpr hgone))
  exact h.not_made_of_alive hroom halive hmade

theorem Sound.containsHost_tick (h : b.Sound w) (hkept : ¬ b.Destroys w e) :
    (b.tick w).value.2.1.table.containsHost e = (b.shared w).containsHost e := by
  have hguest : (b.tick w).value.2.1.table.guest? e = (b.shared w).guest? e := by
    rw [h.shrunk_tick.guest?, if_neg (mt mem_despawns_iff.mp hkept)]
  rw [Bool.eq_iff_iff, Correspondence.containsHost_iff, Correspondence.containsHost_iff, hguest]

theorem Sound.get_tick_of_alive (h : b.Sound w) (hroom : (b.tick w).value.2.2.HasRoom)
    (hkept : ¬ b.Destroys w e) (he : w.isAlive e = true) {k : Kind κ} (hk : k ≠ .localToWorld) :
    (b.tick w).value.2.2.get e k = w.get e k := by
  rw [get_tick hkept, World.get_editAll h.world (hasRoom_of_tick hroom) he hk]

theorem Sound.isCandidate_tick_iff (h : b.Sound w) (hroom : (b.tick w).value.2.2.HasRoom)
    (hshare : (b.share w).value.1.2 = .ok sharing) :
    Outbound.isCandidate (b.tick w).value.2.2 (b.tick w).value.2.1.table e = true ↔
      e ∈ (b.tick w).value.2.1.outbound.pending.map Waiting.entity ∨
        EditOutcome.made e ∈ w.outcomes (b.edits w) ∧
          (b.tick w).value.2.2.has e .shareRequest = true := by
  have hsettled := h.settled_tick
  have hedits := hasRoom_of_tick hroom
  rw [Outbound.isCandidate_iff]
  constructor
  · rintro ⟨⟨halive, hasks, hprefab⟩, hunshared⟩
    obtain ⟨hkept, hafter⟩ := isAlive_tick_iff.mp halive
    rcases (World.isAlive_editAll_iff h.world hedits).mp hafter with hold | hmade
    · -- a candidate before, so the step either shared it or left it waiting
      refine .inl ?_
      rw [World.has, h.get_tick_of_alive hroom hkept hold (by simp)] at hasks hprefab
      rw [h.containsHost_tick hkept, shared, table_share] at hunshared
      have hcourse := b.course_swept w
      obtain ⟨hbefore, hnot⟩ := (Outbound.isCandidate_of_grown hcourse.grown).mp
        (Outbound.isCandidate_iff.mpr ⟨⟨hold, hasks, hprefab⟩, hunshared⟩)
      rw [pending_tick hshare, map_entity_pending_share]
      exact (hcourse.mem_spawned_or_waiting (clean_of_shared hshare)
        ((Outbound.mem_queue_iff ..).mpr hbefore)).resolve_left hnot
    · exact .inr ⟨hmade, hasks⟩
  · rintro (hpending | ⟨hmade, hasks⟩)
    · obtain ⟨p, hp, rfl⟩ := List.mem_map.mp hpending
      exact ⟨⟨hsettled.pending_alive p hp, hsettled.pending_asks p hp,
        hsettled.pending_prefab p hp⟩,
        Correspondence.containsHost_eq_false_iff.mpr (hsettled.pending_unshared p hp)⟩
    · have hkept := h.kept_of_made hroom hmade
      have hprefab := World.has_prefab_of_mem_outcomes h.world hedits hmade
      refine ⟨⟨World.isAlive_of_has hasks, hasks, ?_⟩, ?_⟩
      · rw [World.has, get_tick hkept]
        exact hprefab
      · rw [h.containsHost_tick hkept, ← Bool.not_eq_true]
        intro hshared
        exact h.not_made_of_alive hroom (h.isAlive_of_shared hshared) hmade

theorem Sound.not_made_of_pending (h : b.Sound w) (hroom : (b.tick w).value.2.2.HasRoom)
    (hshare : (b.share w).value.1.2 = .ok sharing)
    (hpending : e ∈ (b.tick w).value.2.1.outbound.pending.map Waiting.entity) :
    EditOutcome.made e ∉ w.outcomes (b.edits w) := by
  rw [pending_tick hshare] at hpending
  obtain ⟨p, hp, rfl⟩ := List.mem_map.mp hpending
  exact h.not_made_of_alive hroom (h.settled_share.pending_alive p hp)

theorem Sound.waitsFor_tick (h : b.Sound w) (hroom : (b.tick w).value.2.2.HasRoom)
    (hshare : (b.share w).value.1.2 = .ok sharing) {p : Waiting}
    (hp : p ∈ (b.tick w).value.2.1.outbound.pending) :
    ∃ parent, Outbound.WaitsFor (b.tick w).value.2.2 (b.tick w).value.2.1.table p.entity
      parent := by
  obtain ⟨passes, hsettles⟩ :=
    b.outbound.settles_swept w b.ingestion (b.link w) (b.tickCount + 1)
  have hmem : p.entity ∈ (b.swept w).waiting.map Waiting.entity := by
    rw [← map_entity_pending_share, ← pending_tick hshare]
    exact List.mem_map_of_mem hp
  obtain ⟨q, hq, hqp⟩ := List.mem_map.mp hmem
  obtain ⟨parent, hparent, hunknown⟩ := hsettles.stuck (clean_of_shared hshare) q hq
  have hkept := (isAlive_tick_iff.mp (h.settled_tick.pending_alive p hp)).1
  rw [hqp] at hparent
  refine ⟨parent, ?_, ?_⟩
  · rw [h.get_tick_of_alive hroom hkept (World.isAlive_of_get hparent) (by simp)]
    exact hparent
  · -- the guest's turn adds nobody to the table
    have hshared : (b.shared w).guest? parent = none := by
      rw [shared, table_share]
      exact Correspondence.containsHost_eq_false_iff.mp hunknown
    rw [Correspondence.containsHost_eq_false_iff, h.shrunk_tick.guest?, hshared, ite_self]

/-! ## Until the next tick -/

/-- What may happen to a bridge between two ticks: it is started, on whatever world, and the guest
turns into any other. -/
inductive Rests (b : Bridge γ κ U V) : Bridge γ κ U V → Prop
  | refl : Rests b b
  | start {c : Bridge γ κ U V} (h : Rests b c) (w : World κ) : Rests b (c.start w).value.2
  | swap {c : Bridge γ κ U V} (h : Rests b c) (guest : γ) : Rests b (c.withGuest guest)

theorem Rests.keeps {c : Bridge γ κ U V} (h : b.Rests c) :
    c.table = b.table ∧ c.outbound = b.outbound := by
  induction h with
  | refl => exact ⟨rfl, rfl⟩
  | @start c _ w ih =>
    obtain ⟨htable, houtbound⟩ := c.start_keeps w
    exact ⟨htable.trans ih.1, houtbound.trans ih.2⟩
  | swap _ guest ih => exact ih

theorem Settled.of_rests {c : Bridge γ κ U V} (h : b.Settled w) (hrests : b.Rests c) :
    c.Settled w := by
  obtain ⟨htable, houtbound⟩ := hrests.keeps
  constructor
  · exact htable ▸ h.inverse
  · exact htable ▸ h.valid
  · exact htable ▸ h.reserved
  · exact htable ▸ h.alive
  · exact houtbound ▸ h.pending_nodup
  · exact htable ▸ houtbound ▸ h.pending_unshared
  · exact houtbound ▸ h.pending_alive
  · exact houtbound ▸ h.pending_asks
  · exact houtbound ▸ h.pending_prefab

/-! ## The next tick -/

def firstSweep (b : Bridge γ κ U V) (w : World κ) :
    List (Outbound.Exchange γ (Raw U) (Raw V)) :=
  Outbound.sweepExchanges w b.ingestion (b.link w) (b.queue w)

/-- The first sweep of the next tick, and with it the tick, ends at a request for somebody in front
of an entity. -/
def FailsInFront (b : Bridge γ κ U V) (w : World κ) (e : Entity) : Prop :=
  ∃ front p rest before x,
    b.queue w = front ++ p :: rest ∧ p.entity = e ∧ b.firstSweep w = before ++ [x] ∧
      x.request.host ∈ front.map Waiting.entity ∧ (b.share w).value.1.2 = .error x.fault

/-- The next tick shares nothing: it asks for nobody, and nothing that it could change is changed
but the marks of waits that were reported. -/
structure Idles (b : Bridge γ κ U V) (w : World κ) : Prop where
  exchanges : b.exchanges w = []
  result : (b.share w).value.1 =
    (0, .ok { passes := if b.outbound.pending = [] then 0 else 1
              pending := b.outbound.pending.length })
  table : (b.share w).value.2.table = b.table
  guest : (b.share w).value.2.guest = b.guest
  pending : ((b.share w).value.2.outbound.pending.map fun p => (p.entity, p.since)) =
    b.outbound.pending.map fun p => (p.entity, p.since)

/-- Of the instances that a tick made, those that ask to be shared, in slot order. -/
def newcomers (w : World κ) (made : List Entity) : List Entity :=
  (w.query .shareRequest).filter fun e => made.contains e

theorem mem_newcomers_iff (hroom : w.HasRoom) {made : List Entity} :
    e ∈ newcomers w made ↔ e ∈ made ∧ w.has e .shareRequest = true := by
  rw [newcomers, List.mem_filter, List.contains_iff_mem, and_comm]
  exact and_congr_right fun _ => ⟨World.has_of_mem_query hroom, World.mem_query_of_has⟩

/-- How the next tick on a world takes up what a tick has left, which made the given instances. -/
structure TakesUp (left : Bridge γ κ U V) (w : World κ) (made : List Entity)
    (next : Bridge γ κ U V) : Prop where
  mem_newcomers : ∀ e, e ∈ newcomers w made ↔ e ∈ made ∧ w.has e .shareRequest = true
  ordered : (newcomers w made).Pairwise fun e f => e.index < f.index
  released : (next.table.retainHosts w.isAlive).1 = []
  queue : next.queue w = left.outbound.pending ++
    (newcomers w made).map fun e => { entity := e, since := next.tickCount + 1 }
  first : next.firstSweep w <+: next.exchanges w
  /-- Those without a parent, and those whose parent is in the table. -/
  requested : ∀ e ∈ newcomers w made,
    w.get e .parent = none ∨
      (∃ parent, w.get e .parent = some parent ∧ left.table.containsHost parent = true) →
    (∃ x ∈ next.firstSweep w, x.request.host = e) ∨ next.FailsInFront w e
  idle : newcomers w made = [] → next.Idles w

theorem share_of_sweep_fault {err : BridgeError}
    (h : (Outbound.sweep w b.ingestion (b.link w) (b.queue w)).value.fault = some err) :
    (b.share w).value.1.2 = .error err := by
  have hstep := Outbound.settle_of_fault (Nat.le_refl (b.queue w).length)
    (Option.ne_none_iff_exists'.mpr ⟨err, h⟩)
  rw [← value_queue] at hstep h
  have hswept : b.swept w = _ := hstep.2
  rw [← hswept] at h
  exact (share_of_fault h).1

/-- Where everybody in the queue waits for somebody, a tick idles. -/
theorem Settled.idles (h : b.Settled w) (hqueue : b.queue w = b.outbound.pending)
    (hblocked : ∀ p ∈ b.outbound.pending,
      ∃ parent, Outbound.WaitsFor w (b.link w).table p.entity parent) : b.Idles w := by
  obtain ⟨hexchanges, hsettle⟩ :=
    Outbound.settle_of_blocked b.ingestion (Nat.le_refl b.outbound.pending.length) hblocked
  rw [← hqueue, ← value_queue] at hexchanges hsettle
  have hswept : b.swept w = { link := b.link w, waiting := b.queue w } := by
    rw [swept, Outbound.swept, hsettle, value_queue]
  have hpasses : b.outbound.passes w b.ingestion (b.link w) (b.tickCount + 1) =
      if b.queue w = [] then 0 else 1 := by
    rw [Outbound.passes, hsettle, value_queue]
  have hclean : (b.swept w).fault = none := by rw [hswept]
  have hresolve := Outbound.value_resolve_of_clean hclean
  rw [show b.outbound.swept w b.ingestion (b.link w) (b.tickCount + 1) = _ from hswept, hpasses,
    hqueue] at hresolve
  refine ⟨hexchanges, ?_, ?_, ?_, ?_⟩
  · rw [value_share, hresolve, h.released]
    rfl
  · rw [value_share, hresolve]
    exact h.table_link
  · rw [value_share, hresolve]
    rfl
  · rw [value_share, hresolve]
    exact Outbound.map_reportWaits (fun _ => rfl) ..

theorem first_sweep_prefix (b : Bridge γ κ U V) (w : World κ) :
    b.firstSweep w <+: b.exchanges w := by
  rw [firstSweep, ← value_queue]
  exact Outbound.sweepExchanges_prefix w b.ingestion (b.link w) (Nat.le_refl _)

theorem requested_or_failsInFront (he : e ∈ (b.queue w).map Waiting.entity)
    (hfree : ∀ parent, ¬ Outbound.WaitsFor w (b.link w).table e parent) :
    (∃ x ∈ b.firstSweep w, x.request.host = e) ∨ b.FailsInFront w e := by
  obtain ⟨p, hp, rfl⟩ := List.mem_map.mp he
  obtain ⟨front, rest, hqueue⟩ := List.append_of_mem hp
  refine (Outbound.requested_or_fails hqueue hfree).imp_right ?_
  rintro ⟨before, x, hsweep, hfront, hfault⟩
  exact ⟨front, p, rest, before, x, hqueue, rfl, hsweep, hfront, share_of_sweep_fault hfault⟩

theorem Sound.queue_next (h : b.Sound w) (hroom : (b.tick w).value.2.2.HasRoom)
    (hok : (b.tick w).value.1 = .ok report) {next : Bridge γ κ U V}
    (hnext : (b.tick w).value.2.1.Rests next) :
    next.queue (b.tick w).value.2.2 = (b.tick w).value.2.1.outbound.pending ++
      (newcomers (b.tick w).value.2.2 report.playback.instantiated).map
        fun e => { entity := e, since := next.tickCount + 1 } := by
  obtain ⟨sharing, hshare, -⟩ := tick_eq_ok hok
  obtain ⟨htable, houtbound⟩ := hnext.keeps
  have hlink : (next.link (b.tick w).value.2.2).table = (b.tick w).value.2.1.table :=
    (h.settled_tick.of_rests hnext).table_link.trans htable
  have hkept : (b.tick w).value.2.1.outbound.pending.filter (fun p =>
      Outbound.isCandidate (b.tick w).value.2.2 (b.tick w).value.2.1.table p.entity) =
        (b.tick w).value.2.1.outbound.pending :=
    List.filter_eq_self.mpr fun p hp =>
      (h.isCandidate_tick_iff hroom hshare).mpr (.inl (List.mem_map_of_mem hp))
  rw [queue, hlink, houtbound, hkept, Outbound.newCandidates_eq, newcomers]
  refine congrArg _ (congrArg _ (List.filter_congr fun e he => ?_))
  -- of those that ask to be shared, the ones that are new to the queue are the instances
  have hasks := World.has_of_mem_query hroom he
  rw [Bool.eq_iff_iff, Bool.and_eq_true, Bool.not_eq_true', ← Bool.not_eq_true,
    Outbound.any_entity_iff, h.isCandidate_tick_iff hroom hshare, List.contains_iff_mem,
    h.mem_instantiated_iff hok]
  constructor
  · rintro ⟨hnew, hpending | ⟨hmade, -⟩⟩
    · exact absurd hpending hnew
    · exact hmade
  · intro hmade
    have hnew := fun hpending => h.not_made_of_pending hroom hshare hpending hmade
    exact ⟨hnew, .inr ⟨hmade, hasks⟩⟩

/-- What a tick that succeeds leaves is what the next one takes up, as long as the host leaves the
world alone. -/
theorem Reachable.takesUp (hb : b.Reachable) (hw : w.Reachable)
    (hroom : (b.tick w).value.2.2.HasRoom) (hok : (b.tick w).value.1 = .ok report)
    {next : Bridge γ κ U V} (hnext : (b.tick w).value.2.1.Rests next) :
    (b.tick w).value.2.1.TakesUp (b.tick w).value.2.2 report.playback.instantiated next := by
  have h := hb.sound hw
  obtain ⟨sharing, hshare, -⟩ := tick_eq_ok hok
  have hsettled := h.settled_tick.of_rests hnext
  obtain ⟨htable, houtbound⟩ := hnext.keeps
  have hqueue := h.queue_next hroom hok hnext
  have hlink : (next.link (b.tick w).value.2.2).table = (b.tick w).value.2.1.table :=
    hsettled.table_link.trans htable
  refine ⟨fun e => mem_newcomers_iff hroom, ?_, hsettled.released, hqueue,
    next.first_sweep_prefix _, ?_, ?_⟩
  · exact (World.pairwise_query _ _).sublist List.filter_sublist
  · intro e he hparent
    refine requested_or_failsInFront ?_ ?_
    · rw [hqueue, List.map_append, List.map_map]
      exact List.mem_append_right _ (List.mem_map.mpr ⟨e, he, rfl⟩)
    · rintro parent ⟨hchild, hunknown⟩
      rw [hlink] at hunknown
      rcases hparent with horphan | ⟨known, hknown, hcontains⟩
      · simp [horphan] at hchild
      · obtain rfl := Option.some.inj (hknown.symm.trans hchild)
        simp [hcontains] at hunknown
  · intro hnone
    rw [hnone, List.map_nil, List.append_nil, ← houtbound] at hqueue
    refine hsettled.idles hqueue fun p hp => ?_
    rw [hlink]
    exact h.waitsFor_tick hroom hshare (houtbound ▸ hp)

/-! ## A nursery -/

open Outbound (slotEntity)

/-- Three templates: a child of the root, one that asks to be shared and one that does not; then the
holder of their family, the root, and a child of a dead entity. -/
def nurseryWorld : World Empty :=
  [[⟨.prefab, ()⟩, ⟨.shareRequest, ()⟩, ⟨.parent, slotEntity 4⟩],
    [⟨.prefab, ()⟩, ⟨.shareRequest, ()⟩], [⟨.prefab, ()⟩],
    [⟨.templateFamily, { familyId := 7, templates := [slotEntity 0, slotEntity 1, slotEntity 2] }⟩],
    [⟨.shareRequest, ()⟩], [⟨.shareRequest, ()⟩, ⟨.parent, slotEntity 9⟩]].foldl
      (fun w components => (w.spawnWith components).2) .empty

/-- A started bridge whose guest has all three instanced in its first turn. -/
def nurseryBridge : Bridge (ScriptedGuest Empty Empty) Empty Empty Empty :=
  let bridge : Bridge (ScriptedGuest Empty Empty) Empty Empty Empty :=
    .new { turns := [[.batch (.create (.items
      [⟨⟨7, 1⟩, .items []⟩, ⟨⟨7, 2⟩, .items []⟩, ⟨⟨7, 0⟩, .items []⟩]))]] } 8 0
  (bridge.start nurseryWorld).value.2

def nurseryReport : TickReport :=
  { tick := 1
    released := 0
    outbound := { spawned := [(slotEntity 4, ⟨0⟩)], passes := 2, pending := 1 }
    inbound := { created := 3 }
    playback := { instantiated := [slotEntity 6, slotEntity 7, slotEntity 8] } }

theorem nursery_taken_up :
    (nurseryBridge.tick nurseryWorld).value.2.2.HasRoom ∧
      (nurseryBridge.tick nurseryWorld).value.1 = .ok nurseryReport ∧
      newcomers (nurseryBridge.tick nurseryWorld).value.2.2 nurseryReport.playback.instantiated =
        [slotEntity 6, slotEntity 8] ∧
      (nurseryBridge.tick nurseryWorld).value.2.1.outbound.pending =
        [{ entity := slotEntity 5, since := 1 }] ∧
      (nurseryBridge.tick nurseryWorld).value.2.1.TakesUp
        (nurseryBridge.tick nurseryWorld).value.2.2 nurseryReport.playback.instantiated
        (nurseryBridge.tick nurseryWorld).value.2.1 := by
  have hroom : (nurseryBridge.tick nurseryWorld).value.2.2.HasRoom := by
    unfold World.HasRoom Arena.HasRoom
    decide +kernel
  have hok : (nurseryBridge.tick nurseryWorld).value.1 = .ok nurseryReport := by rfl
  exact ⟨hroom, hok, by decide +kernel, by decide +kernel,
    Reachable.takesUp (.start (.new ..) nurseryWorld) (World.Reachable.spawnAll .refl _) hroom hok
      .refl⟩

end SceneBridge.Bridge
