import SceneBridge.Proofs.Bridge.Turn

/-!
# The accounts of a tick

The counters in a tick's report are kept by four parts of the bridge that know nothing of each
other. `Bridge.Balanced` says how they hang together, and `Reachable.balanced` that they do after
every tick that succeeds. No room in the arena is needed for it.
-/

namespace SceneBridge.Bridge

open Wire

variable {γ κ U V : Type} [ProjectKind κ] [ComponentSet U] [ComponentSet V]
variable [Guest γ (Raw U) (Raw V)] {b : Bridge γ κ U V} {w : World κ} {report : TickReport}

def updates (b : Bridge γ κ U V) (w : World κ) : List (Patch GuestId) :=
  knownUpdates (b.shared w) (b.demands w)

theorem tick_eq_ok (h : (b.tick w).value.1 = .ok report) :
    ∃ sharing, (b.share w).value.1.2 = .ok sharing ∧
      report =
        { tick := b.tickCount + 1
          released := (b.table.retainHosts w.isAlive).1.length
          outbound := sharing
          inbound := (b.inbound w).report
          playback := ((b.inbound w).commands.play w).value.2 } := by
  cases hshare : (b.share w).value.1.2 with
  | error err =>
    rw [tick_of_fault hshare] at h
    simp at h
  | ok sharing =>
    refine ⟨sharing, rfl, ?_⟩
    rw [result_of_shared hshare, value_guestTurn] at h
    cases houtcome : (Guest.turn (b.share w).value.2.guest).outcome with
    | error err => simp [houtcome, Except.map] at h
    | ok done =>
      rw [houtcome] at h
      exact (Except.ok.inj h).symm

theorem size_shared {sharing : OutboundReport} (h : (b.share w).value.1.2 = .ok sharing) :
    (b.shared w).size = (b.link w).table.size + sharing.spawned.length := by
  have hclean := clean_of_shared h
  have hspawned : sharing.spawned = (b.swept w).spawned := by
    rw [value_share, Outbound.value_resolve_of_clean hclean] at h
    rw [← Except.ok.inj h]
    rfl
  rw [shared, table_share, hspawned]
  exact (b.course_swept w).size

/-- How the counters of a report hang together, with each other, with the table and with what the
guest sent. -/
structure Balanced (b : Bridge γ κ U V) (w : World κ) (report : TickReport) : Prop where
  table : ((b.tick w).value.2.1.table.size : Int) =
    b.table.size - report.released + report.outbound.spawned.length - report.inbound.destroyed
  despawned : report.playback.despawned = report.inbound.destroyed
  created : report.playback.instantiated.length + report.playback.skipped = report.inbound.created
  known : report.inbound.updated = (b.updates w).length
  updated : report.playback.updated =
    (b.updates w).countP fun item => (sentMatrix? item.records).isSome
  creates : report.inbound.created + report.inbound.unknownTemplates =
    (b.demands w).countP Demand.isCreate
  others : report.inbound.updated + report.inbound.destroyed + report.inbound.stale =
    (b.demands w).countP fun d => !d.isCreate
  skipped : report.playback.skipped = (w.outcomes (b.edits w)).count .skipped
  /-- No write and no despawn is skipped: only instances are, of templates that are dead by then. -/
  dead_template : ∀ p ∈ w.meets (b.edits w), p.1.outcome p.2 = .skipped →
    ∃ template transform, p.2 = .instantiate template transform ∧ p.1.isAlive template = false

theorem Sound.dead_template (h : b.Sound w) {p : World κ × Edit} (hp : p ∈ w.meets (b.edits w))
    (hskip : p.1.outcome p.2 = .skipped) :
    ∃ template transform, p.2 = .instantiate template transform ∧
      p.1.isAlive template = false := by
  obtain ⟨hmem, halive⟩ := World.mem_meets h.world hp
  rcases World.outcome_eq_skipped_iff.mp hskip with hdead | ⟨e, matrix, hedit, hdead⟩
  · exact hdead
  · rw [hedit] at hmem
    rw [halive e (h.isAlive_of_write hmem)] at hdead
    simp at hdead

/-- The accounts of every tick that succeeds are balanced. -/
theorem Reachable.balanced (hb : b.Reachable) (hw : w.Reachable)
    (hok : (b.tick w).value.1 = .ok report) : b.Balanced w report := by
  have h := hb.sound hw
  obtain ⟨sharing, hshare, rfl⟩ := tick_eq_ok hok
  have hmet := met_inbound hshare
  have hshrunk := h.shrunk_tick
  have hedits := edits_inbound hshare
  have hdespawns := despawns_inbound hshare
  -- what is destroyed was shared and so is alive, and distinct since it leaves the table
  have hplay := CommandBuffer.report_play (b := (b.inbound w).commands) h.world
    (hdespawns ▸ hshrunk.nodup) fun d hd => h.isAlive_of_shared (hshrunk.mapped d (hdespawns ▸ hd))
  have hwrites : ∀ e matrix, .setWorldMatrix e matrix ∈ b.edits w → w.isAlive e = true :=
    fun e matrix hmem => h.isAlive_of_write hmem
  obtain ⟨hwritten, hmade⟩ := World.count_outcomes h.world hwrites
  rw [hedits, hdespawns] at hplay
  have hdestroyed : (b.inbound w).report.destroyed = (b.despawns w).length :=
    hmet.destroyed.trans (Nat.zero_add _)
  have hcreated : (b.inbound w).report.created = (b.edits w).countP fun edit => !edit.isWrite :=
    hmet.created.trans (Nat.zero_add _)
  refine ⟨?_, ?_, ?_, ?_, ?_, ?_, ?_, ?_, fun p hp => h.dead_template hp⟩
  · have hlink := h.size_link
    have hsharing := size_shared hshare
    have hturn := hshrunk.size
    dsimp only
    omega
  · rw [hplay, hdestroyed]
  · rw [hplay, hcreated]
    exact hmade
  · exact hmet.updated.trans (Nat.zero_add _)
  · rw [hplay]
    exact hwritten.trans (countP_isWrite_stagedEdits _ _ _)
  · exact hmet.creates.trans (Nat.zero_add _)
  · exact hmet.others.trans (Nat.zero_add _)
  · rw [hplay]

def busyReport : TickReport :=
  { tick := 2
    released := 1
    outbound := { spawned := [(⟨5, 1⟩, ⟨3⟩)], passes := 1 }
    inbound := { created := 2, updated := 2, destroyed := 1, stale := 2, unknownTemplates := 1 }
    playback := { instantiated := [⟨1, 1⟩], updated := 1, despawned := 1, skipped := 1 } }

theorem busy_tick_balanced :
    (busyBridge.tick thinnedWorld).value.1 = .ok busyReport ∧
      busyBridge.Balanced thinnedWorld busyReport := by
  have hok : (busyBridge.tick thinnedWorld).value.1 = .ok busyReport := by rfl
  exact ⟨hok, Reachable.balanced reachable_busyBridge reachable_thinnedWorld hok⟩

end SceneBridge.Bridge
