import SceneBridge.Bridge
import SceneBridge.Proofs.Inbound.Demands
import SceneBridge.Proofs.Outbound.FixedPoint
import SceneBridge.Proofs.Playback

/-!
# Runs of a bridge

A `Bridge.Run` starts from a new bridge and an empty world and goes on with starts and ticks, the
host's edits between them, and a guest that may turn into any other at any time. `Bridge.Settled` is
what every tick leaves, whichever way it ends.
-/

namespace SceneBridge.Bridge

open Wire

variable {γ κ U V : Type} [ProjectKind κ]

/-! ## Between two steps -/

/-- The two sides when a tick on a world comes to share: pairs of dead hosts are gone. -/
def link (b : Bridge γ κ U V) (w : World κ) : Outbound.Link γ :=
  { table := (b.table.retainHosts w.isAlive).2, guest := b.guest }

def withGuest (b : Bridge γ κ U V) (guest : γ) : Bridge γ κ U V := { b with guest }

/-- The two directions of the table are inverse to each other and hold proper ids of live hosts
only; those pending are live candidates that the table does not hold, each once. -/
structure Settled (b : Bridge γ κ U V) (w : World κ) : Prop where
  inverse : ∀ host guest, b.table.guest? host = some guest ↔ b.table.host? guest = some host
  valid : ∀ host guest, b.table.guest? host = some guest → guest ≠ GuestId.invalid
  reserved : b.table.host? GuestId.invalid = none
  alive : ∀ host guest, b.table.guest? host = some guest → w.isAlive host = true
  pending_nodup : (b.outbound.pending.map Waiting.entity).Nodup
  pending_unshared : ∀ p ∈ b.outbound.pending, b.table.guest? p.entity = none
  pending_alive : ∀ p ∈ b.outbound.pending, w.isAlive p.entity = true
  pending_asks : ∀ p ∈ b.outbound.pending, w.has p.entity .shareRequest = true
  pending_prefab : ∀ p ∈ b.outbound.pending, w.has p.entity .prefab = false

/-- What holds between two steps of a run, while the host edits the world. -/
structure Sound (b : Bridge γ κ U V) (w : World κ) : Prop where
  world : w.Sound
  table : b.table.Consistent
  pending_nodup : (b.outbound.pending.map Waiting.entity).Nodup

theorem Settled.consistent {b : Bridge γ κ U V} {w : World κ} (h : b.Settled w) :
    b.table.Consistent :=
  ⟨h.inverse, fun host guest hg => by simpa [GuestId.isValid] using h.valid host guest hg⟩

theorem Settled.sound {b : Bridge γ κ U V} {w w' : World κ} (h : b.Settled w) (hw : w'.Sound) :
    b.Sound w' :=
  ⟨hw, h.consistent, h.pending_nodup⟩

theorem Sound.withGuest {b : Bridge γ κ U V} {w : World κ} (h : b.Sound w) (guest : γ) :
    (b.withGuest guest).Sound w :=
  ⟨h.world, h.table, h.pending_nodup⟩

theorem Sound.link {b : Bridge γ κ U V} {w : World κ} (h : b.Sound w) :
    (b.link w).table.Consistent :=
  h.table.retainHosts w.isAlive

theorem Sound.size_link {b : Bridge γ κ U V} {w : World κ} (h : b.Sound w) :
    (b.link w).table.size + (b.table.retainHosts w.isAlive).1.length = b.table.size := by
  have hsize := (Correspondence.shrunk_retainHosts h.table w.isAlive).size
  rwa [List.length_map] at hsize

theorem guest?_link (b : Bridge γ κ U V) (w : World κ) (host : Entity) :
    (b.link w).table.guest? host = if w.isAlive host then b.table.guest? host else none :=
  Correspondence.guest?_retainHosts ..

theorem guest?_of_link {b : Bridge γ κ U V} {w : World κ} {host : Entity} {guest : GuestId}
    (h : (b.link w).table.guest? host = some guest) : b.table.guest? host = some guest := by
  rw [guest?_link] at h
  split at h
  · exact h
  · simp at h

theorem isAlive_of_link {b : Bridge γ κ U V} {w : World κ} {host : Entity}
    (h : (b.link w).table.containsHost host = true) : w.isAlive host = true := by
  obtain ⟨guest, hguest⟩ := Correspondence.containsHost_iff.mp h
  rw [guest?_link] at hguest
  split at hguest
  · assumption
  · simp at hguest

theorem Sound.ready {b : Bridge γ κ U V} {w : World κ} (h : b.Sound w) :
    Outbound.Ready w (b.link w).table
      (b.outbound.queue w (b.link w).table (b.tickCount + 1)).value :=
  Outbound.ready_queue h.pending_nodup ..

/-! ## The halves of a tick -/

variable [ComponentSet U] [ComponentSet V] [Guest γ (Raw U) (Raw V)]

def exchanges (b : Bridge γ κ U V) (w : World κ) : List (Outbound.Exchange γ (Raw U) (Raw V)) :=
  b.outbound.exchanges w b.ingestion (b.link w) (b.tickCount + 1)

def swept (b : Bridge γ κ U V) (w : World κ) : Outbound.Swept γ :=
  b.outbound.swept w b.ingestion (b.link w) (b.tickCount + 1)

theorem value_share (b : Bridge γ κ U V) (w : World κ) :
    (b.share w).value =
      let step := (b.outbound.resolve w b.ingestion (b.link w) (b.tickCount + 1)).value
      (((b.table.retainHosts w.isAlive).1.length, step.1),
        { b with
          tickCount := b.tickCount + 1
          outbound := step.2.1
          table := step.2.2.table
          guest := step.2.2.guest }) :=
  rfl

theorem value_guestTurn (b : Bridge γ κ U V) (w : World κ) :
    let turn := Guest.turn b.guest
    let inbound := (turn.emissions.foldlM (Inbound.take b.registry) { table := b.table }).value
    (b.guestTurn w).value =
      ((turn.outcome, inbound.report, (inbound.commands.play w).value.2),
        { b with guest := turn.guest, table := inbound.table },
        (inbound.commands.play w).value.1) :=
  rfl

/-- A fault while sharing ends a tick: the guest has no turn and the world stays as it is. -/
theorem tick_of_fault {b : Bridge γ κ U V} {w : World κ} {err : BridgeError}
    (h : (b.share w).value.1.2 = .error err) :
    (b.tick w).value = (.error err, (b.share w).value.2, w) := by
  rw [tick, Logged.value_bind]
  simp only [h]
  rfl

/-- Otherwise a tick goes on with the guest's turn, and keeps what that leaves even if it failed. -/
theorem tick_of_shared {b : Bridge γ κ U V} {w : World κ} {report : OutboundReport}
    (h : (b.share w).value.1.2 = .ok report) :
    (b.tick w).value.2 = ((b.share w).value.2.guestTurn w).value.2 := by
  rw [tick, Logged.value_bind]
  simp only [h, Logged.value_bind]
  split
  · rfl
  · rfl

theorem result_of_shared {b : Bridge γ κ U V} {w : World κ} {sharing : OutboundReport}
    (h : (b.share w).value.1.2 = .ok sharing) :
    let turn := ((b.share w).value.2.guestTurn w).value.1
    (b.tick w).value.1 = turn.1.map fun _ =>
      { tick := b.tickCount + 1
        released := (b.table.retainHosts w.isAlive).1.length
        outbound := sharing
        inbound := turn.2.1
        playback := turn.2.2 } := by
  rw [tick, Logged.value_bind]
  simp only [h, Logged.value_bind]
  cases ((b.share w).value.2.guestTurn w).value.1.1 with
  | error err => rfl
  | ok done => rfl

theorem clean_of_shared {b : Bridge γ κ U V} {w : World κ} {report : OutboundReport}
    (h : (b.share w).value.1.2 = .ok report) : (b.swept w).fault = none := by
  cases hfault : (b.swept w).fault with
  | none => rfl
  | some err =>
    rw [value_share, Outbound.resolve_of_fault hfault] at h
    simp at h

/-! ## What a tick leaves -/

theorem table_share (b : Bridge γ κ U V) (w : World κ) :
    (b.share w).value.2.table = (b.swept w).link.table := by
  rw [value_share]
  exact congrArg Outbound.Link.table (Outbound.link_resolve ..)

theorem map_entity_pending_share (b : Bridge γ κ U V) (w : World κ) :
    (b.share w).value.2.outbound.pending.map Waiting.entity =
      (b.swept w).waiting.map Waiting.entity := by
  rw [value_share]
  exact Outbound.map_entity_pending_resolve ..

theorem course_swept (b : Bridge γ κ U V) (w : World κ) :
    Outbound.Course w b.ingestion (b.link w)
      (b.outbound.queue w (b.link w).table (b.tickCount + 1)).value (b.exchanges w) (b.swept w) :=
  Outbound.course_swept ..

theorem Sound.settled_share {b : Bridge γ κ U V} {w : World κ} (h : b.Sound w) :
    (b.share w).value.2.Settled w := by
  have hcourse := b.course_swept w
  have hready := hcourse.ready h.ready
  have hconsistent := (hcourse.conversation.consistent h.link).1
  -- warnings change entries of the queue, so they are compared by entity
  have hentities := b.map_entity_pending_share w
  have hcandidate : ∀ p ∈ (b.share w).value.2.outbound.pending,
      Outbound.isCandidate w (b.swept w).link.table p.entity = true := by
    intro p hp
    have hmem : p.entity ∈ (b.swept w).waiting.map Waiting.entity :=
      hentities ▸ List.mem_map_of_mem hp
    obtain ⟨q, hq, heq⟩ := List.mem_map.mp hmem
    exact heq ▸ hready.candidates q hq
  refine ⟨?_, ?_, ?_, ?_, ?_, ?_, ?_, ?_, ?_⟩
  · rw [table_share]
    exact hconsistent.inverse
  · rw [table_share]
    intro host guest hguest
    simpa [GuestId.isValid] using hconsistent.valid host guest hguest
  · rw [table_share]
    exact hconsistent.host?_invalid
  · rw [table_share]
    intro host guest hguest
    have hcontains := Correspondence.containsHost_iff.mpr ⟨guest, hguest⟩
    -- an old pair outlived the release, a new one belongs to a candidate
    rcases (hcourse.grown.containsHost_iff host).mp hcontains with hold | hnew
    · exact isAlive_of_link hold
    · have hresolvable := hcourse.resolvable h.ready host hnew
      exact (Outbound.isCandidate_iff.mp hresolvable.candidate).1.1
  · rw [hentities]
    exact hready.nodup
  · rw [table_share]
    intro p hp
    exact Correspondence.containsHost_eq_false_iff.mp
      (Outbound.isCandidate_iff.mp (hcandidate p hp)).2
  · exact fun p hp => (Outbound.isCandidate_iff.mp (hcandidate p hp)).1.1
  · exact fun p hp => (Outbound.isCandidate_iff.mp (hcandidate p hp)).1.2.1
  · exact fun p hp => (Outbound.isCandidate_iff.mp (hcandidate p hp)).1.2.2

theorem Settled.guestTurn {b : Bridge γ κ U V} {w : World κ} (h : b.Settled w) (hw : w.Sound) :
    (b.guestTurn w).value.2.1.Settled (b.guestTurn w).value.2.2 := by
  have hstaged := Inbound.staged_turn h.consistent b.registry (Guest.turn b.guest).emissions
  rw [value_guestTurn]
  generalize ((Guest.turn b.guest).emissions.foldlM (Inbound.take b.registry)
    { table := b.table }).value = inbound at hstaged ⊢
  -- those pending were never shared, so no despawn is staged for them
  have hpending : ∀ p ∈ b.outbound.pending, p.entity ∉ inbound.commands.despawns.toList := by
    intro p hp hd
    obtain ⟨guest, hguest⟩ := Correspondence.containsHost_iff.mp (hstaged.staged p.entity hd).1
    rw [h.pending_unshared p hp] at hguest
    simp at hguest
  have hkeep := fun p hp =>
    inbound.commands.play_keeps hw (h.pending_alive p hp) (hpending p hp)
  refine ⟨hstaged.consistent.inverse, ?_, hstaged.consistent.host?_invalid, ?_, h.pending_nodup,
    ?_, ?_, ?_, ?_⟩
  · intro host guest hguest
    exact h.valid host guest (hstaged.shrunk host guest hguest)
  · intro host guest hguest
    have halive := h.alive host guest (hstaged.shrunk host guest hguest)
    refine (inbound.commands.play_keeps hw halive fun hd => ?_).1
    have hgone := (hstaged.staged host hd).2
    rw [Correspondence.containsHost_iff.mpr ⟨guest, hguest⟩] at hgone
    simp at hgone
  · intro p hp
    cases hguest : inbound.table.guest? p.entity with
    | none => rfl
    | some guest =>
      have hbefore := hstaged.shrunk p.entity guest hguest
      rw [h.pending_unshared p hp] at hbefore
      simp at hbefore
  · exact fun p hp => (hkeep p hp).1
  · intro p hp
    rw [World.has, (hkeep p hp).2 .shareRequest (by simp) (by simp)]
    exact h.pending_asks p hp
  · intro p hp
    rw [World.has, (hkeep p hp).2 .prefab (by simp) (by simp)]
    exact h.pending_prefab p hp

theorem Sound.settled_tick {b : Bridge γ κ U V} {w : World κ} (h : b.Sound w) :
    (b.tick w).value.2.1.Settled (b.tick w).value.2.2 := by
  cases hshare : (b.share w).value.1.2 with
  | error err =>
    rw [tick_of_fault hshare]
    exact h.settled_share
  | ok report =>
    rw [tick_of_shared hshare]
    exact h.settled_share.guestTurn h.world

theorem sound_world_tick (b : Bridge γ κ U V) {w : World κ} (hw : w.Sound) :
    (b.tick w).value.2.2.Sound := by
  cases hshare : (b.share w).value.1.2 with
  | error err =>
    rw [tick_of_fault hshare]
    exact hw
  | ok report =>
    rw [tick_of_shared hshare]
    exact (CommandBuffer.via_play _ w).sound hw

/-! ## Whole runs -/

/-- The runs to a bridge and a world, with the exchanges on the way. Between two ticks the host may
edit the world as it likes, and the guest may turn into any other. -/
inductive Run : Bridge γ κ U V → World κ → List (Outbound.Exchange γ (Raw U) (Raw V)) → Prop
  | new (guest : γ) (warnPasses warnAfter : Nat) (ingestion : Ingestion κ U V) :
    Run (.new guest warnPasses warnAfter ingestion) .empty []
  | start {b : Bridge γ κ U V} {w : World κ} {history : List (Outbound.Exchange γ (Raw U) (Raw V))}
      (h : Run b w history) : Run (b.start w).value.2 w history
  | tick {b : Bridge γ κ U V} {w : World κ} {history : List (Outbound.Exchange γ (Raw U) (Raw V))}
      (h : Run b w history) :
    Run (b.tick w).value.2.1 (b.tick w).value.2.2 (history ++ b.exchanges w)
  | edit {b : Bridge γ κ U V} {w w' : World κ}
      {history : List (Outbound.Exchange γ (Raw U) (Raw V))} (h : Run b w history)
      (hedit : HostEdit w w') : Run b w' history
  | swap {b : Bridge γ κ U V} {w : World κ} {history : List (Outbound.Exchange γ (Raw U) (Raw V))}
      (h : Run b w history) (guest : γ) : Run (b.withGuest guest) w history

variable {b : Bridge γ κ U V} {w : World κ}
variable {history : List (Outbound.Exchange γ (Raw U) (Raw V))}

theorem start_keeps (b : Bridge γ κ U V) (w : World κ) :
    (b.start w).value.2.table = b.table ∧ (b.start w).value.2.outbound = b.outbound := by
  unfold start
  split
  · exact ⟨rfl, rfl⟩
  · simp only [Logged.value_bind]
    split
    · exact ⟨rfl, rfl⟩
    · exact ⟨rfl, rfl⟩

theorem Run.sound (h : Run b w history) : b.Sound w := by
  induction h with
  | new guest warnPasses warnAfter ingestion =>
    exact ⟨World.sound_empty, Correspondence.consistent_empty, List.nodup_nil⟩
  | @start b w history _ ih =>
    obtain ⟨htable, houtbound⟩ := b.start_keeps w
    exact ⟨ih.world, htable ▸ ih.table, houtbound ▸ ih.pending_nodup⟩
  | @tick b w history _ ih =>
    exact ih.settled_tick.sound (b.sound_world_tick ih.world)
  | edit _ hedit ih => exact ⟨hedit.via.sound ih.world, ih.table, ih.pending_nodup⟩
  | swap _ guest ih => exact ih.withGuest guest

theorem Run.spawnAll (h : Run b w history) (scene : List (List (Component κ))) :
    Run b (scene.foldl (fun w components => (w.spawnWith components).2) w) history := by
  induction scene generalizing w with
  | nil => exact h
  | cons components scene ih => exact ih (h.edit (.spawn w components))

/-- The states that starts and ticks lead to, on whatever worlds. The guest may turn into any other
at any time. -/
inductive Reachable : Bridge γ κ U V → Prop
  | new (guest : γ) (warnPasses warnAfter : Nat) (ingestion : Ingestion κ U V) :
    Reachable (.new guest warnPasses warnAfter ingestion)
  | start {b : Bridge γ κ U V} (h : Reachable b) (w : World κ) : Reachable (b.start w).value.2
  | tick {b : Bridge γ κ U V} (h : Reachable b) {w : World κ} (hw : w.Reachable) :
    Reachable (b.tick w).value.2.1
  | swap {b : Bridge γ κ U V} (h : Reachable b) (guest : γ) : Reachable (b.withGuest guest)

theorem Reachable.sound (h : b.Reachable) (hw : w.Reachable) : b.Sound w := by
  induction h generalizing w with
  | new guest warnPasses warnAfter ingestion =>
    exact ⟨hw.sound, Correspondence.consistent_empty, List.nodup_nil⟩
  | @start b _ w' ih =>
    obtain ⟨htable, houtbound⟩ := b.start_keeps w'
    have hb := ih hw
    exact ⟨hb.world, htable ▸ hb.table, houtbound ▸ hb.pending_nodup⟩
  | tick _ hw' ih => exact (ih hw').settled_tick.sound hw.sound
  | swap _ guest ih => exact (ih hw).withGuest guest

/-- Whatever host and guest have done before and however the tick ends, it leaves a settled
bridge. -/
theorem Run.settled_after_tick (h : Run b w history) :
    (b.tick w).value.2.1.Settled (b.tick w).value.2.2 :=
  h.sound.settled_tick

def refusedBridge : Bridge (ScriptedGuest Empty Empty) Empty Empty Empty :=
  .new { replies := [5, GuestId.invalid.raw] } 8 0

theorem settled_after_refusal :
    (refusedBridge.tick Outbound.tangledWorld).value.1.isOk = false ∧
      (refusedBridge.tick Outbound.tangledWorld).value.2.1.Settled
        (refusedBridge.tick Outbound.tangledWorld).value.2.2 :=
  ⟨by decide, Run.settled_after_tick (.spawnAll (.new ..) _)⟩

end SceneBridge.Bridge
