import SceneBridge.Proofs.Bridge.Run
import SceneBridge.Proofs.Outbound.Progress

/-!
# Recovery after faults

Ticks may fail while they share, any number of times and at any request. Each failed tick is
`Outbound.Progress`, so the first tick in which the guest acknowledges everything ends where a
single such tick would have ended without the failures.
-/

namespace SceneBridge.Bridge

open Wire

variable {γ κ U V : Type} [ProjectKind κ]

theorem Settled.released {b : Bridge γ κ U V} {w : World κ} (h : b.Settled w) :
    (b.table.retainHosts w.isAlive).1 = [] := by
  refine List.eq_nil_iff_forall_not_mem.mpr fun ⟨host, guest⟩ hpair => ?_
  obtain ⟨hguest, hdead⟩ := Correspondence.mem_dropped_iff.mp hpair
  rw [h.alive host guest hguest] at hdead
  simp at hdead

theorem Settled.table_link {b : Bridge γ κ U V} {w : World κ} (h : b.Settled w) :
    (b.link w).table = b.table := by
  show (b.table.retainHosts w.isAlive).1.foldl Correspondence.dropPair b.table = b.table
  rw [h.released, List.foldl_nil]

variable [ComponentSet U] [ComponentSet V] [Guest γ (Raw U) (Raw V)]

theorem Sound.progress_share {b : Bridge γ κ U V} {w : World κ} (h : b.Sound w) :
    Outbound.Progress w (b.link w).table (b.exchanges w) (b.share w).value.2.table := by
  rw [table_share]
  exact (b.course_swept w).progress h.ready

/-! ## Ticks that fail -/

/-- Ticks on one world each of which fails while it shares, with their exchanges. Such a tick leaves
the world as it is (`tick_of_fault`). Before each of them the guest may turn into any other. -/
inductive Aborted (w : World κ) :
    Bridge γ κ U V → List (Outbound.Exchange γ (Raw U) (Raw V)) → Bridge γ κ U V → Prop
  | none (b : Bridge γ κ U V) : Aborted w b [] b
  | tick {b b' : Bridge γ κ U V} {xs : List (Outbound.Exchange γ (Raw U) (Raw V))} (guest : γ)
      (fails : ((b.withGuest guest).share w).value.1.2.isOk = false)
      (rest : Aborted w ((b.withGuest guest).tick w).value.2.1 xs b') :
      Aborted w b ((b.withGuest guest).exchanges w ++ xs) b'

theorem Aborted.progress {w : World κ} {b b' : Bridge γ κ U V}
    {xs : List (Outbound.Exchange γ (Raw U) (Raw V))} (h : Aborted w b xs b') (hb : b.Sound w) :
    b'.Sound w ∧ Outbound.Progress w (b.link w).table xs (b'.link w).table := by
  induction h with
  | none b => exact ⟨hb, .refl w (b.link w).table⟩
  | @tick b b' xs guest fails _ ih =>
    have hguest := hb.withGuest guest
    have hsettled := hguest.settled_share
    obtain ⟨err, herr⟩ : ∃ err, ((b.withGuest guest).share w).value.1.2 = .error err := by
      cases hshare : ((b.withGuest guest).share w).value.1.2 with
      | error err => exact ⟨err, rfl⟩
      | ok report => simp [hshare, Except.isOk, Except.toBool] at fails
    rw [tick_of_fault herr] at ih
    obtain ⟨hb', hrest⟩ := ih (hsettled.sound hb.world)
    rw [hsettled.table_link] at hrest
    exact ⟨hb', hguest.progress_share.trans hrest⟩

/-! ## Ticks that are acknowledged -/

/-- The first half of a tick succeeds and leaves nobody waiting who could be shared. -/
structure Completes (b : Bridge γ κ U V) (w : World κ) : Prop where
  ok : ∃ report, (b.share w).value.1.2 = .ok report
  mapped : ∀ e, (b.share w).value.2.table.containsHost e = true ↔
    (b.link w).table.containsHost e = true ∨ Outbound.Resolvable w (b.link w).table e
  pending : ∀ e, e ∈ (b.share w).value.2.outbound.pending.map Waiting.entity ↔
    Outbound.isCandidate w (b.link w).table e = true ∧
      ¬ Outbound.Resolvable w (b.link w).table e
  stuck : ∀ e, ¬ Outbound.Resolvable w (b.share w).value.2.table e

theorem Sound.completes {b : Bridge γ κ U V} {w : World κ} (h : b.Sound w)
    (hanswers : ∀ x ∈ b.exchanges w, x.acknowledged = true) : b.Completes w := by
  have clean : (b.swept w).fault = none := Outbound.clean_of_acknowledged h.pending_nodup hanswers
  have hstuck : ∀ e, ¬ Outbound.Resolvable w (b.share w).value.2.table e := by
    intro e
    rw [table_share]
    exact Outbound.not_resolvable_of_clean clean
  refine ⟨?_, fun e => ?_, fun e => ?_, hstuck⟩
  · obtain ⟨report, pending, hresolve, -⟩ := Outbound.resolve_of_clean clean
    exact ⟨report, by rw [value_share, hresolve]⟩
  · rw [h.progress_share.shared_iff, or_iff_left (hstuck e)]
  · rw [map_entity_pending_share]
    exact Outbound.mem_waiting_iff h.pending_nodup clean

/-! ## Recovery -/

/-- What a tick after failed ones, whose exchanges are given, has in common with one that goes
straight ahead. -/
structure Recovers (w : World κ) (xs : List (Outbound.Exchange γ (Raw U) (Raw V)))
    (late direct : Bridge γ κ U V) : Prop where
  late_ok : ∃ report, (late.share w).value.1.2 = .ok report
  direct_ok : ∃ report, (direct.share w).value.1.2 = .ok report
  mapped : ∀ e, (late.share w).value.2.table.containsHost e =
    (direct.share w).value.2.table.containsHost e
  pending : ((late.share w).value.2.outbound.pending.map Waiting.entity).Perm
    ((direct.share w).value.2.outbound.pending.map Waiting.entity)
  grown : (direct.link w).table.Grown (late.share w).value.2.table
    (Outbound.acknowledgedPairs (xs ++ late.exchanges w))
  /-- Those acknowledged are the same, in another order. -/
  complete : ((Outbound.acknowledgedPairs (xs ++ late.exchanges w)).map Prod.fst).Perm
    ((Outbound.acknowledgedPairs (direct.exchanges w)).map Prod.fst)
  /-- Nobody who was acknowledged is requested again. -/
  once : (xs ++ late.exchanges w).Pairwise fun x y =>
    x.acknowledged = true → x.request.host ≠ y.request.host

/-- However many ticks on a world fail while they share, and at whatever requests: a tick with
nothing but acknowledgements makes up for it. -/
theorem Run.recovers {b b' : Bridge γ κ U V} {w : World κ}
    {history xs : List (Outbound.Exchange γ (Raw U) (Raw V))} (h : Run b w history)
    (haborted : Aborted w b xs b') (late direct : γ)
    (hlate : ∀ x ∈ (b'.withGuest late).exchanges w, x.acknowledged = true)
    (hdirect : ∀ x ∈ (b.withGuest direct).exchanges w, x.acknowledged = true) :
    Recovers w xs (b'.withGuest late) (b.withGuest direct) := by
  obtain ⟨hb', hfailed⟩ := haborted.progress h.sound
  have hsoundDirect := h.sound.withGuest direct
  have hsoundLate := hb'.withGuest late
  have hcompleteLate := hsoundLate.completes hlate
  have hcompleteDirect := hsoundDirect.completes hdirect
  -- both ways start from one table, so each side is compared with what was resolvable then
  have hwhole := hfailed.trans hsoundLate.progress_share
  refine ⟨hcompleteLate.ok, hcompleteDirect.ok, fun e => ?_, ?_, hwhole.grown, ?_, hwhole.once⟩
  · rw [Bool.eq_iff_iff, hcompleteLate.mapped, hcompleteDirect.mapped]
    exact hfailed.shared_iff.symm
  · refine (List.perm_ext_iff_of_nodup hsoundLate.settled_share.pending_nodup
      hsoundDirect.settled_share.pending_nodup).mpr fun e => ?_
    rw [hcompleteLate.pending, hcompleteDirect.pending]
    exact hfailed.waiting_iff.symm
  · refine (List.perm_ext_iff_of_nodup hwhole.nodup_hosts
      hsoundDirect.progress_share.nodup_hosts).mpr fun e => ?_
    rw [hwhole.mem_hosts_iff (hcompleteLate.stuck e),
      hsoundDirect.progress_share.mem_hosts_iff (hcompleteDirect.stuck e)]
    exact Iff.rfl

/-! ## A guest that refuses and then repeats itself -/

def onceRefused : Bridge (ScriptedGuest Empty Empty) Empty Empty Empty :=
  ((refusedBridge.withGuest refusedBridge.guest).tick Outbound.tangledWorld).value.2.1

def twiceRefused : Bridge (ScriptedGuest Empty Empty) Empty Empty Empty :=
  ((onceRefused.withGuest { replies := [5] }).tick Outbound.tangledWorld).value.2.1

theorem aborted_twice :
    Aborted Outbound.tangledWorld refusedBridge
      ((refusedBridge.withGuest refusedBridge.guest).exchanges Outbound.tangledWorld ++
        ((onceRefused.withGuest { replies := [5] }).exchanges Outbound.tangledWorld ++ []))
      twiceRefused := by
  unfold twiceRefused onceRefused
  exact .tick _ (by decide +kernel) (.tick _ (by decide +kernel) (.none _))

theorem twice_refused_recovers :
    Recovers Outbound.tangledWorld
      ((refusedBridge.withGuest refusedBridge.guest).exchanges Outbound.tangledWorld ++
        ((onceRefused.withGuest { replies := [5] }).exchanges Outbound.tangledWorld ++ []))
      (twiceRefused.withGuest { nextId := 6 }) (refusedBridge.withGuest { nextId := 1 }) :=
  Run.recovers (.spawnAll (.new ..) _) aborted_twice { nextId := 6 } { nextId := 1 }
    (by decide +kernel) (by decide +kernel)

end SceneBridge.Bridge
