import SceneBridge.Host.Session
import SceneBridge.Proofs.Bridge.Abort
import SceneBridge.Proofs.Bridge.Requests
import SceneBridge.Proofs.Bridge.Start
import SceneBridge.Proofs.Guest.Loading

/-!
# The rounds of a host

A host that runs for a number of ticks makes as many rounds: it asks for entities and gives the
module its tick. A request that fails is the last call of its round and of the host, apart from the
unload.
-/

namespace SceneBridge

open Wire

variable {μ κ U V : Type} [ProjectKind κ] [ComponentSet U] [ComponentSet V]
variable [GuestModule μ (Raw U) (Raw V)]

namespace Bridge

/-! ## What a bridge calls -/

section

variable {γ : Type} [Guest γ (Raw U) (Raw V)]

theorem outcome_guestTurn (b : Bridge γ κ U V) (w : World κ) :
    (b.guestTurn w).value.1.1 = (Guest.turn b.guest).outcome :=
  rfl

theorem tickCount_tick (b : Bridge γ κ U V) (w : World κ) :
    (b.tick w).value.2.1.tickCount = b.tickCount + 1 := by
  cases hshare : (b.share w).value.1.2 with
  | error err =>
    rw [tick_of_fault hshare]
    rfl
  | ok sharing =>
    rw [tick_of_shared hshare]
    rfl

theorem tickCount_start (b : Bridge γ κ U V) (w : World κ) :
    (b.start w).value.2.tickCount = b.tickCount := by
  cases hpushed : b.registry.pushed with
  | true => rw [start_of_pushed hpushed]
  | false => rw [start_of_unpushed hpushed]

end

/-- A tick that comes to the module's turn succeeds: a module has no way to fail in it. -/
theorem report_of_shared {b : Bridge (ModuleGuest μ) κ U V} {w : World κ}
    {sharing : OutboundReport} (h : (b.share w).value.1.2 = .ok sharing) :
    ∃ report, (b.tick w).value.1 = .ok report ∧ report.tick = b.tickCount + 1 := by
  have hturn : ((b.share w).value.2.guestTurn w).value.1.1 = .ok () := by
    rw [outcome_guestTurn, ModuleGuest.outcome_turn]
  rw [result_of_shared h, hturn]
  exact ⟨_, rfl, rfl⟩

theorem result_start (b : Bridge (ModuleGuest μ) κ U V) (w : World κ) :
    (b.start w).value.1 = .ok () := by
  cases hpushed : b.registry.pushed with
  | true => rw [start_of_pushed hpushed]
  | false =>
    rw [start_of_unpushed hpushed,
      TemplateRegistry.pushAll_of_unpushed (TemplateRegistry.pushed_collect w)]
    exact (TemplateRegistry.send_of_obliging ModuleGuest.outcome_register b.guest _).1

def spawnCall (x : Outbound.Exchange (ModuleGuest (Traced μ)) (Raw U) (Raw V)) : EntryCall :=
  .spawn x.request.host.toSigned x.answer

variable (b : Bridge (ModuleGuest (Traced μ)) κ U V) (w : World κ)

theorem calls_share : (b.share w).value.2.guest.calls =
    b.guest.calls ++ (b.exchanges w).map spawnCall :=
  (b.conversation_share w).noted fun x => x.guest.calls_spawn x.request

theorem calls_guestTurn : (b.guestTurn w).value.2.1.guest.calls = b.guest.calls ++ [.tick] := rfl

/-- The ids of the families that a world declares, in the order in which they are registered. -/
def familyIds (w : World κ) : List Int32 :=
  (TemplateRegistry.collect w).value.families.toList.map Prod.fst

theorem calls_start (h : b.registry.pushed = false) :
    (b.start w).value.2.guest.calls = b.guest.calls ++ (familyIds w).map .register := by
  have hall := (TemplateRegistry.send_of_obliging ModuleGuest.outcome_register b.guest
    (TemplateRegistry.collect w).value.families.toList).2
  have hheard := TemplateRegistry.heard_send ModuleGuest.calls
    (fun familyId _ => .register familyId) ModuleGuest.calls_register b.guest
    (TemplateRegistry.collect w).value.families.toList
  rw [start_of_unpushed h, TemplateRegistry.pushAll_of_unpushed (TemplateRegistry.pushed_collect w)]
  refine hheard.trans ?_
  rw [hall, familyIds, List.map_map, List.map_map]
  rfl

variable {b w}

theorem calls_tick_of_fault {err : BridgeError} (h : (b.share w).value.1.2 = .error err) :
    (b.tick w).value.2.1.guest.calls = b.guest.calls ++ (b.exchanges w).map spawnCall := by
  rw [tick_of_fault h, calls_share]

theorem calls_tick_of_shared {sharing : OutboundReport}
    (h : (b.share w).value.1.2 = .ok sharing) :
    (b.tick w).value.2.1.guest.calls =
      b.guest.calls ++ ((b.exchanges w).map spawnCall ++ [.tick]) := by
  rw [tick_of_shared h, calls_guestTurn, calls_share, List.append_assoc]

/-! ## Rounds -/

/-- The calls of a host that is to make so many rounds, and how it ends: each round asks for
entities and then gives the module its tick. A request that fails is the last call of all. -/
inductive Rounds : Nat → Bridge (ModuleGuest (Traced μ)) κ U V → World κ → List EntryCall →
    Except HostError Unit → Prop
  | done {b : Bridge (ModuleGuest (Traced μ)) κ U V} {w : World κ} : Rounds 0 b w [] (.ok ())
  | round {n : Nat} {b : Bridge (ModuleGuest (Traced μ)) κ U V} {w : World κ}
      {later : List EntryCall} {outcome : Except HostError Unit}
      (hall : ∀ x ∈ b.exchanges w, x.acknowledged = true)
      (rest : Rounds n (b.tick w).value.2.1 (b.tick w).value.2.2 later outcome) :
    Rounds (n + 1) b w ((b.exchanges w).map spawnCall ++ .tick :: later) outcome
  | aborted {n : Nat} {b : Bridge (ModuleGuest (Traced μ)) κ U V} {w : World κ}
      {before : List (Outbound.Exchange (ModuleGuest (Traced μ)) (Raw U) (Raw V))}
      {x : Outbound.Exchange (ModuleGuest (Traced μ)) (Raw U) (Raw V)} {err : BridgeError}
      (hlast : b.exchanges w = before ++ [x])
      (hbefore : ∀ y ∈ before, y.acknowledged = true) (hfails : x.FailsWith err) :
    Rounds (n + 1) b w ((b.exchanges w).map spawnCall) (.error (.bridge err))

variable {n : Nat} {calls : List EntryCall} {outcome : Except HostError Unit}

theorem count_tick_spawns (b : Bridge (ModuleGuest (Traced μ)) κ U V) (w : World κ) :
    ((b.exchanges w).map spawnCall).count .tick = 0 := by
  refine List.count_eq_zero.mpr fun hmem => ?_
  obtain ⟨x, -, hx⟩ := List.mem_map.mp hmem
  simp [spawnCall] at hx

theorem Rounds.count_tick (h : Rounds n b w calls outcome) :
    outcome = .ok () ∧ calls.count .tick = n ∨
      ∃ err, outcome = .error (.bridge err) ∧ calls.count .tick < n := by
  induction h with
  | done => exact .inl ⟨rfl, rfl⟩
  | @round n b w later outcome _ _ ih =>
    have hcount : ((b.exchanges w).map spawnCall ++ .tick :: later).count .tick =
        later.count .tick + 1 := by
      rw [List.count_append, count_tick_spawns, List.count_cons_self, Nat.zero_add]
    rw [hcount]
    rcases ih with ⟨hok, hall⟩ | ⟨err, herr, hfewer⟩
    · exact .inl ⟨hok, congrArg (· + 1) hall⟩
    · exact .inr ⟨err, herr, Nat.add_lt_add_right hfewer 1⟩
  | @aborted n b w before x err _ _ _ =>
    rw [count_tick_spawns]
    exact .inr ⟨err, rfl, Nat.succ_pos n⟩

end Bridge

/-! ## Sessions -/

namespace Session

theorem step_of_fault {s : Session μ κ U V} {err : BridgeError}
    (h : (s.bridge.share s.world).value.1.2 = .error err) :
    s.step.value = .ended
      { outcome := .error (.bridge err)
        process := (s.bridge.tick s.world).value.2.1.guest.unload.value } := by
  rw [step, Logged.value_bind, Bridge.tick_of_fault h]
  rfl

def next (s : Session μ κ U V) : Session μ κ U V :=
  { s with
    bridge := (s.bridge.tick s.world).value.2.1
    world := (s.bridge.tick s.world).value.2.2 }

theorem step_of_shared {s : Session μ κ U V} {sharing : OutboundReport}
    (h : (s.bridge.share s.world).value.1.2 = .ok sharing) :
    s.step.value =
      if 0 < s.config.run.ticks && s.config.run.ticks ≤ s.bridge.tickCount + 1 then
        .ended { outcome := .ok (), process := s.next.bridge.guest.unload.value }
      else .running s.next := by
  obtain ⟨report, hreport, htick⟩ := Bridge.report_of_shared h
  -- the report names the tick, and that decides whether there is another
  rw [step, Logged.value_bind, next]
  generalize (s.bridge.tick s.world).value = ticked at hreport ⊢
  obtain ⟨result, bridge, world⟩ := ticked
  obtain rfl : result = .ok report := hreport
  simp only [Logged.value_bind, htick]
  split
  · rfl
  · rfl

theorem advance_ended (limit : Nat) (result : SessionEnd μ) :
    (advance limit (.ended result : SessionStep μ κ U V)).value = .ended result := by
  cases limit with
  | zero => rfl
  | succ limit => rfl

variable {s : Session (Traced μ) κ U V}

/-- A session ends after some rounds: it has made the calls of those, and then the unload. -/
def EndsAfter (s : Session (Traced μ) κ U V) (n : Nat) (result : SessionEnd (Traced μ)) : Prop :=
  ∃ calls, Bridge.Rounds n s.bridge s.world calls result.outcome ∧
    result.process.module.calls = s.bridge.guest.calls ++ (calls ++ [.unload])

theorem endsAfter_unload (s : Session (Traced μ) κ U V) :
    s.EndsAfter 0 { outcome := .ok (), process := s.bridge.guest.unload.value } :=
  ⟨[], .done, s.bridge.guest.calls_unload⟩

theorem advance_of_fault (hs : s.bridge.Sound s.world) {err : BridgeError}
    (h : (s.bridge.share s.world).value.1.2 = .error err) (n : Nat) :
    ∃ result, (advance (n + 1) (.running s)).value = .ended result ∧
      s.EndsAfter (n + 1) result := by
  obtain ⟨before, x, hlast, hbefore, hfails⟩ := hs.failing_exchange h
  have hrun : (advance (n + 1) (.running s)).value = .ended
      { outcome := .error (.bridge err)
        process := (s.bridge.tick s.world).value.2.1.guest.unload.value } := by
    rw [advance, Logged.value_bind, step_of_fault h, advance_ended]
  refine ⟨_, hrun, (s.bridge.exchanges s.world).map Bridge.spawnCall, ?_, ?_⟩
  · exact .aborted hlast hbefore hfails
  · rw [ModuleGuest.calls_unload, Bridge.calls_tick_of_fault h, List.append_assoc]

theorem endsAfter_of_shared {sharing : OutboundReport}
    (h : (s.bridge.share s.world).value.1.2 = .ok sharing) {n : Nat}
    {result : SessionEnd (Traced μ)} (hnext : s.next.EndsAfter n result) :
    s.EndsAfter (n + 1) result := by
  obtain ⟨later, hrounds, hcalls⟩ := hnext
  refine ⟨(s.bridge.exchanges s.world).map Bridge.spawnCall ++ .tick :: later, ?_, ?_⟩
  · exact .round (Bridge.acknowledged_of_shared h) hrounds
  · rw [hcalls, next, Bridge.calls_tick_of_shared h]
    simp

theorem advance_endsAfter (hs : s.bridge.Sound s.world) {n : Nat}
    (hticks : s.config.run.ticks = s.bridge.tickCount + (n + 1)) :
    ∃ result, (advance (n + 1) (.running s)).value = .ended result ∧
      s.EndsAfter (n + 1) result := by
  induction n generalizing s with
  | zero =>
    cases hshare : (s.bridge.share s.world).value.1.2 with
    | error err => exact advance_of_fault hs hshare 0
    | ok sharing =>
      have hlast : (0 < s.config.run.ticks &&
          s.config.run.ticks ≤ s.bridge.tickCount + 1) = true := by
        simp [hticks]
      rw [advance, Logged.value_bind, step_of_shared hshare, if_pos hlast]
      exact ⟨_, rfl, endsAfter_of_shared hshare s.next.endsAfter_unload⟩
  | succ n ih =>
    cases hshare : (s.bridge.share s.world).value.1.2 with
    | error err => exact advance_of_fault hs hshare (n + 1)
    | ok sharing =>
      have hmore : ¬ (0 < s.config.run.ticks &&
          s.config.run.ticks ≤ s.bridge.tickCount + 1) = true := by
        simp [hticks]
      have hnext : s.next.bridge.Sound s.next.world :=
        hs.settled_tick.sound (s.bridge.sound_world_tick hs.world)
      -- one tick more is behind it and one round less to come
      have hleft : s.next.config.run.ticks = s.next.bridge.tickCount + (n + 1) := by
        rw [next, Bridge.tickCount_tick, hticks]
        omega
      obtain ⟨result, hrun, hends⟩ := ih hnext hleft
      rw [advance, Logged.value_bind, step_of_shared hshare, if_neg hmore]
      exact ⟨result, hrun, endsAfter_of_shared hshare hends⟩

end Session

end SceneBridge
