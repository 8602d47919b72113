import SceneBridge.Proofs.Host.Rounds
import SceneBridge.Proofs.SceneDescription.Spawned

/-!
# The life of a module in a host

A host calls nothing before it has a configuration, a scene and all entry points. It gives up a
module without a context as it is; any other is initialised, learns of the families and is unloaded
in the end, however the rounds went (`Session.lifecycle`).
-/

namespace SceneBridge

open Wire ModuleGuest

variable {μ κ U V : Type} [ProjectKind κ] [ComponentSet U] [ComponentSet V]
variable [GuestModule μ (Raw U) (Raw V)]

namespace HostConfig

theorem ofFile_toUTF8 (path text : String) : ofFile path (.ok text.toUTF8) = ofToml text := by
  have htext : String.fromUTF8? text.toUTF8 = some text := dif_pos text.isValidUTF8
  rw [ofFile, textOfFile, htext]

def bridgeTo (config : HostConfig) (guest : ModuleGuest μ) : Bridge (ModuleGuest μ) κ U V :=
  .new guest config.bridge.warnResolutionPasses config.bridge.warnPendingAfterTicks

def started (config : HostConfig) (w : World κ) (guest : ModuleGuest μ) :
    Bridge (ModuleGuest μ) κ U V :=
  ((config.bridgeTo guest).start w).value.2

theorem sound_started (config : HostConfig) {w : World κ} (hw : w.Sound) (guest : ModuleGuest μ) :
    (config.started w guest : Bridge (ModuleGuest μ) κ U V).Sound w := by
  obtain ⟨htable, houtbound⟩ :=
    (config.bridgeTo guest : Bridge (ModuleGuest μ) κ U V).start_keeps w
  exact ⟨hw, htable ▸ Correspondence.consistent_empty, houtbound ▸ List.nodup_nil⟩

theorem tickCount_started (config : HostConfig) (w : World κ) (guest : ModuleGuest μ) :
    (config.started w guest : Bridge (ModuleGuest μ) κ U V).tickCount = 0 :=
  Bridge.tickCount_start _ _

end HostConfig

namespace Session

/-! ## Booting -/

variable {read : SettingsReader} {loader : ModuleLoader} {path : String}
variable {content : Except ReadFault ByteArray}
variable {config : HostConfig} {named : NamedEntities} {w : World κ} {p left : ModuleProcess μ}

theorem boot_of_unread {err : HostError} (h : read path content = .error err) :
    (boot loader path content p read : Logged (SessionStep μ κ U V)).value =
      .ended { outcome := .error err, process := p } := by
  rw [boot, h]
  rfl

theorem boot_of_unspawned {err : SceneError} (hconfig : read path content = .ok config)
    (hscene : (config.scene.spawnInto World.empty).value = (.error err, w)) :
    (boot loader path content p read : Logged (SessionStep μ κ U V)).value =
      .ended { outcome := .error (.scene err), process := p } := by
  rw [boot, hconfig]
  simp only [Logged.value_bind, hscene]
  rfl

theorem boot_of_unloaded {err : BridgeError} (hconfig : read path content = .ok config)
    (hscene : (config.scene.spawnInto World.empty).value = (.ok named, w))
    (hload : (ModuleGuest.load loader config.bridge.library config.bridge.basePath
      config.bridge.symbols p).value = .error (err, left)) :
    (boot loader path content p read : Logged (SessionStep μ κ U V)).value =
      .ended { outcome := .error (.bridge err), process := left } := by
  rw [boot, hconfig]
  simp only [Logged.value_bind, hscene, hload]
  rfl

theorem boot_of_loaded {guest : ModuleGuest μ}
    (hconfig : read path content = .ok config)
    (hscene : (config.scene.spawnInto World.empty).value = (.ok named, w))
    (hload : (ModuleGuest.load loader config.bridge.library config.bridge.basePath
      config.bridge.symbols p).value = .ok guest) :
    (boot loader path content p read : Logged (SessionStep μ κ U V)).value =
      .running { config, world := w, bridge := config.started w guest } := by
  have hstart := (config.bridgeTo guest : Bridge (ModuleGuest μ) κ U V).result_start w
  rw [HostConfig.started]
  rcases hanswer : ((config.bridgeTo guest : Bridge (ModuleGuest μ) κ U V).start w).value with
    ⟨result, bridge⟩
  obtain rfl : result = .ok () := (congrArg Prod.fst hanswer).symm.trans hstart
  rw [HostConfig.bridgeTo] at hanswer
  rw [boot, hconfig]
  simp only [Logged.value_bind, hscene, hload, hanswer]
  rfl

/-! ## A watched run -/

/-- Two sessions of which the first is the second with its module watched. -/
structure Watches (s : Session (Traced μ) κ U V) (t : Session μ κ U V) : Prop where
  config : s.config = t.config
  world : s.world = t.world
  bridge : s.bridge.Alike (fun g d => g.erase = d) t.bridge

inductive Erases : SessionStep (Traced μ) κ U V → SessionStep μ κ U V → Prop
  | running {s : Session (Traced μ) κ U V} {t : Session μ κ U V} (h : s.Watches t) :
    Erases (.running s) (.running t)
  | ended {outcome : Except HostError Unit} {process : ModuleProcess (Traced μ)} :
    Erases (.ended { outcome, process }) (.ended { outcome, process := process.erase })

omit [ComponentSet U] [ComponentSet V] [GuestModule μ (Raw U) (Raw V)] in
theorem Erases.eq_ended {outcome : Except HostError Unit} {process : ModuleProcess (Traced μ)}
    {state : SessionStep μ κ U V} (h : Erases (.ended { outcome, process }) state) :
    state = .ended { outcome, process := process.erase } := by
  cases h
  rfl

theorem erases_boot (read : SettingsReader) (loader : ModuleLoader) (path : String)
    (content : Except ReadFault ByteArray) (q : ModuleProcess (Traced μ)) :
    Erases (boot loader path content q read : Logged (SessionStep (Traced μ) κ U V)).value
      (boot loader path content q.erase read).value := by
  cases hconfig : read path content with
  | error err =>
    rw [boot_of_unread hconfig, boot_of_unread hconfig]
    exact .ended
  | ok config =>
    rcases hscene : (config.scene.spawnInto (World.empty : World κ)).value with ⟨err | named, w⟩
    · rw [boot_of_unspawned hconfig hscene, boot_of_unspawned hconfig hscene]
      exact .ended
    · have herase := erase_load loader config.bridge.library config.bridge.basePath
        config.bridge.symbols q
      rcases hload : (ModuleGuest.load loader config.bridge.library config.bridge.basePath
        config.bridge.symbols q).value with ⟨err, left⟩ | guest
      · rw [hload] at herase
        rw [boot_of_unloaded hconfig hscene hload, boot_of_unloaded hconfig hscene herase]
        exact .ended
      · rw [hload] at herase
        rw [boot_of_loaded hconfig hscene hload, boot_of_loaded hconfig hscene herase]
        have hnew : (config.bridgeTo guest : Bridge _ κ U V).Alike (fun g d => g.erase = d)
            (config.bridgeTo guest.erase) :=
          ⟨rfl, rfl, rfl, rfl, rfl, rfl⟩
        exact .running ⟨rfl, rfl, (hnew.start alike_erase w).2⟩

theorem Watches.step {s : Session (Traced μ) κ U V} {t : Session μ κ U V} (h : s.Watches t) :
    Erases s.step.value t.step.value := by
  obtain ⟨hconfig, hworld, hbridge⟩ := h
  have hshared : (s.bridge.share s.world).value.1.2 = (t.bridge.share t.world).value.1.2 := by
    rw [← hworld]
    exact congrArg Prod.snd (hbridge.share alike_erase s.world).1
  have hnext : s.next.Watches t.next := by
    obtain ⟨htick, hafter⟩ := hbridge.tick alike_erase s.world
    rw [next, next, ← hworld]
    exact ⟨hconfig, hafter, htick⟩
  have hunload : s.next.bridge.guest.unload.value.erase = t.next.bridge.guest.unload.value := by
    rw [erase_unload, hnext.bridge.guest]
  cases hs : (s.bridge.share s.world).value.1.2 with
  | error err =>
    rw [step_of_fault hs, step_of_fault (hshared.symm.trans hs)]
    exact hunload ▸ .ended
  | ok sharing =>
    rw [step_of_shared hs, step_of_shared (hshared.symm.trans hs), ← hconfig, ← hbridge.tickCount]
    split
    · exact hunload ▸ .ended
    · exact .running hnext

theorem erases_advance {state : SessionStep (Traced μ) κ U V} {state' : SessionStep μ κ U V}
    (h : Erases state state') (limit : Nat) :
    Erases (advance limit state).value (advance limit state').value := by
  induction limit generalizing state state' with
  | zero => exact h
  | succ limit ih =>
    cases h with
    | ended => exact .ended
    | running hwatches => exact ih hwatches.step

theorem erases_run (read : SettingsReader) (loader : ModuleLoader) (path : String)
    (content : Except ReadFault ByteArray) (q : ModuleProcess (Traced μ)) (limit : Nat) :
    Erases (run loader path content q limit read : Logged (SessionStep (Traced μ) κ U V)).value
      (run loader path content q.erase limit read).value := by
  have hboot : Erases
      (boot loader path content q read : Logged (SessionStep (Traced μ) κ U V)).value
      (boot loader path content q.erase read).value :=
    erases_boot read loader path content q
  rw [run, run, Logged.value_bind, Logged.value_bind]
  generalize (boot loader path content q read : Logged (SessionStep (Traced μ) κ U V)).value = state
    at hboot ⊢
  generalize (boot loader path content q.erase read : Logged (SessionStep μ κ U V)).value = state'
    at hboot ⊢
  cases hboot with
  | ended => exact .ended
  | @running s t hwatches =>
    -- one configuration, so as many rounds
    simp only [← hwatches.config]
    exact erases_advance (.running hwatches) _

/-! ## Whole runs -/

variable (κ U V) in
/-- The calls of a whole run and how it ends. The conditions of the cases exclude each other. -/
inductive Lifecycle (read : SettingsReader) (loader : ModuleLoader) (path : String)
    (content : Except ReadFault ByteArray) (p : ModuleProcess μ) :
    List EntryCall → Except HostError Unit → Prop
  | unread {err : HostError} (hconfig : read path content = .error err) :
    Lifecycle read loader path content p [] (.error err)
  | unspawned {config : HostConfig} {err : SceneError} {w : World κ}
      (hconfig : read path content = .ok config)
      (hscene : (config.scene.spawnInto World.empty).value = (.error err, w)) :
    Lifecycle read loader path content p [] (.error (.scene err))
  /-- The module cannot be opened, lacks an entry point, or could not be told its base path. -/
  | unprepared {config : HostConfig} {named : NamedEntities} {w : World κ} {err : BridgeError}
      (hconfig : read path content = .ok config)
      (hscene : (config.scene.spawnInto World.empty).value = (.ok named, w))
      (hprepared : Prepared loader config.bridge.library config.bridge.basePath
        config.bridge.symbols (.error err)) :
    Lifecycle read loader path content p [] (.error (.bridge err))
  | no_context {config : HostConfig} {named : NamedEntities} {w : World κ} {found : SymbolNames}
      (hconfig : read path content = .ok config)
      (hscene : (config.scene.spawnInto World.empty).value = (.ok named, w))
      (hprepared : Prepared loader config.bridge.library config.bridge.basePath
        config.bridge.symbols (.ok found))
      (hcontext : hasContext found p = false) :
    Lifecycle read loader path content p [.construct, .load]
      (.error (.bridge (.transportFault ("'" ++ config.bridge.library ++
        "' returned no context from " ++ config.bridge.symbols.load))))
  /-- One registration for each id that the world declares, which are those of the description as
  long as the world has room for it all, then the rounds, and then the unload. -/
  | served {config : HostConfig} {named : NamedEntities} {w : World κ} {found : SymbolNames}
      {ids : List Int32} {rounds : List EntryCall} {outcome : Except HostError Unit}
      (hconfig : read path content = .ok config)
      (hscene : (config.scene.spawnInto World.empty).value = (.ok named, w))
      (hprepared : Prepared loader config.bridge.library config.bridge.basePath
        config.bridge.symbols (.ok found))
      (hcontext : hasContext found p = true)
      (hascending : ids.Pairwise fun id id' => id < id')
      (hdeclared : ∀ id, id ∈ ids ↔ ∃ f ∈ w.declared, f.familyId = id)
      (hdescribed : w.HasRoom →
        ∀ id, id ∈ ids ↔ ∃ family ∈ config.scene.families, family.familyId = id)
      (hrounds : Bridge.Rounds config.run.ticks
        (config.started w (initialised found config.bridge.library config.bridge.basePath
          p.watched) : Bridge (ModuleGuest (Traced μ)) κ U V) w rounds outcome) :
    Lifecycle read loader path content p
      ([.construct, .load, .init] ++ ids.map .register ++ rounds ++ [.unload]) outcome

variable {calls : List EntryCall} {outcome : Except HostError Unit}

theorem Lifecycle.count_tick (h : Lifecycle κ U V read loader path content p calls outcome)
    (hconfig : read path content = .ok config) (hticks : 0 < config.run.ticks) :
    outcome = .ok () ↔ calls.count .tick = config.run.ticks := by
  have hregister : ∀ ids : List Int32, (ids.map EntryCall.register).count .tick = 0 := by
    intro ids
    refine List.count_eq_zero.mpr fun hmem => ?_
    obtain ⟨id, -, hid⟩ := List.mem_map.mp hmem
    simp at hid
  cases h with
  | unread hunread => simp [hconfig] at hunread
  | unspawned _ _ => simpa using Nat.ne_of_lt hticks
  | unprepared _ _ _ => simpa using Nat.ne_of_lt hticks
  | no_context _ _ _ _ => simpa using Nat.ne_of_lt hticks
  | @served config' _ _ _ ids rounds _ hconfig' _ _ _ _ _ _ hrounds =>
    obtain rfl : config' = config := Except.ok.inj (hconfig'.symm.trans hconfig)
    have hcount : ([.construct, .load, .init] ++ ids.map .register ++ rounds ++
        [.unload] : List EntryCall).count .tick = rounds.count .tick := by
      simp [List.count_append, hregister]
    rw [hcount]
    rcases hrounds.count_tick with ⟨hok, hall⟩ | ⟨err, herr, hfewer⟩
    · exact iff_of_true hok hall
    · exact iff_of_false (by simp [herr]) (Nat.ne_of_lt hfewer)

theorem advance_started {w : World κ} (hw : w.Sound) (guest : ModuleGuest (Traced μ))
    (hticks : 0 < config.run.ticks) :
    ∃ rounds result,
      (advance config.run.ticks (.running { config, world := w, bridge := config.started w guest } :
        SessionStep (Traced μ) κ U V)).value = .ended result ∧
      Bridge.Rounds config.run.ticks (config.started w guest : Bridge _ κ U V) w rounds
        result.outcome ∧
      result.process.module.calls =
        guest.calls ++ (Bridge.familyIds w).map .register ++ rounds ++ [.unload] := by
  obtain ⟨n, hn⟩ := Nat.exists_eq_succ_of_ne_zero (Nat.ne_of_gt hticks)
  let s : Session (Traced μ) κ U V := { config, world := w, bridge := config.started w guest }
  have hbegin : s.config.run.ticks = s.bridge.tickCount + (n + 1) := by
    rw [HostConfig.tickCount_started, hn, Nat.zero_add]
  obtain ⟨result, hrun, rounds, hrounds, hcalls⟩ :=
    advance_endsAfter (config.sound_started hw guest : s.bridge.Sound s.world) hbegin
  have hstart : s.bridge.guest.calls = guest.calls ++ (Bridge.familyIds w).map .register :=
    Bridge.calls_start _ _ rfl
  rw [hn]
  refine ⟨rounds, result, hrun, hrounds, ?_⟩
  rw [hcalls, hstart]
  simp

theorem run_watched (read : SettingsReader) (loader : ModuleLoader) (path : String)
    (content : Except ReadFault ByteArray) (p : ModuleProcess μ) (limit : Nat)
    (hticks : ∀ config, read path content = .ok config → 0 < config.run.ticks) :
    ∃ result : SessionEnd (Traced μ),
      (run loader path content p.watched limit read :
        Logged (SessionStep (Traced μ) κ U V)).value = .ended result ∧
      Lifecycle κ U V read loader path content p result.process.module.calls result.outcome := by
  rw [run, Logged.value_bind]
  cases hconfig : read path content with
  | error err =>
    rw [boot_of_unread hconfig]
    exact ⟨_, rfl, .unread hconfig⟩
  | ok config =>
    rcases hscene : (config.scene.spawnInto (World.empty : World κ)).value with ⟨err | named, w⟩
    · rw [boot_of_unspawned hconfig hscene]
      exact ⟨_, rfl, .unspawned hconfig hscene⟩
    · have hprepared := prepared loader config.bridge.library config.bridge.basePath
        config.bridge.symbols
      cases hprepare : prepare loader config.bridge.library config.bridge.basePath
        config.bridge.symbols with
      | error err =>
        rw [hprepare] at hprepared
        rw [boot_of_unloaded hconfig hscene (load_of_unprepared hprepare p.watched)]
        exact ⟨_, rfl, .unprepared hconfig hscene hprepared⟩
      | ok found =>
        rw [hprepare] at hprepared
        have hload := load_of_prepared hprepare p.watched
        cases hcontext : hasContext found p with
        | false =>
          rw [hasContext_watched, hcontext, if_neg Bool.false_ne_true] at hload
          rw [boot_of_unloaded hconfig hscene hload]
          exact ⟨_, rfl, .no_context hconfig hscene hprepared hcontext⟩
        | true =>
          rw [hasContext_watched, hcontext, if_pos rfl] at hload
          rw [boot_of_loaded hconfig hscene hload]
          have hpositive := hticks config hconfig
          have hspawn := config.scene.via_spawnInto (World.empty : World κ)
          rw [hscene] at hspawn
          have hsound := hspawn.sound World.sound_empty
          obtain ⟨rounds, result, hrun, hrounds, hcalls⟩ := advance_started hsound
            (initialised found config.bridge.library config.bridge.basePath p.watched) hpositive
          refine ⟨result, ?_, ?_⟩
          · -- the limit is for hosts that are to run for ever
            change (advance (if config.run.ticks = 0 then limit else config.run.ticks) _).value = _
            rw [if_neg (Nat.ne_of_gt hpositive)]
            exact hrun
          · rw [hcalls, calls_initialised]
            refine .served hconfig hscene hprepared hcontext
              (TemplateRegistry.ascending_families _)
              (fun id => TemplateRegistry.mem_families_collect) (fun hroom id => ?_) hrounds
            obtain ⟨_, _, hspawned⟩ :=
              SceneDescription.exists_spawned World.sound_empty hscene hroom
            exact TemplateRegistry.mem_families_collect.trans
              (hspawned.declared_id_iff fun e => World.get_empty e _)

/-- However settings are read, whatever they and the scene are and however the module answers and
fails: watching it changes nothing, and shows the calls of a `Lifecycle`. -/
theorem lifecycle (read : SettingsReader) (loader : ModuleLoader) (path : String)
    (content : Except ReadFault ByteArray) (p : ModuleProcess μ) (limit : Nat)
    (hticks : ∀ config, read path content = .ok config → 0 < config.run.ticks) :
    ∃ (outcome : Except HostError Unit) (q : ModuleProcess (Traced μ)),
      (run loader path content p limit read : Logged (SessionStep μ κ U V)).value =
        .ended { outcome, process := q.erase } ∧
      (run loader path content p.watched limit read : Logged (SessionStep (Traced μ) κ U V)).value =
        .ended { outcome, process := q } ∧
      Lifecycle κ U V read loader path content p q.module.calls outcome ∧
      ∀ config, read path content = .ok config →
        (outcome = .ok () ↔ q.module.calls.count .tick = config.run.ticks) := by
  obtain ⟨⟨outcome, q⟩, hrun, hlifecycle⟩ : ∃ result : SessionEnd (Traced μ),
      (run loader path content p.watched limit read : Logged (SessionStep (Traced μ) κ U V)).value =
        .ended result ∧
      Lifecycle κ U V read loader path content p result.process.module.calls result.outcome :=
    run_watched read loader path content p limit hticks
  have hplain : Erases (.ended { outcome, process := q } : SessionStep (Traced μ) κ U V)
      (run loader path content p limit read).value :=
    hrun ▸ erases_run read loader path content p.watched limit
  exact ⟨outcome, q, hplain.eq_ended, hrun, hlifecycle, fun config hconfig =>
    hlifecycle.count_tick hconfig (hticks config hconfig)⟩

/-! ## A lamp -/

/-- One tick, a lamp to share, and two families. -/
def lampSettings : String :=
  "run.ticks=1\nbridge.library='./libguest.so'\n" ++
    "scene.entities=[\x7bname='lamp',mirror=true\x7d]\n" ++
    "scene.families=[\x7bfamily_id=9,templates=[]\x7d,\x7bfamily_id=-2,templates=[]\x7d]"

def lampRun : Logged (SessionStep (Traced (ScriptedGuest Empty Empty)) Empty Empty Empty) :=
  let process : ModuleProcess (ScriptedGuest Empty Empty) := { module := {} }
  run ScriptedGuest.loader "mirror.toml" (.ok lampSettings.toUTF8) process.watched 0

def calls? : SessionStep (Traced μ) κ U V → Option (List EntryCall × Bool)
  | .ended result => some (result.process.module.calls, result.outcome.isOk)
  | .running _ => none

theorem lamp_lifecycle :
    (∀ config, HostConfig.ofFile "mirror.toml" (.ok lampSettings.toUTF8) = .ok config →
        0 < config.run.ticks) ∧
      ∃ (outcome : Except HostError Unit) (q : ModuleProcess (Traced (ScriptedGuest Empty Empty))),
        (run ScriptedGuest.loader "mirror.toml" (.ok lampSettings.toUTF8) { module := {} } 0 :
          Logged (SessionStep (ScriptedGuest Empty Empty) Empty Empty Empty)).value =
            .ended { outcome, process := q.erase } ∧
        q.module.calls = [.construct, .load, .init, .register (-2), .register 9,
          .spawn ⟨0, 0⟩ ⟨0⟩, .tick, .unload] ∧
        outcome.isOk = true := by
  have hticks : ∀ config, HostConfig.ofFile "mirror.toml" (.ok lampSettings.toUTF8) = .ok config →
      0 < config.run.ticks := by
    have hone : (HostConfig.ofToml lampSettings).toOption.map (fun config => config.run.ticks) =
        some 1 := by decide +kernel
    intro config hconfig
    rw [← HostConfig.ofFile_toUTF8 "mirror.toml", hconfig] at hone
    rw [show config.run.ticks = 1 from Option.some.inj hone]
    exact Nat.one_pos
  have hrun : calls? lampRun.value = some ([.construct, .load, .init, .register (-2), .register 9,
      .spawn ⟨0, 0⟩ ⟨0⟩, .tick, .unload], true) := by decide +kernel
  obtain ⟨outcome, q, hplain, hwatched, -, -⟩ := lifecycle (κ := Empty) (U := Empty) (V := Empty)
    HostConfig.ofFile ScriptedGuest.loader "mirror.toml" (.ok lampSettings.toUTF8)
    ({ module := {} } : ModuleProcess (ScriptedGuest Empty Empty)) 0 hticks
  have hended : lampRun.value = .ended { outcome, process := q } := hwatched
  rw [hended] at hrun
  obtain ⟨hcalls, hok⟩ := Prod.mk.inj (Option.some.inj hrun)
  exact ⟨hticks, outcome, q, hplain, hcalls, hok⟩

end Session

end SceneBridge
