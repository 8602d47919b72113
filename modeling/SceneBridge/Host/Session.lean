import SceneBridge.Bridge
import SceneBridge.Host.Config

/-!
# Host sessions

A session boots a scene and a guest module from a configuration and then ticks. However it ends, the
guest is unloaded, and before the error that ended it is reported. `Session.run` plays a whole
session; a program that pauses between ticks takes the same steps one at a time.
-/

namespace SceneBridge

open Wire

structure Session (μ κ U V : Type) [ProjectKind κ] where
  config : HostConfig
  world : World κ
  bridge : Bridge (ModuleGuest μ) κ U V

structure SessionEnd (μ : Type) where
  outcome : Except HostError Unit
  process : ModuleProcess μ

inductive SessionStep (μ κ U V : Type) [ProjectKind κ]
  | running (session : Session μ κ U V)
  | ended (result : SessionEnd μ)

namespace Session

def logTarget : String := "mirror_host"

variable {μ κ U V : Type} [ProjectKind κ] [ComponentSet U] [ComponentSet V]
variable [GuestModule μ (Raw U) (Raw V)]

def fail (err : HostError) (process : ModuleProcess μ) : Logged (SessionEnd μ) := do
  Logged.write .error logTarget err.message
  return { outcome := .error err, process }

/-- Unload the guest, then report the error. -/
def abort (s : Session μ κ U V) (err : HostError) : Logged (SessionStep μ κ U V) := do
  let process ← s.bridge.guest.unload
  return .ended (← fail err process)

def boot (loader : ModuleLoader) (path : String) (content : Except ReadFault ByteArray)
    (process : ModuleProcess μ) (read : SettingsReader := HostConfig.ofFile) :
    Logged (SessionStep μ κ U V) := do
  match read path content with
  | .error err => return .ended (← fail err process)
  | .ok config =>
    Logged.write .info logTarget ("Loaded host config from " ++ path)
    match ← config.scene.spawnInto World.empty with
    | (.error err, _) => return .ended (← fail (.scene err) process)
    | (.ok named, world) =>
      let count := named.length
      Logged.write .info logTarget s!"Scene has {count} named entities"
      let c := config.bridge
      match ← ModuleGuest.load loader c.library c.basePath c.symbols process with
      | .error (err, process) => return .ended (← fail (.bridge err) process)
      | .ok guest =>
        let bridge : Bridge (ModuleGuest μ) κ U V :=
          .new guest c.warnResolutionPasses c.warnPendingAfterTicks
        match ← bridge.start world with
        | (.error err, bridge) => abort { config, world, bridge } (.bridge err)
        | (.ok (), bridge) => return .running { config, world, bridge }

/-- Name what a tick shared and created, if there was anything. -/
def reportTick (r : TickReport) : Logged Unit :=
  let spawned := r.outbound.spawned.length
  let created := r.inbound.created
  let pending := r.outbound.pending
  if spawned = 0 && created = 0 then pure ()
  else
    Logged.write .info logTarget
      s!"Tick {r.tick}: mirrored {spawned}, guest created {created}, {pending} pending"

def finish (s : Session μ κ U V) : Logged (SessionStep μ κ U V) := do
  let ticks := s.bridge.tickCount
  let shared := s.bridge.table.size
  Logged.write .info logTarget s!"Stopping after {ticks} ticks with {shared} mirrored entities"
  let process ← s.bridge.guest.unload
  return .ended { outcome := .ok (), process }

def step (s : Session μ κ U V) : Logged (SessionStep μ κ U V) := do
  match ← s.bridge.tick s.world with
  | (.error err, bridge, world) => abort { s with bridge, world } (.bridge err)
  | (.ok report, bridge, world) =>
    reportTick report
    let s := { s with bridge, world }
    if 0 < s.config.run.ticks && s.config.run.ticks ≤ report.tick then s.finish
    else return .running s

/-- Take up to `limit` steps. -/
def advance : Nat → SessionStep μ κ U V → Logged (SessionStep μ κ U V)
  | 0, state => pure state
  | _ + 1, .ended result => pure (.ended result)
  | limit + 1, .running s => do
    let state ← s.step
    advance limit state

/-- A whole session without its pauses. One that is set to run for ever is followed for at most
`limit` ticks. -/
def run (loader : ModuleLoader) (path : String) (content : Except ReadFault ByteArray)
    (process : ModuleProcess μ) (limit : Nat) (read : SettingsReader := HostConfig.ofFile) :
    Logged (SessionStep μ κ U V) := do
  match ← (boot loader path content process read : Logged (SessionStep μ κ U V)) with
  | .ended result => return .ended result
  | .running s =>
    let ticks := s.config.run.ticks
    advance (if ticks = 0 then limit else ticks) (.running s)

end Session

end SceneBridge
