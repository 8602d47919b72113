import SceneBridge.Config.Bridge
import SceneBridge.Config.Scene

/-!
# Host settings

What a host needs to run: the settings of its bridge, how long and how fast to tick, and the scene
to begin with.
-/

namespace SceneBridge

open Toml Decoder

inductive HostError
  | unreadable (path : String) (fault : ReadFault)
  | malformed (text : String)
  | bridge (err : BridgeError)
  | scene (err : SceneError)

def HostError.message : HostError → String
  | unreadable path fault => "Failed to read '" ++ path ++ "': " ++ fault.message
  | malformed text => "Invalid host config: " ++ text
  | bridge err => err.message
  | scene err => err.message

structure RunConfig where
  /-- How many ticks to run; zero runs until something fails. -/
  ticks : Nat := 600
  /-- The pause between ticks, in milliseconds. -/
  tickIntervalMs : Nat := 16

structure HostConfig where
  bridge : BridgeConfig := {}
  run : RunConfig := {}
  scene : SceneDescription := {}

/-- Reads settings from the bytes of the file at a path, or says why there are none. -/
abbrev SettingsReader := String → Except ReadFault ByteArray → Except HostError HostConfig

def RunConfig.decoder : Decoder RunConfig := fun v => do
  let default : RunConfig := {}
  match ← fields ["ticks", "tick_interval_ms"] v with
  | [ticks, interval] =>
    let ticks ← optional default.ticks natural ticks
    let tickIntervalMs ← optional default.tickIntervalMs natural interval
    return { ticks, tickIntervalMs }
  | _ => throw "expected run settings"

namespace HostConfig

def decoder : Decoder HostConfig := fun v => do
  match ← fields ["bridge", "run", "scene"] v with
  | [bridge, run, scene] =>
    let bridge ← optional {} BridgeConfig.decoder bridge
    let run ← optional {} RunConfig.decoder run
    let scene ← optional {} SceneDescription.decoder scene
    return { bridge, run, scene }
  | _ => throw "expected host settings"

def ofToml (text : String) : Except HostError HostConfig :=
  match document decoder text with
  | .error fault => .error (.malformed fault)
  | .ok c =>
    match c.bridge.validate with
    | .error err => .error (.bridge err)
    | .ok () => .ok c

/-- The bytes are to be a text in UTF-8. -/
def ofFile : SettingsReader := fun path content =>
  match textOfFile content with
  | .error fault => .error (.unreadable path fault)
  | .ok text => ofToml text

end HostConfig

end SceneBridge
