import SceneBridge.Guest.Script
import SceneBridge.Host.Session
import SceneBridge.Log.Filter

/-!
# The host program

Runs a session from the configuration file that the first argument names, writing log lines to
standard error as the `RUST_LOG` variable asks. Guest modules are linked into the program: it knows
the scripted one, with an empty script.
-/

open SceneBridge

def readContent (path : String) : IO (Except ReadFault ByteArray) := do
  try
    return .ok (← IO.FS.readBinFile path)
  catch err =>
    match err with
    | .noFileOrDirectory .. => return .error .notFound
    | .inappropriateType .. => return .error .isDirectory
    | err => return .error (.other (toString err))

def writeLines (filter : LineFilter) (lines : List LogLine) : IO Unit :=
  for line in lines do
    if filter.shows line then
      for text in line.render do
        IO.eprintln text

abbrev HostStep := SessionStep (ScriptedGuest Empty Empty) Empty Empty Empty

/-- Tick, pausing in between, until the session ends. -/
partial def follow (filter : LineFilter) : HostStep → IO UInt32
  | .ended result =>
    match result.outcome with
    | .ok () => return 0
    | .error _ => return 1
  | .running session => do
    let next := session.step
    writeLines filter next.log
    match next.value with
    | .running _ => IO.sleep (UInt32.ofNat (min session.config.run.tickIntervalMs 0xffffffff))
    | .ended _ => pure ()
    follow filter next.value

def main (args : List String) : IO UInt32 := do
  let reading := FilterReading.ofString ((← IO.getEnv "RUST_LOG").getD "info")
  for warning in reading.warnings do
    IO.eprintln warning
  let filter := reading.filter
  let path := args.headD "mirror.toml"
  let content ← readContent path
  let booted : Logged HostStep :=
    Session.boot ScriptedGuest.loader path content { module := {} }
  writeLines filter booted.log
  follow filter booted.value
