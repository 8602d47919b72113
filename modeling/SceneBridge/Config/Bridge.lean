import SceneBridge.Guest.Module
import SceneBridge.Text.PathName
import SceneBridge.Toml.Decoder

/-!
# Bridge settings

Where the guest module lies, what it is told at the start, the names of its entry points, and when
to warn. Every setting has a default.
-/

namespace SceneBridge

open Toml Decoder

structure BridgeConfig where
  library : String := ""
  /-- Handed to the guest at the start as the place of its assets. -/
  basePath : String := "."
  symbols : SymbolNames := {}
  /-- More sweeps than this in one tick are reported. -/
  warnResolutionPasses : Nat := 64
  /-- Waits of this many ticks are reported; zero turns that off. -/
  warnPendingAfterTicks : Nat := 120

def SymbolNames.decoder : Decoder SymbolNames := fun v => do
  let default : SymbolNames := {}
  let names := ["construct", "load", "init", "register", "spawn", "tick", "unload"]
  match ← fields names v with
  | [construct, load, init, register, spawn, tick, unload] =>
    let construct ← optional default.construct string construct
    let load ← optional default.load string load
    let init ← optional default.init string init
    let register ← optional default.register string register
    let spawn ← optional default.spawn string spawn
    let tick ← optional default.tick string tick
    let unload ← optional default.unload string unload
    return { construct, load, init, register, spawn, tick, unload }
  | _ => throw "expected symbol names"

namespace BridgeConfig

/-- Decodes the settings; it does not judge them. -/
def decoder : Decoder BridgeConfig := fun v => do
  let default : BridgeConfig := {}
  let names :=
    ["library", "base_path", "symbols", "warn_resolution_passes", "warn_pending_after_ticks"]
  match ← fields names v with
  | [library, basePath, symbols, warnPasses, warnAfter] =>
    let library ← optional default.library string library
    let basePath ← optional default.basePath string basePath
    let symbols ← optional default.symbols SymbolNames.decoder symbols
    let warnResolutionPasses ← optional default.warnResolutionPasses natural warnPasses
    let warnPendingAfterTicks ← optional default.warnPendingAfterTicks natural warnAfter
    return { library, basePath, symbols, warnResolutionPasses, warnPendingAfterTicks }
  | _ => throw "expected bridge settings"

/-- At least one sweep has to be unremarkable. -/
def validate (c : BridgeConfig) : Except BridgeError Unit :=
  if c.warnResolutionPasses = 0 then
    .error (.invalidConfig (.rule "warn_resolution_passes must be at least 1"))
  else .ok ()

def ofToml (text : String) : Except BridgeError BridgeConfig :=
  match document decoder text with
  | .error fault => .error (.invalidConfig (.malformed fault))
  | .ok c =>
    match c.validate with
    | .error err => .error err
    | .ok () => .ok c

/-- Whether two settings mean the same; path names may differ in spelling. -/
def sameAs (a b : BridgeConfig) : Bool :=
  Text.samePath a.library b.library
    && Text.samePath a.basePath b.basePath
    && a.symbols == b.symbols
    && a.warnResolutionPasses == b.warnResolutionPasses
    && a.warnPendingAfterTicks == b.warnPendingAfterTicks

end BridgeConfig

def textOfFile (content : Except ReadFault ByteArray) : Except ReadFault String :=
  match content with
  | .error fault => .error fault
  | .ok bytes =>
    match String.fromUTF8? bytes with
    | some text => .ok text
    | none => .error .notText

def BridgeConfig.ofFile (content : Except ReadFault ByteArray) : Except BridgeError BridgeConfig :=
  match textOfFile content with
  | .error fault => .error (.unreadable fault)
  | .ok text => ofToml text

end SceneBridge
