import SceneBridge.Guest.Protocol

/-!
# Guests in loadable modules

A guest module is opened by path and entered through seven named entry points. Its callbacks carry
no hint of whom they are for, so they land in one inbox. A turn drops what came in before it, and
hands on what comes in during it once the module's own tick has returned.
-/

namespace SceneBridge

open Wire (RawRecord)

/-- The names under which a module exports its entry points. -/
structure SymbolNames where
  construct : String := "create_game"
  load : String := "load"
  init : String := "init"
  register : String := "register_prefabs"
  spawn : String := "spawn"
  tick : String := "tick"
  unload : String := "unload"
deriving DecidableEq

namespace SymbolNames

/-- All names, in the order in which they are looked up. -/
def toList (s : SymbolNames) : List String :=
  [s.construct, s.load, s.init, s.register, s.spawn, s.tick, s.unload]

end SymbolNames

/-- An array in the module's memory: a null pointer with a length that means nothing, or items. -/
inductive ForeignArray (α : Type)
  | null (length : Nat)
  | items (elements : List α)

def ForeignArray.toList {α : Type} : ForeignArray α → List α
  | null _ => []
  | items elements => elements

structure ForeignPatch (η : Type) where
  handle : η
  records : ForeignArray RawRecord

inductive ForeignBatch
  | create (items : ForeignArray (ForeignPatch TemplateRef))
  | update (items : ForeignArray (ForeignPatch GuestId))
  | destroy (ids : ForeignArray GuestId)

namespace ForeignBatch

def readItems {η : Type} (items : ForeignArray (ForeignPatch η)) : List (Patch η) :=
  items.toList.map fun item => { handle := item.handle, records := item.records.toList }

/-- The copy that is made before the callback returns. -/
def callback : ForeignBatch → Callback
  | create items => .create (readItems items)
  | update items => .update (readItems items)
  | destroy ids => .destroy ids.toList

end ForeignBatch

inductive ModuleEmission
  | batch (b : ForeignBatch)
  | line (text : LogLine)

/-- The end of one call into a module: what it emitted, its answer, and its state. -/
structure ModuleCall (μ α : Type) where
  emissions : List ModuleEmission := []
  answer : α
  module : μ

namespace ModuleCall

variable {μ α : Type}

def batches (call : ModuleCall μ α) : List ForeignBatch :=
  call.emissions.filterMap fun
    | .batch b => some b
    | .line _ => none

def lines (call : ModuleCall μ α) : List LogLine :=
  call.emissions.filterMap fun
    | .batch _ => none
    | .line text => some text

end ModuleCall

/-- The entry points of a module with states `μ`. Each is told the name it was found under. -/
class GuestModule (μ : Type) (ρ σ : outParam Type) where
  construct : String → μ → ModuleCall μ Unit
  /-- Answers whether there is a context to go on with. -/
  load : String → μ → ModuleCall μ Bool
  init : String → String → μ → ModuleCall μ Unit
  register : String → Int32 → List SignedHandle → μ → ModuleCall μ Unit
  spawn : String → SignedHandle → List RawRecord → Option (List ρ) → Option (List σ) → μ →
    ModuleCall μ GuestId
  tick : String → μ → ModuleCall μ Unit
  unload : String → μ → ModuleCall μ Unit

/-- Opens a path: the names that the library there exports, or why it cannot be opened. -/
abbrev ModuleLoader := String → Except String (List String)

/-- A module's state and the callbacks waiting in the inbox. Both outlive any one guest. -/
structure ModuleProcess (μ : Type) where
  module : μ
  inbox : List Callback := []

namespace ModuleProcess

variable {μ α : Type}

/-- Finish a call: its lines are written and its callbacks wait in the inbox. -/
def absorb (p : ModuleProcess μ) (call : ModuleCall μ α) : Logged (α × ModuleProcess μ) :=
  { value := (call.answer,
      { module := call.module, inbox := p.inbox ++ call.batches.map ForeignBatch.callback })
    log := call.lines }

end ModuleProcess

structure ModuleGuest (μ : Type) extends ModuleProcess μ where
  symbols : SymbolNames
  path : String

namespace ModuleGuest

def logTarget : String := "void_mirror::library"

/-- The exported name behind a configured one. One NUL at the end is ignored; an empty name, or one
with a NUL inside, stands for nothing. -/
def exportedName? (exports : List String) (name : String) : Option String :=
  let cs := name.toList
  let cs := if cs.getLast? = some '\x00' then cs.dropLast else cs
  let stripped := String.ofList cs
  if cs.isEmpty || cs.contains '\x00' then none
  else if exports.contains stripped then some stripped
  else none

/-- Find all entry points, or name the first that is missing. -/
def findSymbols (exports : List String) (path : String) (s : SymbolNames) :
    Except BridgeError SymbolNames := do
  let find (name : String) : Except BridgeError String :=
    match exportedName? exports name with
    | some found => .ok found
    | none => .error (.symbolNotFound path name)
  let construct ← find s.construct
  let load ← find s.load
  let init ← find s.init
  let register ← find s.register
  let spawn ← find s.spawn
  let tick ← find s.tick
  let unload ← find s.unload
  return { construct, load, init, register, spawn, tick, unload }

/-- The place of the first NUL of a text, in bytes. -/
def nulPosition? (text : String) : Option Nat :=
  let before := text.toList.takeWhile (· ≠ '\x00')
  if before.length = text.length then none
  else some (before.foldl (fun bytes c => bytes + c.utf8Size) 0)

/-- What can be checked before any entry point is called. -/
def prepare (loader : ModuleLoader) (path basePath : String) (symbols : SymbolNames) :
    Except BridgeError SymbolNames := do
  let exports ←
    match loader path with
    | .ok exports => pure exports
    | .error text => throw (.loadFailed path text)
  let found ← findSymbols exports path symbols
  match nulPosition? basePath with
  | some position =>
    throw (.invalidConfig
      (.rule s!"base_path: nul byte found in provided data at position: {position}"))
  | none => return found

variable {μ ρ σ : Type} [GuestModule μ ρ σ]

/-- Open, construct and initialise a module. A failure leaves the process as it is by then. -/
def load (loader : ModuleLoader) (path basePath : String) (symbols : SymbolNames)
    (p : ModuleProcess μ) : Logged (Except (BridgeError × ModuleProcess μ) (ModuleGuest μ)) :=
  match prepare loader path basePath symbols with
  | .error err => pure (.error (err, p))
  | .ok found => do
    let ((), p) ← p.absorb (GuestModule.construct found.construct p.module)
    let (hasContext, p) ← p.absorb (GuestModule.load found.load p.module)
    if !hasContext then
      let text := "'" ++ path ++ "' returned no context from " ++ symbols.load
      return .error (.transportFault text, p)
    let ((), p) ← p.absorb (GuestModule.init found.init basePath p.module)
    Logged.write .info logTarget ("Loaded guest module '" ++ path ++ "'")
    return .ok { p with symbols := found, path }

def unload (g : ModuleGuest μ) : Logged (ModuleProcess μ) := do
  let ((), p) ← g.absorb (GuestModule.unload g.symbols.unload g.module)
  Logged.write .info logTarget ("Unloaded guest module '" ++ g.path ++ "'")
  return p

/-- A turn: report and drop what came in before it, run the module's tick, and hand on what came in
by then. The tick's log lines are written before any of that is taken in. -/
def turn (g : ModuleGuest μ) : GuestTurn (ModuleGuest μ) :=
  let strays := g.inbox.length
  let warning : List Emission :=
    if strays = 0 then []
    else
      [.line
        { level := .warn
          target := logTarget
          text := s!"Discarding {strays} callback batches the guest sent outside tick" }]
  let emptied : ModuleProcess μ := { module := g.module }
  let called := emptied.absorb (GuestModule.tick g.symbols.tick g.module)
  let process := called.value.2
  { emissions := warning ++ called.log.map .line ++ process.inbox.map .callback
    outcome := .ok ()
    guest := { g with module := process.module, inbox := [] } }

instance : Guest (ModuleGuest μ) ρ σ where
  register g familyId templates := do
    let handles := templates.map Entity.toSigned
    let ((), p) ← g.absorb
      (GuestModule.register g.symbols.register familyId handles g.module)
    return (.ok (), { g with toModuleProcess := p })
  spawn g request := do
    let (id, p) ← g.absorb
      (GuestModule.spawn g.symbols.spawn request.host.toSigned request.components
        request.custom request.customState g.module)
    return (id, { g with toModuleProcess := p })
  turn := turn

end ModuleGuest

end SceneBridge
