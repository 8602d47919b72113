import SceneBridge.CommandBuffer
import SceneBridge.Correspondence
import SceneBridge.TemplateRegistry

/-!
# Taking in what a guest asks for

The callbacks of a guest's turn become recorded changes. Nothing touches the world here; only the
correspondence table changes at once, so that an id destroyed earlier in a turn is unknown later in
it.
-/

namespace SceneBridge

open Wire

structure InboundReport where
  created : Nat := 0
  updated : Nat := 0
  destroyed : Nat := 0
  /-- Updates and destroys of ids without a partner. -/
  stale : Nat := 0
  /-- Records that decoding dropped. -/
  rejectedRecords : Nat := 0
  /-- Creates of templates that the registry does not hold. -/
  unknownTemplates : Nat := 0
deriving DecidableEq, Inhabited

structure Inbound where
  table : Correspondence
  commands : CommandBuffer := .empty
  report : InboundReport := {}

namespace Inbound

def logTarget : String := "void_mirror::inbound"

def reportDropped : List (Nat × CodecError) → Logged Unit
  | [] => pure ()
  | (index, err) :: rest => do
    Logged.write .warn logTarget s!"Dropping inbound record {index}: {err.message}"
    reportDropped rest

/-- The snapshot of an item; records that decoding dropped are counted and named. -/
def decodeItem (s : Inbound) (records : List RawRecord) :
    Logged (Snapshot InbuiltComponent × Inbound) := do
  let decoded := decode (U := InbuiltComponent) records
  reportDropped decoded.errors
  let rejected := s.report.rejectedRecords + decoded.errors.length
  return (decoded.snapshot, { s with report := { s.report with rejectedRecords := rejected } })

/-- The matrix among some components; every other kind is passed over, and named. -/
def pickMatrix (purpose : String) : List InbuiltComponent → Logged (Option Matrix)
  | [] => pure none
  | .transform matrix :: rest => do
    return (← pickMatrix purpose rest).or (some matrix)
  | other :: rest => do
    Logged.write .debug logTarget s!"Ignoring kind {other.tag} on {purpose}"
    pickMatrix purpose rest

def createItem (registry : TemplateRegistry) (s : Inbound) (item : Patch TemplateRef) :
    Logged Inbound :=
  match registry.resolve item.handle with
  | none => do
    let err := BridgeError.unknownTemplate item.handle
    Logged.write .warn logTarget s!"Skipping create: {err.message}"
    let unknown := s.report.unknownTemplates + 1
    return { s with report := { s.report with unknownTemplates := unknown } }
  | some template => do
    let (snapshot, s) ← s.decodeItem item.records
    let matrix ← pickMatrix "create" snapshot.components
    return { s with
      commands := s.commands.record (.instantiate template (matrix.map LocalTransform.ofMatrix))
      report := { s.report with created := s.report.created + 1 } }

def countStale (s : Inbound) (purpose : String) (id : GuestId) : Logged Inbound := do
  let err := BridgeError.staleGuestReference id
  Logged.write .warn logTarget s!"Skipping {purpose}: {err.message}"
  return { s with report := { s.report with stale := s.report.stale + 1 } }

def updateItem (s : Inbound) (item : Patch GuestId) : Logged Inbound :=
  match s.table.host? item.handle with
  | none => s.countStale "update" item.handle
  | some host => do
    let (snapshot, s) ← s.decodeItem item.records
    let matrix ← pickMatrix "update" snapshot.components
    let commands :=
      match matrix with
      | some m => s.commands.record (.setWorldMatrix host m)
      | none => s.commands
    return { s with
      commands
      report := { s.report with updated := s.report.updated + 1 } }

def destroyItem (s : Inbound) (id : GuestId) : Logged Inbound :=
  match s.table.removeGuest id with
  | (none, _) => s.countStale "destroy" id
  | (some host, table) =>
    pure
      { table
        commands := s.commands.recordDespawn host
        report := { s.report with destroyed := s.report.destroyed + 1 } }

def apply (registry : TemplateRegistry) (s : Inbound) : Callback → Logged Inbound
  | .create items => items.foldlM (createItem registry) s
  | .update items => items.foldlM updateItem s
  | .destroy ids => ids.foldlM destroyItem s

def take (registry : TemplateRegistry) (s : Inbound) : Emission → Logged Inbound
  | .callback batch => s.apply registry batch
  | .line text => { value := s, log := [text] }

end Inbound

end SceneBridge
