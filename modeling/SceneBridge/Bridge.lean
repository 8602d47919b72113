import SceneBridge.Inbound
import SceneBridge.Outbound

/-!
# The bridge

A bridge owns what outlives a tick: the guest, the correspondence table, the entities that wait and
the template registry. A tick forgets entities that the host has despawned, shares what can be
shared, gives the guest its turn and then plays back what the guest asked for.
-/

namespace SceneBridge

open Wire

structure Bridge (γ κ U V : Type) [ProjectKind κ] where
  guest : γ
  table : Correspondence := .empty
  outbound : Outbound
  registry : TemplateRegistry := .empty
  ingestion : Ingestion κ U V := {}
  tickCount : Nat := 0

structure TickReport where
  tick : Nat
  /-- Pairs forgotten because the host had despawned the entity. -/
  released : Nat
  outbound : OutboundReport
  inbound : InboundReport
  playback : PlaybackReport
deriving DecidableEq

namespace Bridge

def logTarget : String := "void_mirror::bridge"

variable {γ κ U V : Type} [ProjectKind κ] [ComponentSet U] [ComponentSet V]

def new (guest : γ) (warnPasses warnAfter : Nat) (ingestion : Ingestion κ U V := {}) :
    Bridge γ κ U V :=
  { guest, outbound := .new warnPasses warnAfter, ingestion }

variable [Guest γ (Raw U) (Raw V)]

/-- Collect the world's template families and send them to the guest. Once that has succeeded,
later calls do nothing. -/
def start (b : Bridge γ κ U V) (w : World κ) :
    Logged (Except BridgeError Unit × Bridge γ κ U V) := do
  if b.registry.pushed then return (.ok (), b)
  let registry ← TemplateRegistry.collect w
  match ← registry.pushAll b.guest with
  | (.error err, registry, guest) => return (.error err, { b with registry, guest })
  | (.ok (), registry, guest) =>
    let count := registry.size
    Logged.write .info logTarget s!"Mirror bridge started with {count} template families"
    return (.ok (), { b with registry, guest })

def reportReleased : List (Entity × GuestId) → Logged Unit
  | [] => pure ()
  | (host, id) :: rest => do
    Logged.write .debug logTarget s!"Released {id} after host {host.describe} was despawned"
    reportReleased rest

/-- The first half of a tick: forget the pairs whose host is dead, then share what can be shared.
The answer counts the forgotten pairs. -/
def share (b : Bridge γ κ U V) (w : World κ) :
    Logged ((Nat × Except BridgeError OutboundReport) × Bridge γ κ U V) := do
  let tick := b.tickCount + 1
  let (released, table) := b.table.retainHosts w.isAlive
  reportReleased released
  let (shared, outbound, link) ←
    b.outbound.resolve w b.ingestion { table, guest := b.guest } tick
  return ((released.length, shared),
    { b with tickCount := tick, outbound, table := link.table, guest := link.guest })

/-- Give the guest its turn and play back what it asked for, even if it failed in the end: the pairs
it destroyed are forgotten by then. -/
def guestTurn (b : Bridge γ κ U V) (w : World κ) :
    Logged ((Except BridgeError Unit × InboundReport × PlaybackReport) ×
      Bridge γ κ U V × World κ) := do
  let turn := Guest.turn b.guest
  let inbound ← turn.emissions.foldlM (Inbound.take b.registry) { table := b.table }
  let (w, playback) ← inbound.commands.play w
  return ((turn.outcome, inbound.report, playback),
    { b with guest := turn.guest, table := inbound.table }, w)

/-- Run one tick. A fault while sharing ends it before the guest's turn. -/
def tick (b : Bridge γ κ U V) (w : World κ) :
    Logged (Except BridgeError TickReport × Bridge γ κ U V × World κ) := do
  let ((released, shared), b) ← b.share w
  match shared with
  | .error err => return (.error err, b, w)
  | .ok outbound =>
    let ((outcome, inbound, playback), b, w) ← b.guestTurn w
    match outcome with
    | .error err => return (.error err, b, w)
    | .ok () =>
      let tick := b.tickCount
      let spawned := outbound.spawned.length
      Logged.write .trace logTarget
        s!"Tick {tick}: spawned {spawned}, created {inbound.created}, updated {inbound.updated}, destroyed {inbound.destroyed}"
      return (.ok { tick, released, outbound, inbound, playback }, b, w)

end Bridge

end SceneBridge
