import SceneBridge.Adapter
import SceneBridge.Correspondence
import SceneBridge.Guest.Protocol

/-!
# Sharing entities with the guest

Entities that ask to be shared and are not yet are requested from the guest, parents before
children. A child whose parent has no guest id waits, if need be over many ticks. Within a step the
queue is swept again and again, so that a parent accepted in one sweep frees its children in the
next, until a sweep accepts nothing.
-/

namespace SceneBridge

open Wire

variable {κ : Type} [ProjectKind κ]

/-- An entity that waits for its parent to be shared. -/
structure Waiting where
  entity : Entity
  /-- The tick in which it was first put off. -/
  since : Nat
  warned : Bool := false
deriving DecidableEq

structure OutboundReport where
  spawned : List (Entity × GuestId) := []
  passes : Nat := 0
  pending : Nat := 0
deriving DecidableEq, Inhabited

namespace Outbound

def logTarget : String := "void_mirror::outbound"

/-- Alive, asking to be shared, no template, and not shared yet. -/
def isCandidate (w : World κ) (table : Correspondence) (e : Entity) : Bool :=
  w.isAlive e && w.has e .shareRequest && !w.has e .prefab && !table.containsHost e

/-- The components the guest is sent with an entity, or the parent it has to wait for. -/
def snapshot (w : World κ) (table : Correspondence) (e : Entity) :
    Except Entity (Snapshot InbuiltComponent) := do
  let s : Snapshot InbuiltComponent ←
    match w.get e .parent with
    | none => pure Snapshot.empty
    | some parent =>
      match table.guest? parent with
      | some id => pure (Snapshot.empty.insert (.parent id))
      | none => throw parent
  let s := s.insert (.entity e.toSigned)
  let s :=
    match w.get e .guid with
    | some guid => s.insert (.guid guid.hash)
    | none => s
  let transform := (w.get e .localTransform).getD LocalTransform.identity
  return s.insert (.transform transform.toMatrix)

/-- What a step changes outside of its queue. -/
structure Link (γ : Type) where
  table : Correspondence
  guest : γ

inductive Attempt
  | accepted (id : GuestId)
  | deferred (parent : Entity)
  | failed (err : BridgeError)

variable {U V γ : Type} [ComponentSet U] [ComponentSet V] [Guest γ (Raw U) (Raw V)]

/-- The request for an entity, or the parent it has to wait for. -/
def request (w : World κ) (ingestion : Ingestion κ U V) (table : Correspondence) (e : Entity) :
    Except Entity (SpawnRequest (Raw U) (Raw V)) := do
  let components ← snapshot w table e
  let (custom, customState) := ingestion.records w e
  return { host := e, components := encode components, custom, customState }

/-- What the requests are encoded into: a buffer for the components and one for each adapter set. -/
structure Buffers (κ U V : Type) [ProjectKind κ] [ComponentSet U] [ComponentSet V] where
  encoder : Encoder InbuiltComponent := {}
  intake : Intake κ U V

/-- Make a request in the buffers. One that has to wait leaves them as they are. -/
def Buffers.request (b : Buffers κ U V) (w : World κ) (table : Correspondence) (e : Entity) :
    Except Entity (SpawnRequest (Raw U) (Raw V) × Buffers κ U V) := do
  let (components, encoder) := b.encoder.encode (← snapshot w table e)
  let intake := b.intake.ingest w e
  let (custom, customState) := intake.views
  return ({ host := e, components, custom, customState }, { encoder, intake })

def attempt (w : World κ) (ingestion : Ingestion κ U V) (link : Link γ) (e : Entity) :
    Logged (Attempt × Link γ) :=
  match request w ingestion link.table e with
  | .error parent => pure (.deferred parent, link)
  | .ok request => do
    let (id, guest) ← Guest.spawn link.guest request
    let link := { link with guest }
    if !id.isValid then
      return (.failed (.transportFault s!"guest refused to spawn {e.describe}"), link)
    match link.table.insert e id with
    | .error err => return (.failed err, link)
    | .ok table =>
      Logged.write .trace logTarget s!"Mirrored {e.describe} as {id}"
      return (.accepted id, { link with table })

/-- What a run over a queue leaves: the new pairs, who waits, and the fault that ended it, if one
did. After a fault those put off and those not reached wait; the one that failed does not. -/
structure Swept (γ : Type) where
  link : Link γ
  spawned : List (Entity × GuestId) := []
  waiting : List Waiting := []
  fault : Option BridgeError := none

def sweep (w : World κ) (ingestion : Ingestion κ U V) (link : Link γ) :
    List Waiting → Logged (Swept γ)
  | [] => pure { link }
  | p :: rest => do
    match ← attempt w ingestion link p.entity with
    | (.accepted id, link) =>
      let swept ← sweep w ingestion link rest
      return { swept with spawned := (p.entity, id) :: swept.spawned }
    | (.deferred parent, link) =>
      Logged.write .debug logTarget
        s!"Deferring {p.entity.describe}: parent {parent.describe} is not mirrored yet"
      let swept ← sweep w ingestion link rest
      return { swept with waiting := p :: swept.waiting }
    | (.failed err, link) => return { link, waiting := rest, fault := some err }

/-- Sweep until nothing waits, a sweep accepts nothing, or a request fails; the answer counts the
sweeps. A sweep that accepts something leaves a shorter queue, so as many sweeps as the queue has
entries are enough. -/
def settle (w : World κ) (ingestion : Ingestion κ U V) :
    Nat → Link γ → List Waiting → Logged (Nat × Swept γ)
  | 0, link, queue => pure (0, { link, waiting := queue })
  | _ + 1, link, [] => pure (0, { link })
  | fuel + 1, link, p :: queue => do
    let first ← sweep w ingestion link (p :: queue)
    if first.fault.isSome || first.spawned.isEmpty then
      return (1, first)
    let (passes, rest) ← settle w ingestion fuel first.link first.waiting
    return (passes + 1, { rest with spawned := first.spawned ++ rest.spawned })

def retainCandidates (w : World κ) (table : Correspondence) : List Waiting → Logged (List Waiting)
  | [] => pure []
  | p :: rest =>
    if isCandidate w table p.entity then do
      return p :: (← retainCandidates w table rest)
    else do
      Logged.write .debug logTarget
        s!"Dropping pending {p.entity.describe}: no longer a mirror candidate"
      retainCandidates w table rest

/-- Candidates that are not in the queue yet, in slot order. -/
def newCandidates (w : World κ) (table : Correspondence) (queue : List Waiting) (tick : Nat) :
    List Waiting :=
  (w.query .shareRequest).filterMap fun e =>
    if !(queue.any fun p => p.entity == e) && isCandidate w table e then
      some { entity := e, since := tick }
    else none

/-- Report each wait of at least `limit` ticks once; a limit of zero reports none. -/
def reportWaits (limit tick : Nat) : List Waiting → Logged (List Waiting)
  | [] => pure []
  | p :: rest => do
    let age := tick - p.since
    if !p.warned && 0 < limit && limit ≤ age then
      Logged.write .warn logTarget
        s!"{p.entity.describe} has waited {age} ticks for its parent to be mirrored"
      return { p with warned := true } :: (← reportWaits limit tick rest)
    return p :: (← reportWaits limit tick rest)

end Outbound

/-- The part of the bridge that shares entities: who waits, and when to warn. -/
structure Outbound where
  pending : List Waiting := []
  /-- More sweeps than this in one step are reported. -/
  warnPasses : Nat
  /-- Waits of this many ticks are reported; zero turns that off. -/
  warnAfter : Nat

namespace Outbound

/-- Nothing waits. At least one sweep is always unremarkable. -/
def new (warnPasses warnAfter : Nat) : Outbound := { warnPasses := max warnPasses 1, warnAfter }

def isPending (o : Outbound) (e : Entity) : Bool := o.pending.any fun p => p.entity == e

variable {U V γ : Type} [ComponentSet U] [ComponentSet V] [Guest γ (Raw U) (Raw V)]

def queue (o : Outbound) (w : World κ) (table : Correspondence) (tick : Nat) :
    Logged (List Waiting) := do
  let kept ← retainCandidates w table o.pending
  return kept ++ newCandidates w table kept tick

/-- Run one step. After a fault those put off and those not reached stay pending; the entity that
failed is found again by the next step. -/
def resolve (o : Outbound) (w : World κ) (ingestion : Ingestion κ U V) (link : Link γ)
    (tick : Nat) : Logged (Except BridgeError OutboundReport × Outbound × Link γ) := do
  let queue ← o.queue w link.table tick
  let (passes, swept) ← settle w ingestion queue.length link queue
  match swept.fault with
  | some err => return (.error err, { o with pending := swept.waiting }, swept.link)
  | none =>
    if o.warnPasses < passes then
      let spawns := swept.spawned.length
      Logged.write .warn logTarget
        s!"Resolution took {passes} passes (threshold {o.warnPasses}) for {spawns} spawns"
    let pending ← reportWaits o.warnAfter tick swept.waiting
    return (.ok { spawned := swept.spawned, passes, pending := pending.length },
      { o with pending }, swept.link)

end Outbound

end SceneBridge
