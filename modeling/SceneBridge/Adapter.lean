import SceneBridge.Wire.Codec
import SceneBridge.World

/-!
# Adapters for project components

A project describes its own component sets and registers adapters that turn the components of an
entity into members of such a set. Adapters run in order of registration; of two that yield the same
kind the later one counts. A set at work keeps one buffer for all entities, which changes nothing in
what it answers: `Intake.ingest` fills the buffers with `Ingestion.records`.
-/

namespace SceneBridge

open Wire

variable {κ : Type} [ProjectKind κ]

structure Adapter (κ U : Type) [ProjectKind κ] where
  applies : World κ → Entity → Bool
  yield : World κ → Entity → Option U

/-- The adapters of one component set, in order of registration. -/
structure AdapterSet (κ U : Type) [ProjectKind κ] where
  adapters : List (Adapter κ U) := []

namespace AdapterSet

variable {U : Type}

def empty : AdapterSet κ U := {}

def register (s : AdapterSet κ U) (adapter : Adapter κ U) : AdapterSet κ U :=
  ⟨s.adapters ++ [adapter]⟩

def registerKind (s : AdapterSet κ U) (k : Kind κ) (yield : k.Value → U) : AdapterSet κ U :=
  s.register
    { applies := fun w e => w.has e k
      yield := fun w e => (w.get e k).map yield }

def size (s : AdapterSet κ U) : Nat := s.adapters.length

variable [ComponentSet U]

def snapshot (s : AdapterSet κ U) (w : World κ) (e : Entity) : Snapshot U :=
  s.adapters.foldl
    (fun snapshot adapter =>
      if adapter.applies w e then
        match adapter.yield w e with
        | some c => snapshot.insert c
        | none => snapshot
      else snapshot)
    .empty

def records (s : AdapterSet κ U) (w : World κ) (e : Entity) : List (Raw U) :=
  encode (s.snapshot w e)

end AdapterSet

/-- An adapter set at work: one encoder, whose buffer every entity fills anew. -/
structure Ingester (κ U : Type) [ProjectKind κ] [ComponentSet U] where
  adapters : AdapterSet κ U
  encoder : Encoder U := {}

namespace Ingester

variable {U : Type} [ComponentSet U]

def ingest (i : Ingester κ U) (w : World κ) (e : Entity) : Ingester κ U :=
  { i with encoder := (i.encoder.encode (i.adapters.snapshot w e)).2 }

def view (i : Ingester κ U) : List (Raw U) := i.encoder.buffer

end Ingester

/-- The adapter sets that run for every request: one for components, one for initial state. -/
structure Ingestion (κ U V : Type) [ProjectKind κ] where
  custom : Option (AdapterSet κ U) := none
  customState : Option (AdapterSet κ V) := none

namespace Ingestion

variable {U V : Type} [ComponentSet U] [ComponentSet V]

/-- The records of both sets; a missing set gives no view at all. -/
def records (i : Ingestion κ U V) (w : World κ) (e : Entity) :
    Option (List (Raw U)) × Option (List (Raw V)) :=
  (i.custom.map fun s => s.records w e, i.customState.map fun s => s.records w e)

end Ingestion

/-- Both adapter sets at work, each with a buffer of its own. -/
structure Intake (κ U V : Type) [ProjectKind κ] [ComponentSet U] [ComponentSet V] where
  custom : Option (Ingester κ U)
  customState : Option (Ingester κ V)

def Ingestion.start {U V : Type} [ComponentSet U] [ComponentSet V] (i : Ingestion κ U V) :
    Intake κ U V where
  custom := i.custom.map fun adapters => { adapters }
  customState := i.customState.map fun adapters => { adapters }

namespace Intake

variable {U V : Type} [ComponentSet U] [ComponentSet V]

def ingest (i : Intake κ U V) (w : World κ) (e : Entity) : Intake κ U V where
  custom := i.custom.map fun s => s.ingest w e
  customState := i.customState.map fun s => s.ingest w e

def views (i : Intake κ U V) : Option (List (Raw U)) × Option (List (Raw V)) :=
  (i.custom.map Ingester.view, i.customState.map Ingester.view)

end Intake

end SceneBridge
