import SceneBridge.BridgeError
import SceneBridge.Log
import SceneBridge.Wire.Inbuilt

/-!
# What the bridge and a guest say to each other

The bridge registers template families, asks for entities to be created and gives the guest its
turn. During its turn the guest issues callbacks, and log lines between them. A guest is a machine
over states `γ`, so every guest, however it answers, is a value of the class `Guest`.
-/

namespace SceneBridge

open Wire (RawRecord)

/-- A request to create an entity on the guest's side. The two views of project records are `none`
where the project has no such set, and empty where its set has nothing to say. -/
structure SpawnRequest (ρ σ : Type) where
  host : Entity
  components : List RawRecord
  custom : Option (List ρ)
  customState : Option (List σ)

structure Patch (η : Type) where
  handle : η
  records : List RawRecord
deriving DecidableEq

inductive Callback
  | create (items : List (Patch TemplateRef))
  | update (items : List (Patch GuestId))
  | destroy (ids : List GuestId)
deriving DecidableEq

inductive Emission
  | callback (batch : Callback)
  | line (text : LogLine)
deriving DecidableEq

structure GuestTurn (γ : Type) where
  emissions : List Emission
  outcome : Except BridgeError Unit
  guest : γ

/-- A guest simulation. `ρ` and `σ` are the project's raw records that it is sent. -/
class Guest (γ : Type) (ρ σ : outParam Type) where
  register : γ → Int32 → List Entity → Logged (Except BridgeError Unit × γ)
  /-- Answer a request with a new id, or with the reserved one to refuse it. -/
  spawn : γ → SpawnRequest ρ σ → Logged (GuestId × γ)
  turn : γ → GuestTurn γ

end SceneBridge
