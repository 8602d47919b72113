import SceneBridge.World

/-!
# Deferred changes

Changes to the world are recorded while the world is in use elsewhere and applied together by
`CommandBuffer.play`: instances and matrices in the order of recording, despawns after all of them.
A change whose target is gone by then is skipped.
-/

namespace SceneBridge

/-- A recorded change that keeps its place in the order. -/
inductive Edit
  /-- Clone a template, with a local transform in place of its own if one is given. -/
  | instantiate (template : Entity) (transform : Option LocalTransform)
  | setWorldMatrix (entity : Entity) (matrix : Matrix)
deriving DecidableEq

inductive Command
  | edit (edit : Edit)
  | despawn (e : Entity)
deriving DecidableEq

/-- Recorded changes; despawns are kept apart since they run last. -/
structure CommandBuffer where
  edits : Array Edit := #[]
  despawns : Array Entity := #[]

structure PlaybackReport where
  instantiated : List Entity := []
  updated : Nat := 0
  despawned : Nat := 0
  /-- Changes whose target no longer existed. -/
  skipped : Nat := 0
deriving DecidableEq, Inhabited

namespace CommandBuffer

def empty : CommandBuffer := {}

instance : Inhabited CommandBuffer := ⟨empty⟩

def record (b : CommandBuffer) (edit : Edit) : CommandBuffer :=
  { b with edits := b.edits.push edit }

def recordDespawn (b : CommandBuffer) (e : Entity) : CommandBuffer :=
  { b with despawns := b.despawns.push e }

def size (b : CommandBuffer) : Nat := b.edits.size + b.despawns.size

def isEmpty (b : CommandBuffer) : Bool := b.edits.isEmpty && b.despawns.isEmpty

/-- Everything that was recorded, in the order in which it is played. -/
def commands (b : CommandBuffer) : List Command :=
  b.edits.toList.map .edit ++ b.despawns.toList.map .despawn

def logTarget : String := "void_scene::commands"

variable {κ : Type} [ProjectKind κ]

abbrev Progress (κ : Type) [ProjectKind κ] := World κ × PlaybackReport

/-- Give a new instance the transform that overrides its template's. -/
def override (w : World κ) (e : Entity) : Option LocalTransform → Logged (World κ)
  | none => pure w
  | some transform =>
    match w.insert e .localTransform transform with
    | .ok w => pure w
    | .error err => do
      Logged.write .warn logTarget
        s!"Instance {e.describe} kept its template transform: {err.message}"
      return w

def applyEdit : Progress κ → Edit → Logged (Progress κ)
  | (w, report), .instantiate template transform => do
    match ← w.instantiate template with
    | .error err =>
      Logged.write .warn logTarget s!"Skipping instantiate: {err.message}"
      return (w, { report with skipped := report.skipped + 1 })
    | .ok (e, w) =>
      let w ← override w e transform
      return (w, { report with instantiated := report.instantiated ++ [e] })
  | (w, report), .setWorldMatrix e matrix =>
    match w.insert e .localToWorld matrix with
    | .ok w => pure (w, { report with updated := report.updated + 1 })
    | .error _ => do
      Logged.write .debug logTarget s!"Skipping world matrix for dead {e.describe}"
      return (w, { report with skipped := report.skipped + 1 })

def applyDespawn : Progress κ → Entity → Logged (Progress κ)
  | (w, report), e =>
    match w.despawn? e with
    | some w => pure (w, { report with despawned := report.despawned + 1 })
    | none => do
      Logged.write .debug logTarget s!"Skipping despawn of dead {e.describe}"
      return (w, { report with skipped := report.skipped + 1 })

def play (b : CommandBuffer) (w : World κ) : Logged (Progress κ) := do
  let progress ← b.edits.toList.foldlM applyEdit (w, {})
  b.despawns.toList.foldlM applyDespawn progress

end CommandBuffer

end SceneBridge
