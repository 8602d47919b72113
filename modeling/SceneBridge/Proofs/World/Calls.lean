import SceneBridge.Proofs.Playback
import SceneBridge.Proofs.SceneDescription

/-!
# Calls of a host

What a host may call on a world: a single change, the spawn of a description, a playback. All of
them come down to changes, one after the other (`World.via_foldl_call`).
-/

namespace SceneBridge

variable {κ : Type} [ProjectKind κ]

inductive Call (κ : Type) [ProjectKind κ]
  | change (x : Change κ)
  | spawnInto (d : SceneDescription)
  | play (b : CommandBuffer)

namespace World

/-- The world after a call. One that fails may leave part of its work. -/
def call (w : World κ) : Call κ → World κ
  | .change x => w.change x
  | .spawnInto d => (d.spawnInto w).value.2
  | .play b => (b.play w).value.1

theorem via_call (w : World κ) (c : Call κ) : w.Via (w.call c) := by
  cases c with
  | change x => exact .of_change rfl
  | spawnInto d => exact d.via_spawnInto w
  | play b => exact b.via_play w

theorem via_foldl_call (w : World κ) (calls : List (Call κ)) : w.Via (calls.foldl call w) :=
  via_foldl id via_call calls w

end World

end SceneBridge
