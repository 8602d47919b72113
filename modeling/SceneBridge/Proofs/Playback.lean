import Mathlib.Logic.Relation
import SceneBridge.Proofs.World.Changes

/-!
# Playback laws

What the recorded changes of a buffer leave alone. Instances and matrices keep every live entity
alive and touch no component but its two transforms; despawns touch their own targets only.
`HostEdit` lists the changes a host may make between two ticks, playbacks of its own included, and
`World.Reachable` is what they lead to.
-/

namespace SceneBridge

variable {κ : Type} [ProjectKind κ]

namespace World

/-- Whatever is alive stays alive and keeps its components, its two transforms apart. -/
def KeepsMarks (w w' : World κ) : Prop :=
  ∀ e, w.isAlive e = true → w'.isAlive e = true ∧
    ∀ k, k ≠ .localTransform → k ≠ .localToWorld → w'.get e k = w.get e k

theorem KeepsMarks.refl (w : World κ) : w.KeepsMarks w := fun _ he => ⟨he, fun _ _ _ => rfl⟩

theorem KeepsMarks.trans {w w' w'' : World κ} (h : w.KeepsMarks w') (h' : w'.KeepsMarks w'') :
    w.KeepsMarks w'' := by
  intro e he
  obtain ⟨he', hget⟩ := h e he
  obtain ⟨he'', hget'⟩ := h' e he'
  exact ⟨he'', fun k hl hw => (hget' k hl hw).trans (hget k hl hw)⟩

theorem Extends.keepsMarks {w w' : World κ} (h : w.Extends w') : w.KeepsMarks w' :=
  fun _ he => ⟨h.isAlive he, fun k _ _ => h.get he k⟩

theorem keepsMarks_insert {w w' : World κ} {e : Entity} {k : Kind κ} {v : k.Value}
    (h : w.insert e k v = .ok w') (hk : k = .localTransform ∨ k = .localToWorld) :
    w.KeepsMarks w' := by
  intro f hf
  refine ⟨(isAlive_insert h f).trans hf, fun k' hl hw => ?_⟩
  refine get_insert_of_ne h (.inr ?_)
  rcases hk with rfl | rfl
  · exact hl
  · exact hw

end World

namespace CommandBuffer

/-! ## Single changes -/

theorem value_applyEdit_instantiate (w : World κ) (report : PlaybackReport) (template : Entity)
    (transform : Option LocalTransform) :
    (applyEdit (w, report) (.instantiate template transform)).value =
      match (w.instantiate template).value with
      | .error _ => (w, { report with skipped := report.skipped + 1 })
      | .ok (e, w') =>
        ((override w' e transform).value,
          { report with instantiated := report.instantiated ++ [e] }) := by
  simp only [applyEdit, Logged.value_bind]
  cases (w.instantiate template).value with
  | error err => rfl
  | ok made => rfl

theorem value_applyEdit_setWorldMatrix (w : World κ) (report : PlaybackReport) (e : Entity)
    (matrix : Matrix) :
    (applyEdit (w, report) (.setWorldMatrix e matrix)).value =
      match w.insert e .localToWorld matrix with
      | .ok w' => (w', { report with updated := report.updated + 1 })
      | .error _ => (w, { report with skipped := report.skipped + 1 }) := by
  simp only [applyEdit]
  cases w.insert e .localToWorld matrix with
  | ok w' => rfl
  | error err => rfl

theorem value_applyDespawn (w : World κ) (report : PlaybackReport) (e : Entity) :
    (applyDespawn (w, report) e).value =
      match w.despawn? e with
      | some w' => (w', { report with despawned := report.despawned + 1 })
      | none => (w, { report with skipped := report.skipped + 1 }) := by
  simp only [applyDespawn]
  cases w.despawn? e with
  | some w' => rfl
  | none => rfl

theorem override_cases (w : World κ) (e : Entity) (transform : Option LocalTransform) :
    (override w e transform).value = w ∨
      ∃ t, w.insert e .localTransform t = .ok (override w e transform).value := by
  cases transform with
  | none => exact .inl rfl
  | some t =>
    simp only [override]
    split
    · next w' h => exact .inr ⟨t, h⟩
    · exact .inl rfl

theorem keepsMarks_override (w : World κ) (e : Entity) (transform : Option LocalTransform) :
    w.KeepsMarks (override w e transform).value := by
  rcases override_cases w e transform with h | ⟨t, h⟩
  · rw [h]
    exact .refl w
  · exact World.keepsMarks_insert h (.inl rfl)

theorem via_applyEdit (p : Progress κ) (edit : Edit) : p.1.Via (applyEdit p edit).value.1 := by
  obtain ⟨w, report⟩ := p
  cases edit with
  | instantiate template transform =>
    rw [value_applyEdit_instantiate]
    split
    · exact .refl w
    · next e w' h =>
      have hmade := World.via_instantiate h
      rcases override_cases w' e transform with heq | ⟨t, hinsert⟩
      · rwa [heq]
      · exact hmade.trans (World.via_insert hinsert)
  | setWorldMatrix e matrix =>
    rw [value_applyEdit_setWorldMatrix]
    split
    · next w' h => exact World.via_insert h
    · exact .refl w

theorem via_applyDespawn (p : Progress κ) (d : Entity) :
    p.1.Via (applyDespawn p d).value.1 := by
  obtain ⟨w, report⟩ := p
  rw [value_applyDespawn]
  split
  · next w' h => exact World.via_despawn h
  · exact .refl w

theorem keepsMarks_applyEdit {p : Progress κ} (hp : p.1.Sound) (edit : Edit) :
    p.1.KeepsMarks (applyEdit p edit).value.1 := by
  obtain ⟨w, report⟩ := p
  cases edit with
  | instantiate template transform =>
    rw [value_applyEdit_instantiate]
    split
    · exact .refl w
    · next e w' h =>
      have hext := (World.extends_instantiate hp h).keepsMarks
      exact hext.trans (keepsMarks_override w' e transform)
  | setWorldMatrix e matrix =>
    rw [value_applyEdit_setWorldMatrix]
    split
    · next w' h => exact World.keepsMarks_insert h (.inr rfl)
    · exact .refl w

theorem arena_applyDespawn (p : Progress κ) {d e : Entity} (hne : e ≠ d) {bundle : Bundle κ}
    (hb : p.1.arena.get? e = some bundle) :
    (applyDespawn p d).value.1.arena.get? e = some bundle := by
  obtain ⟨w, report⟩ := p
  rw [value_applyDespawn]
  split
  · next w' h => exact World.arena_despawn h hne hb
  · exact hb

/-! ## Whole buffers -/

theorem keepsMarks_foldl_applyEdit (edits : List Edit) {p : Progress κ} (hp : p.1.Sound) :
    p.1.KeepsMarks (edits.foldl (fun p edit => (applyEdit p edit).value) p).1 := by
  induction edits generalizing p with
  | nil => exact .refl p.1
  | cons edit edits ih =>
    exact (keepsMarks_applyEdit hp edit).trans (ih ((via_applyEdit p edit).sound hp))

theorem arena_foldl_applyDespawn (targets : List Entity) {p : Progress κ} {e : Entity}
    (he : e ∉ targets) {bundle : Bundle κ} (hb : p.1.arena.get? e = some bundle) :
    (targets.foldl (fun p d => (applyDespawn p d).value) p).1.arena.get? e = some bundle := by
  induction targets generalizing p with
  | nil => exact hb
  | cons d targets ih =>
    rw [List.mem_cons, not_or] at he
    exact ih he.2 (arena_applyDespawn p he.1 hb)

theorem value_play (b : CommandBuffer) (w : World κ) :
    (b.play w).value =
      b.despawns.toList.foldl (fun p d => (applyDespawn p d).value)
        (b.edits.toList.foldl (fun p edit => (applyEdit p edit).value) (w, {})) := by
  rw [play, Logged.value_bind, Logged.value_foldlM, Logged.value_foldlM]

theorem via_play (b : CommandBuffer) (w : World κ) : w.Via (b.play w).value.1 := by
  rw [value_play]
  exact (World.via_foldl Prod.fst via_applyEdit b.edits.toList (w, {})).trans
    (World.via_foldl Prod.fst via_applyDespawn b.despawns.toList _)

theorem play_keeps (b : CommandBuffer) {w : World κ} (hw : w.Sound) {e : Entity}
    (he : w.isAlive e = true) (hd : e ∉ b.despawns.toList) :
    (b.play w).value.1.isAlive e = true ∧
      ∀ k, k ≠ .localTransform → k ≠ .localToWorld → (b.play w).value.1.get e k = w.get e k := by
  rw [value_play]
  obtain ⟨he', hget⟩ := keepsMarks_foldl_applyEdit (p := (w, {})) b.edits.toList hw e he
  obtain ⟨bundle, hb⟩ := World.isAlive_iff.mp he'
  have hlast := arena_foldl_applyDespawn b.despawns.toList hd hb
  refine ⟨World.isAlive_iff.mpr ⟨bundle, hlast⟩, fun k hl hm => ?_⟩
  rw [World.get_of_arena hlast, ← hget k hl hm, World.get_of_arena hb]

end CommandBuffer

/-! ## What a host may do -/

inductive HostEdit : World κ → World κ → Prop
  | spawn (w : World κ) (components : List (Component κ)) :
    HostEdit w (w.spawnWith components).2
  | despawn {w w' : World κ} {e : Entity} (h : w.despawn? e = some w') : HostEdit w w'
  | insert {w w' : World κ} {e : Entity} {k : Kind κ} {v : k.Value}
      (h : w.insert e k v = .ok w') : HostEdit w w'
  | overwrite {w w' : World κ} {e : Entity} {k : Kind κ} {v : k.Value}
      (h : w.overwrite? e k v = some w') : HostEdit w w'
  | remove (w : World κ) (e : Entity) (k : Kind κ) : HostEdit w (w.remove e k).2
  | instantiate {w w' : World κ} {template e : Entity}
      (h : (w.instantiate template).value = .ok (e, w')) : HostEdit w w'
  | play (b : CommandBuffer) (w : World κ) : HostEdit w (b.play w).value.1

theorem HostEdit.via {w w' : World κ} (h : HostEdit w w') : w.Via w' := by
  cases h with
  | spawn _ components => exact w.via_spawnWith components
  | despawn h => exact World.via_despawn h
  | insert h => exact World.via_insert h
  | overwrite h => exact World.via_insert (World.overwrite?_eq_some_iff.mp h).2
  | remove _ e k => exact .of_change (x := .remove e k) rfl
  | instantiate h => exact World.via_instantiate h
  | play b => exact b.via_play w

namespace World

/-- The worlds that a host can make out of an empty one. -/
def Reachable (w : World κ) : Prop := Relation.ReflTransGen HostEdit empty w

theorem Reachable.sound {w : World κ} (h : w.Reachable) : w.Sound := by
  induction h with
  | refl => exact sound_empty
  | tail _ hedit ih => exact hedit.via.sound ih

theorem Reachable.spawnAll {w : World κ} (h : w.Reachable)
    (scene : List (List (Component κ))) :
    (scene.foldl (fun w components => (w.spawnWith components).2) w).Reachable := by
  induction scene generalizing w with
  | nil => exact h
  | cons components scene ih => exact ih (h.tail (.spawn w components))

end World

end SceneBridge
