import SceneBridge.Proofs.World.Changes
import SceneBridge.SceneDescription

/-!
# The stages of a spawn

A description is spawned by changes, whether it is accepted or not (`via_spawnInto`); one that is
accepted has gone through all its stages (`spawnInto_eq_ok`).
-/

namespace SceneBridge.SceneDescription

open World (Via)

variable {κ : Type} [ProjectKind κ] {w w' : World κ} {named : NamedEntities}

theorem resolve_eq_ok_iff {name : String} {e : Entity} :
    resolve named name = .ok e ↔ named.lookup name = some e := by
  unfold resolve
  cases named.lookup name with
  | none => simp
  | some other => simp

theorem link_cases {d : EntityDescription} (h : link w named d = .ok w') :
    d.parent = none ∧ w' = w ∨
      ∃ name parent e, d.parent = some name ∧ named.lookup name = some parent ∧
        named.lookup d.name = some e ∧ w.insert e .parent parent = .ok w' := by
  unfold link at h
  cases hparent : d.parent with
  | none =>
    rw [hparent] at h
    exact .inl ⟨rfl, (Except.ok.inj h).symm⟩
  | some name =>
    simp only [hparent] at h
    cases hp : resolve named name with
    | error err =>
      rw [hp] at h
      simp [bind, Except.bind] at h
    | ok parent =>
      cases he : resolve named d.name with
      | error err =>
        rw [hp, he] at h
        simp [bind, Except.bind] at h
      | ok e =>
        rw [hp, he] at h
        exact .inr ⟨name, parent, e, rfl, resolve_eq_ok_iff.mp hp, resolve_eq_ok_iff.mp he, h⟩

theorem via_declare (w : World κ) (named : NamedEntities) (ds : List EntityDescription) :
    w.Via (declare w named ds).2 := by
  induction ds generalizing w named with
  | nil => exact .refl w
  | cons d ds ih =>
    rw [declare]
    split
    · exact .refl w
    · exact (w.via_spawnWith _).trans (ih _ _)

theorem via_linkAll (w : World κ) (named : NamedEntities) (ds : List EntityDescription) :
    w.Via (linkAll w named ds).2 := by
  induction ds generalizing w with
  | nil => exact .refl w
  | cons d ds ih =>
    rw [linkAll]
    split
    · next w' hlink =>
      rcases link_cases hlink with ⟨-, rfl⟩ | ⟨_, _, _, -, -, -, hinsert⟩
      · exact ih _
      · exact (World.via_insert hinsert).trans (ih _)
    · exact .refl w

theorem via_holdFamilies (w : World κ) (named : NamedEntities) (fs : List FamilyDescription) :
    w.Via (holdFamilies w named fs).2 := by
  induction fs generalizing w with
  | nil => exact .refl w
  | cons f fs ih =>
    rw [holdFamilies]
    split
    · exact (w.via_spawnWith _).trans (ih _)
    · exact .refl w

theorem via_spawnInto (d : SceneDescription) (w : World κ) :
    w.Via (d.spawnInto w).value.2 := by
  have hdeclare := via_declare w [] d.entities
  unfold spawnInto
  split
  · next err w₁ heq =>
    rw [heq] at hdeclare
    exact hdeclare
  · next named w₁ heq =>
    rw [heq] at hdeclare
    have hlinks := via_linkAll w₁ named d.entities
    split
    · next err w₂ heq =>
      rw [heq] at hlinks
      exact hdeclare.trans hlinks
    · next w₂ heq =>
      rw [heq] at hlinks
      have hhold := via_holdFamilies w₂ named d.families
      split
      · next err w₃ heq =>
        rw [heq] at hhold
        exact (hdeclare.trans hlinks).trans hhold
      · next w₃ heq =>
        rw [heq] at hhold
        exact (hdeclare.trans hlinks).trans hhold

theorem spawnInto_eq_ok {d : SceneDescription} (h : (d.spawnInto w).value = (.ok named, w')) :
    ∃ w₁ w₂, declare w [] d.entities = (.ok named, w₁) ∧
      linkAll w₁ named d.entities = (.ok (), w₂) ∧
      holdFamilies w₂ named d.families = (.ok (), w') := by
  unfold spawnInto at h
  rcases hdeclare : declare w [] d.entities with ⟨_ | names, w₁⟩
  · simp [hdeclare] at h
  · simp only [hdeclare] at h
    rcases hlinks : linkAll w₁ names d.entities with ⟨_ | _, w₂⟩
    · simp [hlinks] at h
    · simp only [hlinks] at h
      rcases hhold : holdFamilies w₂ names d.families with ⟨_ | _, w₃⟩
      · simp [hhold] at h
      · simp only [hhold, Logged.value_bind, Logged.value_pure, Prod.mk.injEq,
          Except.ok.injEq] at h
        obtain ⟨rfl, rfl⟩ := h
        exact ⟨w₁, w₂, rfl, hlinks, hhold⟩

end SceneBridge.SceneDescription
