import SceneBridge.Proofs.Playback

/-!
# The effect of a playback

An edit makes an instance, writes a matrix or is skipped; `World.outcome` says which, and
`World.edited_cases` what else changes, namely nothing. From that follow the effect of whole lists
of edits on the entities that were there before (`World.get_editAll`, `World.matrix_editAll`), the
list of new ones, and the report of a playback.
-/

namespace SceneBridge

variable {κ : Type} [ProjectKind κ]

/-! ## Single edits -/

/-- What becomes of an edit. -/
inductive EditOutcome
  | made (e : Entity)
  | written
  | skipped
deriving DecidableEq

def EditOutcome.made? : EditOutcome → Option Entity
  | made e => some e
  | written => none
  | skipped => none

def Edit.matrixFor (e : Entity) : Edit → Option Matrix
  | .setWorldMatrix target matrix => if target = e then some matrix else none
  | .instantiate _ _ => none

def Edit.isWrite : Edit → Bool
  | .setWorldMatrix _ _ => true
  | .instantiate _ _ => false

@[simp] theorem EditOutcome.made?_made (e : Entity) : (made e).made? = some e := rfl

@[simp] theorem EditOutcome.made?_written : written.made? = none := rfl

@[simp] theorem EditOutcome.made?_skipped : skipped.made? = none := rfl

@[simp] theorem Edit.isWrite_setWorldMatrix (e : Entity) (matrix : Matrix) :
    (setWorldMatrix e matrix).isWrite = true :=
  rfl

@[simp] theorem Edit.isWrite_instantiate (template : Entity) (transform : Option LocalTransform) :
    (instantiate template transform).isWrite = false :=
  rfl

def PlaybackReport.tally (r : PlaybackReport) : EditOutcome → PlaybackReport
  | .made e => { r with instantiated := r.instantiated ++ [e] }
  | .written => { r with updated := r.updated + 1 }
  | .skipped => { r with skipped := r.skipped + 1 }

namespace World

def outcome (w : World κ) : Edit → EditOutcome
  | .instantiate template _ =>
    match (w.instantiate template).value with
    | .ok (e, _) => .made e
    | .error _ => .skipped
  | .setWorldMatrix e _ => if w.isAlive e then .written else .skipped

def edited (w : World κ) (edit : Edit) : World κ := (CommandBuffer.applyEdit (w, {}) edit).value.1

theorem outcome_setWorldMatrix {w : World κ} {e : Entity} (h : w.isAlive e = true)
    (matrix : Matrix) : w.outcome (.setWorldMatrix e matrix) = .written := by
  rw [outcome, if_pos h]

/-- An edit is skipped for want of its template or its target. -/
theorem outcome_eq_skipped_iff {w : World κ} {edit : Edit} :
    w.outcome edit = .skipped ↔
      (∃ template transform, edit = .instantiate template transform ∧
        w.isAlive template = false) ∨
      ∃ e matrix, edit = .setWorldMatrix e matrix ∧ w.isAlive e = false := by
  cases edit with
  | instantiate template transform =>
    cases halive : w.isAlive template with
    | true =>
      obtain ⟨e, w', h⟩ := instantiate_of_alive halive
      simp [outcome, h, halive]
    | false => simp [outcome, instantiate_of_dead halive, halive]
  | setWorldMatrix e matrix => simp [outcome]

theorem value_applyEdit (w : World κ) (report : PlaybackReport) (edit : Edit) :
    (CommandBuffer.applyEdit (w, report) edit).value =
      (w.edited edit, report.tally (w.outcome edit)) := by
  cases edit with
  | instantiate template transform =>
    simp only [edited, outcome, CommandBuffer.value_applyEdit_instantiate]
    cases (w.instantiate template).value with
    | error err => rfl
    | ok made => rfl
  | setWorldMatrix e matrix =>
    simp only [edited, outcome, CommandBuffer.value_applyEdit_setWorldMatrix]
    cases halive : w.isAlive e with
    | true =>
      obtain ⟨w', h⟩ := insert_of_alive halive .localToWorld matrix
      rw [h]
      rfl
    | false =>
      rw [insert_dead halive]
      rfl

theorem via_edited (w : World κ) (edit : Edit) : w.Via (w.edited edit) :=
  CommandBuffer.via_applyEdit (w, {}) edit

theorem sound_edited {w : World κ} (hw : w.Sound) (edit : Edit) : (w.edited edit).Sound :=
  (w.via_edited edit).sound hw

theorem isAlive_edited {w : World κ} (hw : w.Sound) (edit : Edit) {e : Entity}
    (he : w.isAlive e = true) : (w.edited edit).isAlive e = true :=
  (CommandBuffer.keepsMarks_applyEdit (p := (w, {})) hw edit e he).1

theorem HasRoom.of_edited {w : World κ} {edit : Edit} (h : (w.edited edit).HasRoom) :
    w.HasRoom :=
  h.of_via (w.via_edited edit)

theorem edited_instantiate {w : World κ} (hw : w.Sound) {template : Entity}
    {transform : Option LocalTransform} (halive : w.isAlive template = true)
    (hroom : (w.edited (.instantiate template transform)).HasRoom) :
    ∃ i bundle, bundle.get? .prefab = none ∧
      w.outcome (.instantiate template transform) = .made i ∧ w.isAlive i = false ∧
      ∀ f, (w.edited (.instantiate template transform)).arena.get? f =
        if f = i then some bundle else w.arena.get? f := by
  obtain ⟨i, w', h⟩ := instantiate_of_alive halive
  obtain ⟨bundle, -, hdead, hview⟩ := arena_instantiate hw hroom.of_edited h
  have hedited : w.edited (.instantiate template transform) =
      (CommandBuffer.override w' i transform).value := by
    rw [edited, CommandBuffer.value_applyEdit_instantiate, h]
  have hmade : w.outcome (.instantiate template transform) = .made i := by
    rw [outcome, h]
  -- the override writes to the new instance, so nobody else sees it
  rcases CommandBuffer.override_cases w' i transform with heq | ⟨t, ht⟩
  · refine ⟨i, bundle.erase .prefab, by simp [Bundle.get?_erase], hmade, hdead, ?_⟩
    rw [hedited, heq]
    exact hview
  · obtain ⟨bundle', hb', hview'⟩ := arena_insert ht
    have hcopy : some bundle' = some (bundle.erase .prefab) := by
      rw [← hb', hview, if_pos rfl]
    have hprefab : (bundle'.set .localTransform t).get? .prefab = none := by
      rw [Bundle.get?_set_of_ne bundle' t (by simp), Option.some.inj hcopy, Bundle.get?_erase,
        if_pos rfl]
    refine ⟨i, bundle'.set .localTransform t, hprefab, hmade, hdead, fun f => ?_⟩
    rw [hedited, hview' f]
    by_cases hf : f = i
    · rw [if_pos hf, if_pos hf]
    · rw [if_neg hf, if_neg hf, hview f, if_neg hf]

theorem edited_setWorldMatrix {w : World κ} {e : Entity} (halive : w.isAlive e = true)
    (matrix : Matrix) :
    ∃ bundle, w.arena.get? e = some bundle ∧
      ∀ f, (w.edited (.setWorldMatrix e matrix)).arena.get? f =
        if f = e then some (bundle.set .localToWorld matrix) else w.arena.get? f := by
  obtain ⟨w', h⟩ := insert_of_alive halive .localToWorld matrix
  obtain ⟨bundle, hb, hview⟩ := arena_insert h
  refine ⟨bundle, hb, ?_⟩
  rw [edited, CommandBuffer.value_applyEdit_setWorldMatrix, h]
  exact hview

theorem edited_cases {w : World κ} (hw : w.Sound) {edit : Edit}
    (hroom : (w.edited edit).HasRoom) :
    (∃ i bundle template transform, edit = .instantiate template transform ∧
      w.outcome edit = .made i ∧ w.isAlive i = false ∧
      ∀ f, (w.edited edit).arena.get? f = if f = i then some bundle else w.arena.get? f) ∨
    (∃ e matrix bundle, edit = .setWorldMatrix e matrix ∧ w.outcome edit = .written ∧
      w.arena.get? e = some bundle ∧
      ∀ f, (w.edited edit).arena.get? f =
        if f = e then some (bundle.set .localToWorld matrix) else w.arena.get? f) ∨
    (w.outcome edit = .skipped ∧ w.edited edit = w) := by
  cases edit with
  | instantiate template transform =>
    cases halive : w.isAlive template with
    | false =>
      refine .inr (.inr ⟨?_, ?_⟩)
      · rw [outcome, instantiate_of_dead halive]
      · rw [edited, CommandBuffer.value_applyEdit_instantiate, instantiate_of_dead halive]
    | true =>
      obtain ⟨i, bundle, -, h⟩ := edited_instantiate hw halive hroom
      exact .inl ⟨i, bundle, template, transform, rfl, h⟩
  | setWorldMatrix e matrix =>
    cases halive : w.isAlive e with
    | false =>
      refine .inr (.inr ⟨?_, ?_⟩)
      · rw [outcome, halive]
        rfl
      · rw [edited, CommandBuffer.value_applyEdit_setWorldMatrix, insert_dead halive]
    | true =>
      obtain ⟨bundle, h⟩ := edited_setWorldMatrix halive matrix
      exact .inr (.inl ⟨e, matrix, bundle, rfl, outcome_setWorldMatrix halive matrix, h⟩)

theorem get_edited {w : World κ} (hw : w.Sound) {edit : Edit} (hroom : (w.edited edit).HasRoom)
    {e : Entity} (he : w.isAlive e = true) {k : Kind κ} (hk : k ≠ .localToWorld) :
    (w.edited edit).get e k = w.get e k := by
  rcases edited_cases hw hroom with
    ⟨i, bundle, -, -, -, -, hdead, hview⟩ | ⟨t, matrix, bundle, -, -, hb, hview⟩ | ⟨-, hsame⟩
  · have hne : e ≠ i := by
      rintro rfl
      rw [he] at hdead
      simp at hdead
    rw [get, get, hview, if_neg hne]
  · rw [get, hview]
    by_cases heq : e = t
    · subst heq
      rw [if_pos rfl, get_of_arena hb]
      exact Bundle.get?_set_of_ne bundle matrix hk
    · rw [if_neg heq, get]
  · rw [hsame]

theorem matrix_edited {w : World κ} (hw : w.Sound) {edit : Edit}
    (hroom : (w.edited edit).HasRoom) {e : Entity} (he : w.isAlive e = true) :
    (w.edited edit).get e .localToWorld =
      (edit.matrixFor e).or (w.get e .localToWorld) := by
  rcases edited_cases hw hroom with
    ⟨i, bundle, template, transform, rfl, -, hdead, hview⟩ |
      ⟨t, matrix, bundle, rfl, -, hb, hview⟩ | ⟨hskip, hsame⟩
  · have hne : e ≠ i := by
      rintro rfl
      rw [he] at hdead
      simp at hdead
    rw [get, hview, if_neg hne]
    rfl
  · rw [get, hview]
    by_cases heq : e = t
    · subst heq
      simp [Edit.matrixFor]
    · have hne : t ≠ e := fun h => heq h.symm
      simp [Edit.matrixFor, heq, hne, get]
  · rw [hsame]
    rcases outcome_eq_skipped_iff.mp hskip with ⟨template, transform, rfl, -⟩ |
      ⟨t, matrix, rfl, hdead⟩
    · rfl
    · have hne : t ≠ e := by
        rintro rfl
        rw [he] at hdead
        simp at hdead
      simp [Edit.matrixFor, hne]

theorem isAlive_edited_iff {w : World κ} (hw : w.Sound) {edit : Edit}
    (hroom : (w.edited edit).HasRoom) {f : Entity} :
    (w.edited edit).isAlive f = true ↔ w.isAlive f = true ∨ w.outcome edit = .made f := by
  simp only [isAlive_iff]
  rcases edited_cases hw hroom with
    ⟨i, bundle, -, -, -, hmade, hdead, hview⟩ | ⟨t, matrix, bundle, -, hwritten, hb, hview⟩ |
      ⟨hskip, hsame⟩
  · rw [hmade, hview]
    by_cases hf : f = i
    · simp [hf]
    · have hf' : i ≠ f := fun h => hf h.symm
      simp [hf, hf']
  · rw [hwritten, hview]
    by_cases hf : f = t
    · simp [hf, hb]
    · simp [hf]
  · rw [hskip, hsame]
    simp

theorem isAlive_of_made {w : World κ} (hw : w.Sound) {edit : Edit}
    (hroom : (w.edited edit).HasRoom) {f : Entity} (h : w.outcome edit = .made f) :
    w.isAlive f = false := by
  rcases edited_cases hw hroom with
    ⟨i, bundle, -, -, -, hmade, hdead, -⟩ | ⟨t, matrix, bundle, -, hwritten, -, -⟩ | ⟨hskip, -⟩
  · obtain rfl := EditOutcome.made.inj (h.symm.trans hmade)
    exact hdead
  · simp [hwritten] at h
  · simp [hskip] at h

theorem has_prefab_made {w : World κ} (hw : w.Sound) {edit : Edit}
    (hroom : (w.edited edit).HasRoom) {f : Entity} (h : w.outcome edit = .made f) :
    (w.edited edit).has f .prefab = false := by
  cases edit with
  | setWorldMatrix e matrix =>
    rw [outcome] at h
    split at h
    · simp at h
    · simp at h
  | instantiate template transform =>
    cases halive : w.isAlive template with
    | false =>
      rw [outcome, instantiate_of_dead halive] at h
      simp at h
    | true =>
      obtain ⟨i, bundle, hprefab, hmade, -, hview⟩ := edited_instantiate hw halive hroom
      obtain rfl := EditOutcome.made.inj (h.symm.trans hmade)
      have hbundle := hview f
      rw [if_pos rfl] at hbundle
      rw [has, get_of_arena hbundle, hprefab]
      rfl

/-! ## Lists of edits -/

def editAll (w : World κ) (edits : List Edit) : World κ := edits.foldl edited w

/-- Edits, each with the world it meets. -/
def meets (w : World κ) : List Edit → List (World κ × Edit)
  | [] => []
  | edit :: rest => (w, edit) :: (w.edited edit).meets rest

def outcomes (w : World κ) (edits : List Edit) : List EditOutcome :=
  (w.meets edits).map fun p => p.1.outcome p.2

theorem outcomes_cons (w : World κ) (edit : Edit) (rest : List Edit) :
    w.outcomes (edit :: rest) = w.outcome edit :: (w.edited edit).outcomes rest :=
  rfl

theorem editAll_cons (w : World κ) (edit : Edit) (rest : List Edit) :
    w.editAll (edit :: rest) = (w.edited edit).editAll rest :=
  rfl

theorem mem_meets {w : World κ} (hw : w.Sound) {edits : List Edit} {p : World κ × Edit}
    (h : p ∈ w.meets edits) :
    p.2 ∈ edits ∧ ∀ e, w.isAlive e = true → p.1.isAlive e = true := by
  induction edits generalizing w with
  | nil => simp [meets] at h
  | cons edit rest ih =>
    rcases List.mem_cons.mp h with rfl | hlater
    · exact ⟨List.mem_cons_self, fun _ he => he⟩
    · obtain ⟨hmem, halive⟩ := ih (sound_edited hw edit) hlater
      exact ⟨List.mem_cons_of_mem edit hmem, fun e he => halive e (isAlive_edited hw edit he)⟩

theorem HasRoom.of_editAll {w : World κ} {edits : List Edit} (h : (w.editAll edits).HasRoom) :
    w.HasRoom :=
  h.of_via (via_foldl id via_edited edits w)

theorem get_editAll {w : World κ} (hw : w.Sound) {edits : List Edit}
    (hroom : (w.editAll edits).HasRoom) {e : Entity} (he : w.isAlive e = true) {k : Kind κ}
    (hk : k ≠ .localToWorld) : (w.editAll edits).get e k = w.get e k := by
  induction edits generalizing w with
  | nil => rfl
  | cons edit rest ih =>
    rw [editAll_cons] at hroom ⊢
    rw [ih (sound_edited hw edit) hroom (isAlive_edited hw edit he),
      get_edited hw hroom.of_editAll he hk]

theorem matrix_editAll {w : World κ} (hw : w.Sound) {edits : List Edit}
    (hroom : (w.editAll edits).HasRoom) {e : Entity} (he : w.isAlive e = true) :
    (w.editAll edits).get e .localToWorld =
      (edits.filterMap (Edit.matrixFor e)).getLast?.or (w.get e .localToWorld) := by
  induction edits generalizing w with
  | nil => rfl
  | cons edit rest ih =>
    rw [editAll_cons] at hroom ⊢
    rw [ih (sound_edited hw edit) hroom (isAlive_edited hw edit he),
      matrix_edited hw hroom.of_editAll he]
    cases hmatrix : edit.matrixFor e with
    | none => simp [hmatrix]
    | some matrix =>
      cases hlast : (rest.filterMap (Edit.matrixFor e)).getLast? with
      | none => simp [hmatrix, List.getLast?_cons, hlast]
      | some last => simp [hmatrix, List.getLast?_cons, hlast]

theorem isAlive_editAll_iff {w : World κ} (hw : w.Sound) {edits : List Edit}
    (hroom : (w.editAll edits).HasRoom) {f : Entity} :
    (w.editAll edits).isAlive f = true ↔
      w.isAlive f = true ∨ EditOutcome.made f ∈ w.outcomes edits := by
  induction edits generalizing w with
  | nil => simp [editAll, outcomes, meets]
  | cons edit rest ih =>
    rw [editAll_cons] at hroom ⊢
    rw [ih (sound_edited hw edit) hroom, isAlive_edited_iff hw hroom.of_editAll, outcomes_cons,
      List.mem_cons, or_assoc, @eq_comm _ (w.outcome edit)]

theorem isAlive_of_mem_outcomes {w : World κ} (hw : w.Sound) {edits : List Edit}
    (hroom : (w.editAll edits).HasRoom) {f : Entity}
    (h : EditOutcome.made f ∈ w.outcomes edits) : w.isAlive f = false := by
  induction edits generalizing w with
  | nil => simp [outcomes, meets] at h
  | cons edit rest ih =>
    rw [editAll_cons] at hroom
    rcases List.mem_cons.mp h with hnow | hlater
    · exact isAlive_of_made hw hroom.of_editAll hnow.symm
    · have hdead := ih (sound_edited hw edit) hroom hlater
      cases hf : w.isAlive f with
      | false => rfl
      | true =>
        rw [isAlive_edited hw edit hf] at hdead
        simp at hdead

/-- Instances are entities like any other, whatever their templates were. -/
theorem has_prefab_of_mem_outcomes {w : World κ} (hw : w.Sound) {edits : List Edit}
    (hroom : (w.editAll edits).HasRoom) {f : Entity}
    (h : EditOutcome.made f ∈ w.outcomes edits) : (w.editAll edits).has f .prefab = false := by
  induction edits generalizing w with
  | nil => simp [outcomes, meets] at h
  | cons edit rest ih =>
    have hsound := sound_edited hw edit
    rw [editAll_cons] at hroom ⊢
    rcases List.mem_cons.mp h with hnow | hlater
    · -- later edits find it alive and keep its marks
      have halive := (isAlive_edited_iff hw hroom.of_editAll).mpr (.inr hnow.symm)
      rw [has, get_editAll hsound hroom halive (by simp)]
      exact has_prefab_made hw hroom.of_editAll hnow.symm
    · exact ih hsound hroom hlater

/-- If every target of a write is alive, every write succeeds and only instancing can be skipped. -/
theorem count_outcomes {w : World κ} (hw : w.Sound) {edits : List Edit}
    (htargets : ∀ e matrix, Edit.setWorldMatrix e matrix ∈ edits → w.isAlive e = true) :
    (w.outcomes edits).count .written = edits.countP Edit.isWrite ∧
      ((w.outcomes edits).filterMap EditOutcome.made?).length +
        (w.outcomes edits).count .skipped = edits.countP fun edit => !edit.isWrite := by
  induction edits generalizing w with
  | nil => exact ⟨rfl, rfl⟩
  | cons edit rest ih =>
    obtain ⟨hwritten, hothers⟩ := ih (sound_edited hw edit) fun e matrix hmem =>
      isAlive_edited hw edit (htargets e matrix (List.mem_cons_of_mem edit hmem))
    rw [outcomes_cons]
    cases edit with
    | setWorldMatrix e matrix =>
      have hout := outcome_setWorldMatrix (htargets e matrix List.mem_cons_self) matrix
      simp [hout, hwritten, hothers, List.countP_cons, List.filterMap_cons]
    | instantiate template transform =>
      cases halive : w.isAlive template with
      | true =>
        obtain ⟨i, w', h⟩ := instantiate_of_alive halive
        have hout : w.outcome (.instantiate template transform) = .made i := by rw [outcome, h]
        refine ⟨by simp [hout, hwritten], ?_⟩
        simp [hout, ← hothers, Nat.add_right_comm]
      | false =>
        have hout : w.outcome (.instantiate template transform) = .skipped := by
          rw [outcome, instantiate_of_dead halive]
        refine ⟨by simp [hout, hwritten], ?_⟩
        simp [hout, ← hothers, List.filterMap_cons, Nat.add_assoc]

end World

/-! ## Whole buffers -/

namespace CommandBuffer

theorem foldl_tally (r : PlaybackReport) (outcomes : List EditOutcome) :
    outcomes.foldl PlaybackReport.tally r =
      { instantiated := r.instantiated ++ outcomes.filterMap EditOutcome.made?
        updated := r.updated + outcomes.count .written
        despawned := r.despawned
        skipped := r.skipped + outcomes.count .skipped } := by
  induction outcomes generalizing r with
  | nil => simp
  | cons outcome rest ih =>
    rw [List.foldl_cons, ih]
    cases outcome with
    | made e => simp [PlaybackReport.tally]
    | written =>
      simp [PlaybackReport.tally, List.filterMap_cons, Nat.add_assoc, Nat.add_comm 1]
    | skipped =>
      simp [PlaybackReport.tally, List.filterMap_cons, Nat.add_assoc, Nat.add_comm 1]

theorem foldl_applyEdit (edits : List Edit) (w : World κ) (report : PlaybackReport) :
    edits.foldl (fun p edit => (applyEdit p edit).value) (w, report) =
      (w.editAll edits, (w.outcomes edits).foldl PlaybackReport.tally report) := by
  induction edits generalizing w report with
  | nil => rfl
  | cons edit rest ih =>
    rw [List.foldl_cons, World.value_applyEdit, ih]
    rfl

theorem foldl_applyDespawn_arena (targets : List Entity) (p : Progress κ) (f : Entity) :
    (targets.foldl (fun p d => (applyDespawn p d).value) p).1.arena.get? f =
      if f ∈ targets then none else p.1.arena.get? f := by
  induction targets generalizing p with
  | nil => simp
  | cons d rest ih =>
    obtain ⟨w, report⟩ := p
    rw [List.foldl_cons, ih, value_applyDespawn]
    by_cases hrest : f ∈ rest
    · simp [hrest]
    · cases hd : w.despawn? d with
      | some w' => simp [hrest, World.arena_despawn_eq hd]
      | none =>
        have hdead : w.arena.get? d = none := by
          rw [← World.isAlive_eq_false_iff, ← World.despawn_isSome, hd]
          rfl
        by_cases hf : f = d
        · simp [hf, hdead]
        · simp [hrest, hf]

theorem foldl_applyDespawn_report {targets : List Entity} (hnodup : targets.Nodup)
    {p : Progress κ} (halive : ∀ d ∈ targets, p.1.isAlive d = true) :
    (targets.foldl (fun p d => (applyDespawn p d).value) p).2 =
      { p.2 with despawned := p.2.despawned + targets.length } := by
  induction targets generalizing p with
  | nil => rfl
  | cons d rest ih =>
    obtain ⟨w, report⟩ := p
    obtain ⟨hd, hrest⟩ := List.nodup_cons.mp hnodup
    have hsome : (w.despawn? d).isSome = true :=
      (World.despawn_isSome w d).trans (halive d List.mem_cons_self)
    obtain ⟨w', hw'⟩ := Option.isSome_iff_exists.mp hsome
    rw [List.foldl_cons, value_applyDespawn, hw', ih hrest]
    · simp [Nat.add_assoc, Nat.add_comm 1]
    · intro e he
      obtain ⟨bundle, hb⟩ := World.isAlive_iff.mp (halive e (List.mem_cons_of_mem d he))
      have hne : e ≠ d := by
        rintro rfl
        exact hd he
      exact World.isAlive_iff.mpr ⟨bundle, World.arena_despawn hw' hne hb⟩

variable (b : CommandBuffer)

theorem arena_play (w : World κ) (f : Entity) :
    (b.play w).value.1.arena.get? f =
      if f ∈ b.despawns.toList then none else (w.editAll b.edits.toList).arena.get? f := by
  rw [value_play, foldl_applyDespawn_arena, foldl_applyEdit]

variable {b}

theorem hasRoom_of_play {w : World κ} (h : (b.play w).value.1.HasRoom) :
    (w.editAll b.edits.toList).HasRoom := by
  rw [value_play, foldl_applyEdit] at h
  exact h.of_via (World.via_foldl Prod.fst via_applyDespawn b.despawns.toList (w.editAll _, _))

theorem report_play {w : World κ} (hw : w.Sound) (hnodup : b.despawns.toList.Nodup)
    (halive : ∀ d ∈ b.despawns.toList, w.isAlive d = true) :
    (b.play w).value.2 =
      { instantiated := (w.outcomes b.edits.toList).filterMap EditOutcome.made?
        updated := (w.outcomes b.edits.toList).count .written
        despawned := b.despawns.toList.length
        skipped := (w.outcomes b.edits.toList).count .skipped } := by
  have hkeep := keepsMarks_foldl_applyEdit (p := (w, {})) b.edits.toList hw
  rw [value_play, foldl_applyDespawn_report hnodup fun d hd => (hkeep d (halive d hd)).1,
    foldl_applyEdit, foldl_tally]
  simp

end CommandBuffer

end SceneBridge
