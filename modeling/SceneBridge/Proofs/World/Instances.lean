import Mathlib.Logic.Relation
import SceneBridge.Proofs.World.Columns

/-!
# Instances of templates

An instance is an exact copy of its template, the prefab mark apart, and nothing else changes when
it is made (`World.Copied`). That does not depend on what its slot held before: no column has a key
in a slot that is handed out (`Columns.Copied`). In a series of instancings the instances may serve
as templates again; in the end each is a copy of the entity that its chain of templates starts from
(`World.Series`).
-/

namespace SceneBridge

variable {κ : Type} [ProjectKind κ]

/-! ## One instance -/

/-- Columns with a copy under a handle whose slot had no keys, and otherwise as before. -/
structure Columns.Copied (c : Columns κ) (template e : Entity) (c' : Columns κ) : Prop where
  vacant : ∀ f : Entity, f.index = e.index → ∀ k, (c.column k)[f]? = none
  copy : ∀ k, k ≠ .prefab → (c'.column k)[e]? = (c.column k)[template]?
  unmarked : (c'.column .prefab)[e]? = none
  others : ∀ f, f ≠ e → ∀ k, (c'.column k)[f]? = (c.column k)[f]?

namespace World

/-- A world with a copy behind a handle whose slot held nobody, and otherwise as before. -/
structure Copied (w : World κ) (template e : Entity) (w' : World κ) : Prop where
  vacant : ∀ f : Entity, f.index = e.index → w.isAlive f = false
  alive : w'.isAlive e = true
  copy : ∀ k, k ≠ .prefab → w'.get e k = w.get template k
  unmarked : w'.get e .prefab = none
  others_alive : ∀ f, f ≠ e → w'.isAlive f = w.isAlive f
  others : ∀ f, f ≠ e → ∀ k, w'.get f k = w.get f k

/-- What instancing from a handle comes to, in a world and in the columns that the same changes lead
to. -/
structure Instancing (w : World κ) (template : Entity) : Prop where
  refused_iff : (w.instantiate template).value = .error (.templateNotFound template) ↔
    w.isAlive template = false
  unchanged_iff : w.change (.instantiate template) = w ↔ w.isAlive template = false
  copied : w.isAlive template = true →
    ∃ e w', (w.instantiate template).value = .ok (e, w') ∧ w.Copied template e w'
  reached : ∃ changes : List (Change κ), changes.foldl change .empty = w
  columns : ∀ changes : List (Change κ), changes.foldl change .empty = w →
    ∀ e w', (w.instantiate template).value = .ok (e, w') →
      (changes.foldl Columns.change .empty).Copied template e
        ((changes ++ [Change.instantiate template]).foldl Columns.change .empty)

variable {w w' : World κ} {template e : Entity}

theorem copied_of_instantiate (hw : w.Sound) (hroom : w.HasRoom)
    (h : (w.instantiate template).value = .ok (e, w')) : w.Copied template e w' := by
  obtain ⟨bundle, hbundle, heq⟩ := instantiate_eq_ok h
  obtain ⟨bundle', -, -, hview⟩ := arena_instantiate hw hroom h
  obtain ⟨-, hget⟩ := get_instantiate hw hroom h
  have hhandle : e = (w.arena.allocate (bundle.erase .prefab)).1 := congrArg Prod.fst heq
  refine ⟨fun f hf => ?_, ?_, fun k hk => ?_, ?_, fun f hf => ?_, fun f hf k => ?_⟩
  · rw [isAlive_eq_false_iff]
    exact Arena.Sound.get?_of_index_allocated hw hroom _ (hhandle ▸ hf)
  · exact isAlive_iff.mpr ⟨_, by rw [hview, if_pos rfl]⟩
  · rw [hget, Function.update_self, Function.update_of_ne hk]
  · rw [hget, Function.update_self, Function.update_self]
  · rw [isAlive, isAlive, Arena.isAlive, Arena.isAlive, hview, if_neg hf]
  · rw [hget, Function.update_of_ne hf]

theorem Copied.new (h : w.Copied template e w') : w.isAlive e = false := h.vacant e rfl

theorem Copied.alive_iff (h : w.Copied template e w') {f : Entity} :
    w'.isAlive f = true ↔ w.isAlive f = true ∨ f = e := by
  by_cases hf : f = e
  · subst hf
    simp [h.alive]
  · simp [h.others_alive f hf, hf]

theorem Copied.ne_of_alive (h : w.Copied template e w') {f : Entity} (hf : w.isAlive f = true) :
    f ≠ e := by
  rintro rfl
  rw [h.new] at hf
  simp at hf

theorem Copied.columns (h : w.Copied template e w') {c c' : Columns κ} (hc : c.Shows w)
    (hc' : c'.Shows w') : c.Copied template e c' := by
  have hcolumn : ∀ f k, (c.column k)[f]? = w.get f k := fun f k =>
    congrFun (congrFun hc.get f) k
  have hcolumn' : ∀ f k, (c'.column k)[f]? = w'.get f k := fun f k =>
    congrFun (congrFun hc'.get f) k
  refine ⟨fun f hf k => ?_, fun k hk => ?_, ?_, fun f hf k => ?_⟩
  · rw [hcolumn, get_of_dead (h.vacant f hf)]
  · rw [hcolumn, hcolumn', h.copy k hk]
  · rw [hcolumn', h.unmarked]
  · rw [hcolumn, hcolumn', h.others f hf]

theorem Via.instancing (h : empty.Via w) (hroom : w.HasRoom) (template : Entity) :
    w.Instancing template := by
  have hw := h.kept kept_empty
  cases halive : w.isAlive template with
  | false =>
    have hrefused := instantiate_of_dead halive
    refine ⟨by simp [hrefused, halive], ?_, by simp [halive], h, ?_⟩
    · simp [change_instantiate_of_dead halive, halive]
    · intro changes _ e w' hmade
      rw [hrefused] at hmade
      simp at hmade
  | true =>
    obtain ⟨e, w', hmade⟩ := instantiate_of_alive halive
    have hcopied := copied_of_instantiate hw.sound hroom hmade
    refine ⟨by simp [hmade, halive], ?_, fun _ => ⟨e, w', hmade, hcopied⟩, h, ?_⟩
    · -- the new handle tells the two worlds apart
      rw [change_instantiate hmade]
      refine ⟨fun heq => ?_, fun hdead => by simp [halive] at hdead⟩
      have hnew := hcopied.new
      rw [← heq, hcopied.alive] at hnew
      simp at hnew
    · rintro changes rfl e' w'' hmade'
      obtain ⟨rfl, rfl⟩ := Prod.mk.inj (Except.ok.inj (hmade.symm.trans hmade'))
      have hshows := Columns.shows_empty.foldl_change kept_empty hroom
      have hafter := hshows.change hw.sound hroom (.instantiate template)
      rw [change_instantiate hmade] at hafter
      rw [List.foldl_append]
      exact hcopied.columns hshows hafter

/-! ## Series -/

/-- The templates of a series of instancings, each with the world that it is looked up in. -/
def instancings (w : World κ) : List Entity → List (World κ × Entity)
  | [] => []
  | template :: rest => (w, template) :: (w.change (.instantiate template)).instancings rest

/-- Those of the templates that are alive in their moment, each with its instance. -/
def instances (w : World κ) : List Entity → List (Entity × Entity)
  | [] => []
  | template :: rest =>
    match (w.instantiate template).value with
    | .ok (e, w') => (template, e) :: w'.instances rest
    | .error _ => w.instances rest

def instantiateAll (w : World κ) (templates : List Entity) : World κ :=
  templates.foldl (fun w template => w.change (.instantiate template)) w

/-- What a series of instancings makes of a world, given each template with its instance. A template
may be an instance of the same series. -/
structure Series (w : World κ) (pairs : List (Entity × Entity)) (w' : World κ) : Prop where
  new : ∀ pair ∈ pairs, w.isAlive pair.2 = false
  nodup : (pairs.map Prod.snd).Nodup
  alive_iff : ∀ f, w'.isAlive f = true ↔ w.isAlive f = true ∨ f ∈ pairs.map Prod.snd
  kept : ∀ f, w.isAlive f = true → ∀ k, w'.get f k = w.get f k
  copy : ∀ pair ∈ pairs, ∀ k, k ≠ .prefab → w'.get pair.2 k = w'.get pair.1 k
  unmarked : ∀ pair ∈ pairs, w'.get pair.2 .prefab = none
  /-- Each instance goes back to somebody who was there before, and is a copy of him. -/
  origin : ∀ pair ∈ pairs, ∃ origin, w.isAlive origin = true ∧
    Relation.TransGen (fun template e => (template, e) ∈ pairs) origin pair.2 ∧
    ∀ k, k ≠ .prefab → w'.get pair.2 k = w.get origin k

theorem Series.nil (w : World κ) : w.Series [] w := by
  refine ⟨?_, ?_, ?_, fun f _ k => rfl, ?_, ?_, ?_⟩
  all_goals simp

theorem Series.cons {w₁ : World κ} {pairs : List (Entity × Entity)}
    (htemplate : w.isAlive template = true) (h : w.Copied template e w₁)
    (hrest : w₁.Series pairs w') : w.Series ((template, e) :: pairs) w' := by
  have hstays : ∀ f, w.isAlive f = true → w₁.isAlive f = true := fun f hf =>
    h.alive_iff.mpr (.inl hf)
  have hget : ∀ f, w.isAlive f = true → ∀ k, w₁.get f k = w.get f k := fun f hf =>
    h.others f (h.ne_of_alive hf)
  have hcopy : ∀ k, k ≠ .prefab → w'.get e k = w.get template k := fun k hk =>
    (hrest.kept e h.alive k).trans (h.copy k hk)
  have hkept : ∀ f, w.isAlive f = true → ∀ k, w'.get f k = w.get f k := fun f hf k =>
    (hrest.kept f (hstays f hf) k).trans (hget f hf k)
  refine ⟨?_, ?_, fun f => ?_, hkept, ?_, ?_, ?_⟩
  · refine List.forall_mem_cons.mpr ⟨h.new, fun pair hpair => ?_⟩
    rw [← Bool.not_eq_true]
    intro hold
    have hnew := hrest.new pair hpair
    rw [hstays _ hold] at hnew
    simp at hnew
  · refine List.nodup_cons.mpr ⟨fun hmem => ?_, hrest.nodup⟩
    obtain ⟨pair, hpair, heq⟩ := List.mem_map.mp hmem
    have hnew := hrest.new pair hpair
    rw [heq, h.alive] at hnew
    simp at hnew
  · rw [hrest.alive_iff, h.alive_iff, List.map_cons, List.mem_cons, or_assoc]
  · refine List.forall_mem_cons.mpr ⟨fun k hk => ?_, hrest.copy⟩
    exact (hcopy k hk).trans (hkept template htemplate k).symm
  · refine List.forall_mem_cons.mpr ⟨?_, hrest.unmarked⟩
    exact (hrest.kept e h.alive .prefab).trans h.unmarked
  · refine List.forall_mem_cons.mpr ⟨?_, fun pair hpair => ?_⟩
    · exact ⟨template, htemplate, .single List.mem_cons_self, hcopy⟩
    · obtain ⟨origin, horigin, hchain, hsame⟩ := hrest.origin pair hpair
      have hchain' : Relation.TransGen (fun t f => (t, f) ∈ (template, e) :: pairs) origin pair.2 :=
        Relation.TransGen.mono (fun t f hmem => List.mem_cons_of_mem (template, e) hmem) _ _ hchain
      rcases h.alive_iff.mp horigin with hold | rfl
      · exact ⟨origin, hold, hchain', fun k hk => (hsame k hk).trans (hget origin hold k)⟩
      · -- the chain starts from the instance in front, which has a template of its own
        refine ⟨template, htemplate, .head List.mem_cons_self hchain', fun k hk => ?_⟩
        exact (hsame k hk).trans (h.copy k hk)

theorem Via.series (h : empty.Via w) {templates : List Entity}
    (hroom : ∀ moment ∈ w.instancings templates, moment.1.HasRoom) :
    (∀ moment ∈ w.instancings templates, moment.1.Instancing moment.2) ∧
      w.Series (w.instances templates) (w.instantiateAll templates) := by
  induction templates generalizing w with
  | nil => exact ⟨by simp [instancings], .nil w⟩
  | cons template rest ih =>
    obtain ⟨hhere, hrest⟩ := List.forall_mem_cons.mp hroom
    have hnext : empty.Via (w.change (.instantiate template)) := h.trans (.of_change rfl)
    obtain ⟨heach, hseries⟩ := ih hnext hrest
    refine ⟨List.forall_mem_cons.mpr ⟨h.instancing hhere template, heach⟩, ?_⟩
    rw [instances, instantiateAll, List.foldl_cons, ← instantiateAll]
    cases halive : w.isAlive template with
    | false =>
      rw [change_instantiate_of_dead halive] at hseries ⊢
      rw [instantiate_of_dead halive]
      exact hseries
    | true =>
      obtain ⟨e, w', hmade⟩ := instantiate_of_alive halive
      rw [change_instantiate hmade] at hseries ⊢
      rw [hmade]
      exact .cons halive (copied_of_instantiate (h.kept kept_empty).sound hhere hmade) hseries

/-- Whatever a host has called, an instance is an exact copy and nothing else changes when it is
made, also in a series in which instances are instanced in turn. -/
theorem instances_of_calls (calls : List (Call κ)) (templates : List Entity)
    (hroom : ∀ moment ∈ (calls.foldl call empty).instancings templates, moment.1.HasRoom) :
    (∀ moment ∈ (calls.foldl call empty).instancings templates, moment.1.Instancing moment.2) ∧
      (calls.foldl call empty).Series ((calls.foldl call empty).instances templates)
        ((calls.foldl call empty).instantiateAll templates) :=
  (via_foldl_call empty calls).series hroom

def vacatedCalls : List (Call Empty) :=
  [.change (.build [⟨.name, "lamp"⟩, ⟨.prefab, ()⟩]),
    .change (.build [⟨.guid, ⟨#v[7, 7, 7, 7]⟩⟩, ⟨.parent, ⟨0, 0⟩⟩]), .change (.despawn ⟨1, 0⟩)]

/-- The template is instanced into the vacant slot, the instance in turn, a handle that was never
issued not at all, and the template once more. -/
theorem vacated_slot_instances :
    let w := vacatedCalls.foldl call (empty : World Empty)
    let templates : List Entity := [⟨0, 0⟩, ⟨1, 1⟩, ⟨7, 7⟩, ⟨0, 0⟩]
    (∀ moment ∈ w.instancings templates, moment.1.HasRoom) ∧
      w.instances templates = [(⟨0, 0⟩, ⟨1, 1⟩), (⟨1, 1⟩, ⟨2, 0⟩), (⟨0, 0⟩, ⟨3, 0⟩)] ∧
      (w.instantiateAll templates).get ⟨1, 1⟩ .guid = none ∧
      (w.instantiateAll templates).get ⟨2, 0⟩ .name = some "lamp" ∧
      (∀ moment ∈ w.instancings templates, moment.1.Instancing moment.2) ∧
      w.Series (w.instances templates) (w.instantiateAll templates) := by
  intro w templates
  have hroom : ∀ moment ∈ w.instancings templates, moment.1.HasRoom := by
    unfold World.HasRoom Arena.HasRoom
    decide +kernel
  obtain ⟨heach, hseries⟩ := instances_of_calls vacatedCalls templates hroom
  exact ⟨hroom, by decide +kernel, by decide +kernel, by decide +kernel, heach, hseries⟩

end World

end SceneBridge
