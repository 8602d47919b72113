import Mathlib.Data.List.Forall2
import Mathlib.Data.List.Nodup
import SceneBridge.Proofs.SceneDescription
import SceneBridge.Proofs.World.SpawnEach

/-!
# What a spawn leaves behind

A spawn builds a row of entities, links some of them to their parents and creates a row of holders
for families. Each stage that succeeds is one of these three (`declare_eq_ok`, `linked_linkAll`,
`holdFamilies_eq_ok`); `SceneDescription.Residue` says what is in the world after `Stages` that have
gone as far as they did.
-/

namespace SceneBridge

variable {κ : Type} [ProjectKind κ]

def EntityDescription.holds (d : EntityDescription) (named : NamedEntities) :
    (k : Kind κ) → Option k.Value
  | .name => some d.name
  | .parent => d.parent.bind fun name => named.lookup name
  | .localTransform => some d.transform
  | .localToWorld => none
  | .shareRequest => if d.shared then some () else none
  | .prefab => if d.prefab then some () else none
  | .guid => d.guid.map Guid.mk
  | .templateFamily => none
  | .project _ => none

theorem EntityDescription.get?_components (d : EntityDescription) (named : NamedEntities)
    {k : Kind κ} (hk : k ≠ .parent) :
    (Bundle.ofList d.components).get? k = d.holds named k := by
  obtain ⟨name, parent, shared, prefab, guid, transform⟩ := d
  cases shared <;> cases prefab <;> cases guid <;> cases k <;> first | rfl | exact absurd rfl hk

theorem EntityDescription.get?_parent_components (d : EntityDescription) :
    (Bundle.ofList (d.components (κ := κ))).get? .parent = none := by
  obtain ⟨name, parent, shared, prefab, guid, transform⟩ := d
  cases shared <;> cases prefab <;> cases guid <;> rfl

/-- A family as a description declares it, and with the templates behind its names. -/
def FamilyDescription.Becomes (named : NamedEntities) (d : FamilyDescription)
    (f : TemplateFamily) : Prop :=
  f.familyId = d.familyId ∧
    List.Forall₂ (fun name e => named.lookup name = some e) d.templates f.templates

namespace SceneDescription

variable {w w' : World κ} {named : NamedEntities}

/-! ## Names -/

def nameOf (p : EntityDescription × Entity) : String × Entity := (p.1.name, p.2)

theorem lookup_eq_some_iff {named : NamedEntities} (hnodup : (named.map Prod.fst).Nodup)
    {name : String} {e : Entity} : named.lookup name = some e ↔ (name, e) ∈ named := by
  induction named with
  | nil => simp
  | cons head rest ih =>
    obtain ⟨first, entity⟩ := head
    obtain ⟨hfirst, hrest⟩ := List.nodup_cons.mp hnodup
    rw [List.lookup_cons, List.mem_cons]
    by_cases hname : name = first
    · subst hname
      have hnot : (name, e) ∉ rest := fun hmem =>
        hfirst (List.mem_map.mpr ⟨(name, e), hmem, rfl⟩)
      simp [hnot, @eq_comm _ entity]
    · have hne : (name == first) = false := by simpa using hname
      rw [hne, ih hrest]
      simp [hname]

theorem lookup_map_nameOf {ds : List EntityDescription}
    {entities : List (EntityDescription × Entity)} (hds : entities.map Prod.fst = ds)
    (hnodup : (ds.map EntityDescription.name).Nodup) {name : String} {e : Entity} :
    (entities.map nameOf).lookup name = some e ↔ ∃ p ∈ entities, p.1.name = name ∧ p.2 = e := by
  have hkeys : ((entities.map nameOf).map Prod.fst).Nodup := by
    rw [← hds, List.map_map] at hnodup
    rw [List.map_map]
    exact hnodup
  rw [lookup_eq_some_iff hkeys, List.mem_map]
  simp only [nameOf, Prod.mk.injEq]

theorem lookup_injective {ds : List EntityDescription}
    {entities : List (EntityDescription × Entity)} (hds : entities.map Prod.fst = ds)
    (hnodup : (ds.map EntityDescription.name).Nodup) (hdistinct : (entities.map Prod.snd).Nodup)
    (name name' : String) (e : Entity) (h : (entities.map nameOf).lookup name = some e)
    (h' : (entities.map nameOf).lookup name' = some e) : name = name' := by
  obtain ⟨p, hp, rfl, rfl⟩ := (lookup_map_nameOf hds hnodup).mp h
  obtain ⟨q, hq, rfl, heq⟩ := (lookup_map_nameOf hds hnodup).mp h'
  rw [List.inj_on_of_nodup_map hdistinct hp hq heq.symm]

theorem forall₂_of_mapM_resolve {names : List String} {templates : List Entity}
    (h : names.mapM (resolve named) = .ok templates) :
    List.Forall₂ (fun name e => named.lookup name = some e) names templates := by
  induction names generalizing templates with
  | nil =>
    obtain rfl := Except.ok.inj h
    exact .nil
  | cons name names ih =>
    rw [List.mapM_cons] at h
    cases hname : resolve named name with
    | error err =>
      rw [hname] at h
      simp [bind, Except.bind] at h
    | ok e =>
      cases hrest : names.mapM (resolve named) with
      | error err =>
        rw [hname, hrest] at h
        simp [bind, Except.bind] at h
      | ok rest =>
        rw [hname, hrest] at h
        obtain rfl := Except.ok.inj h
        exact .cons (resolve_eq_ok_iff.mp hname) (ih hrest)

theorem getElem?_of_forall₂_lookup {names : List String} {templates : List Entity}
    (h : List.Forall₂ (fun name e => named.lookup name = some e) names templates) (i : Nat) :
    templates[i]? = names[i]?.bind fun name => named.lookup name := by
  induction h generalizing i with
  | nil => rfl
  | cons hname _ ih =>
    cases i with
    | zero => exact hname.symm
    | succ i => exact ih i

theorem lookup_of_forall₂_lookup {names : List String} {templates : List Entity}
    (h : List.Forall₂ (fun name e => named.lookup name = some e) names templates) :
    ∀ name ∈ names, ∃ e, named.lookup name = some e := by
  induction h with
  | nil => simp
  | cons hname _ ih => exact List.forall_mem_cons.mpr ⟨⟨_, hname⟩, ih⟩

/-! ## The stages, once they succeed -/

theorem declare_eq_ok {ds : List EntityDescription} {named named' : NamedEntities}
    (h : declare w named ds = (.ok named', w')) :
    named' = named ++ (w.spawnEach EntityDescription.components ds).1.map nameOf ∧
      w' = (w.spawnEach EntityDescription.components ds).2 ∧
      (∀ d ∈ ds, named.lookup d.name = none) ∧ (ds.map EntityDescription.name).Nodup := by
  induction ds generalizing w named with
  | nil =>
    obtain ⟨hnamed, rfl⟩ := Prod.mk.inj h
    obtain rfl := Except.ok.inj hnamed
    simp [World.spawnEach]
  | cons d ds ih =>
    rw [declare] at h
    cases hlookup : named.lookup d.name with
    | some e => simp [hlookup] at h
    | none =>
      rw [hlookup] at h
      obtain ⟨hnamed, hworld, hnew, hnodup⟩ := ih h
      have hseparate : ∀ d' ∈ ds, named.lookup d'.name = none ∧ d'.name ≠ d.name := by
        intro d' hd'
        have hnone := hnew d' hd'
        rw [List.lookup_append, Option.or_eq_none_iff] at hnone
        refine ⟨hnone.1, fun heq => ?_⟩
        simp [heq] at hnone
      refine ⟨?_, hworld, ?_, ?_⟩
      · rw [hnamed, World.spawnEach, List.append_assoc]
        rfl
      · exact List.forall_mem_cons.mpr ⟨hlookup, fun d' hd' => (hseparate d' hd').1⟩
      · refine List.nodup_cons.mpr ⟨fun hmem => ?_, hnodup⟩
        obtain ⟨d', hd', heq⟩ := List.mem_map.mp hmem
        exact (hseparate d' hd').2 heq

/-- What links have made of a world: the parents of the named entities are set, all else is as it
was. -/
structure Linked (named : NamedEntities) (ds : List EntityDescription) (w w' : World κ) : Prop where
  sound : w'.Sound
  slots : w'.arena.slots.size = w.arena.slots.size
  supply : ∀ n, w'.arena.supply n = w.arena.supply n
  alive : ∀ f, w'.isAlive f = w.isAlive f
  kept : ∀ f k, k ≠ .parent → w'.get f k = w.get f k
  known : ∀ d ∈ ds, ∀ name, d.parent = some name → ∃ parent, named.lookup name = some parent
  linked : ∀ d ∈ ds, ∀ e, named.lookup d.name = some e →
    w'.get e .parent = (d.parent.bind fun name => named.lookup name).or (w.get e .parent)
  others : ∀ f, (∀ d ∈ ds, named.lookup d.name ≠ some f) → w'.arena.get? f = w.arena.get? f

theorem Linked.nil (hw : w.Sound) (named : NamedEntities) : Linked named [] w w := by
  refine ⟨hw, rfl, fun _ => rfl, fun _ => rfl, fun _ _ _ => rfl, ?_, ?_, fun _ _ => rfl⟩
  · simp
  · simp

theorem linked_link (hw : w.Sound) {d : EntityDescription} (h : link w named d = .ok w') :
    Linked named [d] w w' := by
  rcases link_cases h with ⟨hparent, rfl⟩ | ⟨name, parent, e, hparent, hname, he, hinsert⟩
  · refine ⟨hw, rfl, fun _ => rfl, fun _ => rfl, fun _ _ _ => rfl, ?_, ?_, fun _ _ => rfl⟩
    · simp [hparent]
    · simp [hparent]
  · obtain ⟨bundle, hbundle, hview⟩ := World.arena_insert hinsert
    obtain ⟨bundle', hbundle', harena⟩ := World.insert_eq_ok hinsert
    refine ⟨(World.via_insert hinsert).sound hw, World.slots_insert hinsert, fun n => ?_,
      World.isAlive_insert hinsert, fun f k hk => World.get_insert_of_ne hinsert (.inr hk), ?_, ?_,
      ?_⟩
    · rw [harena, Arena.supply_set]
    · simp [hparent, hname]
    · simp only [List.mem_singleton, forall_eq]
      intro f hf
      obtain rfl := Option.some.inj (he.symm.trans hf)
      have hset := hview e
      rw [if_pos rfl] at hset
      rw [World.get_of_arena hset, Bundle.get?_set_self, hparent, Option.bind_some, hname,
        Option.some_or]
    · intro f hf
      have hne : f ≠ e := by
        rintro rfl
        exact hf d (List.mem_singleton_self d) he
      rw [hview, if_neg hne]

theorem linked_linkAll (hw : w.Sound) {ds : List EntityDescription}
    (hnodup : (ds.map EntityDescription.name).Nodup)
    (hinjective : ∀ name name' e, named.lookup name = some e → named.lookup name' = some e →
      name = name')
    (h : linkAll w named ds = (.ok (), w')) : Linked named ds w w' := by
  induction ds generalizing w with
  | nil =>
    obtain ⟨-, rfl⟩ := Prod.mk.inj h
    exact .nil hw named
  | cons d ds ih =>
    rw [linkAll] at h
    cases hlink : link w named d with
    | error err => simp [hlink] at h
    | ok w₁ =>
      rw [hlink] at h
      obtain ⟨hname, hrest⟩ := List.nodup_cons.mp hnodup
      have hfirst := linked_link hw hlink
      have hlater := ih hfirst.sound hrest h
      refine ⟨hlater.sound, hlater.slots.trans hfirst.slots,
        fun n => (hlater.supply n).trans (hfirst.supply n),
        fun f => (hlater.alive f).trans (hfirst.alive f),
        fun f k hk => (hlater.kept f k hk).trans (hfirst.kept f k hk), ?_, ?_, ?_⟩
      · exact List.forall_mem_cons.mpr ⟨hfirst.known d (List.mem_singleton_self d), hlater.known⟩
      · refine List.forall_mem_cons.mpr ⟨fun e he => ?_, fun d' hd' e he => ?_⟩
        · -- no later link is about this entity
          have hothers : ∀ d' ∈ ds, named.lookup d'.name ≠ some e := by
            intro d' hd' he'
            exact hname (List.mem_map.mpr ⟨d', hd', hinjective _ _ e he' he⟩)
          rw [World.get, hlater.others e hothers]
          exact hfirst.linked d (List.mem_singleton_self d) e he
        · have hother : ∀ d'' ∈ [d], named.lookup d''.name ≠ some e := by
            intro d'' hd'' he'
            obtain rfl := List.mem_singleton.mp hd''
            exact hname (List.mem_map.mpr ⟨d', hd', hinjective _ _ e he he'⟩)
          rw [hlater.linked d' hd' e he, World.get, World.get, hfirst.others e hother]
      · intro f hf
        obtain ⟨hhead, htail⟩ := List.forall_mem_cons.mp hf
        rw [hlater.others f htail]
        exact hfirst.others f fun d' hd' => List.mem_singleton.mp hd' ▸ hhead

def holderComponents (f : TemplateFamily) : List (Component κ) := [⟨.templateFamily, f⟩]

theorem holdFamilies_eq_ok {fs : List FamilyDescription}
    (h : holdFamilies w named fs = (.ok (), w')) :
    ∃ families, List.Forall₂ (FamilyDescription.Becomes named) fs families ∧
      w' = (w.spawnEach holderComponents families).2 := by
  induction fs generalizing w with
  | nil =>
    obtain ⟨-, rfl⟩ := Prod.mk.inj h
    exact ⟨[], .nil, rfl⟩
  | cons d fs ih =>
    rw [holdFamilies] at h
    cases htemplates : d.templates.mapM (resolve named) with
    | error err => simp [htemplates] at h
    | ok templates =>
      rw [htemplates] at h
      obtain ⟨families, hfamilies, hworld⟩ := ih h
      have hfirst : d.Becomes named ⟨d.familyId, templates⟩ :=
        ⟨rfl, forall₂_of_mapM_resolve htemplates⟩
      exact ⟨_, .cons hfirst hfamilies, hworld⟩

/-! ## What is left behind -/

/-- What a spawn leaves in a world once it has built some entities, linked some of them to their
parents and created holders for some families. -/
structure Residue (built linked : List EntityDescription) (families : List FamilyDescription)
    (w : World κ) (entities : List (EntityDescription × Entity))
    (holders : List (TemplateFamily × Entity)) (w' : World κ) : Prop where
  sound : w'.Sound
  described : entities.map Prod.fst = built
  becomes : List.Forall₂ (FamilyDescription.Becomes (entities.map nameOf)) families
    (holders.map Prod.fst)
  nodup : (entities.map Prod.snd ++ holders.map Prod.snd).Nodup
  fresh : ∀ e ∈ entities.map Prod.snd ++ holders.map Prod.snd, w.isAlive e = false
  alive_iff : ∀ f, w'.isAlive f = true ↔
    w.isAlive f = true ∨ f ∈ entities.map Prod.snd ++ holders.map Prod.snd
  holds : ∀ p ∈ entities, ∀ k, k ≠ .parent → w'.get p.2 k = p.1.holds (entities.map nameOf) k
  parent : ∀ p ∈ entities, p.1 ∈ linked →
    w'.get p.2 .parent = p.1.holds (entities.map nameOf) .parent
  no_parent : ∀ p ∈ entities, p.1 ∉ linked → w'.get p.2 .parent = none
  held : ∀ p ∈ holders, w'.arena.get? p.2 = some (Bundle.ofList (holderComponents p.1))
  kept : ∀ f, f ∉ entities.map Prod.snd → f ∉ holders.map Prod.snd →
    w'.arena.get? f = w.arena.get? f
  slots : ∀ (i : Nat) p, holders[i]? = some p →
    p.2.index.toNat = w.arena.supply (built.length + i)

/-- The stages of a spawn, one after the other, as far as they go. -/
structure Stages (built linked : List EntityDescription) (families : List FamilyDescription)
    (w : World κ) (entities : List (EntityDescription × Entity)) (w₁ w₂ : World κ)
    (holders : List (TemplateFamily × Entity)) (w' : World κ) : Prop where
  described : entities.map Prod.fst = built
  names_nodup : (built.map EntityDescription.name).Nodup
  subset : linked ⊆ built
  becomes : List.Forall₂ (FamilyDescription.Becomes (entities.map nameOf)) families
    (holders.map Prod.fst)
  declares : w.SpawnsEach EntityDescription.components entities w₁
  links : Linked (entities.map nameOf) linked w₁ w₂
  holds : w₂.SpawnsEach holderComponents holders w'

namespace Stages

variable {built linked : List EntityDescription} {families : List FamilyDescription}
variable {entities : List (EntityDescription × Entity)} {holders : List (TemplateFamily × Entity)}
variable {w₁ w₂ : World κ} {p : EntityDescription × Entity} {f : Entity}
variable (h : Stages built linked families w entities w₁ w₂ holders w')

include h

theorem lookup_iff {name : String} : (entities.map nameOf).lookup name = some f ↔
    ∃ p ∈ entities, p.1.name = name ∧ p.2 = f :=
  lookup_map_nameOf h.described h.names_nodup

theorem alive_linked (hp : p ∈ entities) : w₂.isAlive p.2 = true := by
  rw [h.links.alive, World.isAlive_iff]
  exact ⟨_, h.declares.placed p hp⟩

theorem not_mem_holders (hp : p ∈ entities) : p.2 ∉ holders.map Prod.snd := by
  intro hmem
  obtain ⟨q, hq, heq⟩ := List.mem_map.mp hmem
  have hdead := h.holds.fresh q hq
  rw [heq, h.alive_linked hp] at hdead
  simp at hdead

theorem not_mem_entities (hf : f ∈ holders.map Prod.snd) : f ∉ entities.map Prod.snd := by
  intro hmem
  obtain ⟨p, hp, rfl⟩ := List.mem_map.mp hmem
  exact h.not_mem_holders hp hf

theorem arena_entity (hp : p ∈ entities) : w'.arena.get? p.2 = w₂.arena.get? p.2 :=
  h.holds.kept p.2 (h.not_mem_holders hp)

theorem get_entity (hp : p ∈ entities) (k : Kind κ) : w'.get p.2 k = w₂.get p.2 k := by
  rw [World.get, World.get, h.arena_entity hp]

theorem get_declared (hp : p ∈ entities) (k : Kind κ) :
    w₁.get p.2 k = (Bundle.ofList p.1.components).get? k :=
  World.get_of_arena (h.declares.placed p hp) k

theorem arena_linked (hf : f ∉ entities.map Prod.snd) : w₂.arena.get? f = w.arena.get? f := by
  rw [h.links.others f, h.declares.kept f hf]
  intro x _ hx
  obtain ⟨p, hp, -, rfl⟩ := h.lookup_iff.mp hx
  exact hf (List.mem_map_of_mem hp)

theorem kept (hf : f ∉ entities.map Prod.snd) (hf' : f ∉ holders.map Prod.snd) :
    w'.arena.get? f = w.arena.get? f := by
  rw [h.holds.kept f hf', h.arena_linked hf]

theorem fresh (hf : f ∈ entities.map Prod.snd ++ holders.map Prod.snd) :
    w.isAlive f = false := by
  rcases List.mem_append.mp hf with hf | hf
  · obtain ⟨p, hp, rfl⟩ := List.mem_map.mp hf
    exact h.declares.fresh p hp
  · have hlinked := h.arena_linked (h.not_mem_entities hf)
    obtain ⟨q, hq, rfl⟩ := List.mem_map.mp hf
    rw [World.isAlive_eq_false_iff, ← hlinked, ← World.isAlive_eq_false_iff]
    exact h.holds.fresh q hq

theorem alive (hf : f ∈ entities.map Prod.snd ++ holders.map Prod.snd) :
    w'.isAlive f = true := by
  rcases List.mem_append.mp hf with hf | hf
  · obtain ⟨p, hp, rfl⟩ := List.mem_map.mp hf
    rw [World.isAlive_iff, h.arena_entity hp, ← World.isAlive_iff]
    exact h.alive_linked hp
  · obtain ⟨q, hq, rfl⟩ := List.mem_map.mp hf
    exact World.isAlive_iff.mpr ⟨_, h.holds.placed q hq⟩

theorem alive_iff : w'.isAlive f = true ↔
    w.isAlive f = true ∨ f ∈ entities.map Prod.snd ++ holders.map Prod.snd := by
  by_cases hf : f ∈ entities.map Prod.snd ++ holders.map Prod.snd
  · simp only [h.alive hf, hf, or_true]
  · have hnot := hf
    rw [List.mem_append, not_or] at hnot
    rw [World.isAlive_iff, h.kept hnot.1 hnot.2, ← World.isAlive_iff, or_iff_left hf]

theorem get_parent (hp : p ∈ entities) (hmem : p.1 ∈ linked) :
    w'.get p.2 .parent = p.1.holds (entities.map nameOf) .parent := by
  have hname := h.lookup_iff.mpr ⟨p, hp, rfl, rfl⟩
  rw [h.get_entity hp, h.links.linked p.1 hmem p.2 hname, h.get_declared hp,
    EntityDescription.get?_parent_components, Option.or_none]
  rfl

theorem get_parent_eq_none (hp : p ∈ entities) (hnot : p.1 ∉ linked) :
    w'.get p.2 .parent = none := by
  have hother : ∀ x ∈ linked, (entities.map nameOf).lookup x.name ≠ some p.2 := by
    intro x hx hname
    obtain ⟨q, hq, hqname, heq⟩ := h.lookup_iff.mp hname
    obtain rfl := List.inj_on_of_nodup_map h.declares.nodup hq hp heq
    have hbuilt : q.1 ∈ built := h.described ▸ List.mem_map_of_mem hp
    have hsame := List.inj_on_of_nodup_map h.names_nodup hbuilt (h.subset hx) hqname
    exact hnot (hsame ▸ hx)
  rw [h.get_entity hp, World.get, h.links.others p.2 hother]
  exact (h.get_declared hp .parent).trans (EntityDescription.get?_parent_components p.1)

theorem residue : Residue built linked families w entities holders w' where
  sound := h.holds.sound
  described := h.described
  becomes := h.becomes
  nodup := by
    refine List.nodup_append.mpr ⟨h.declares.nodup, h.holds.nodup, fun e he e' he' heq => ?_⟩
    exact h.not_mem_entities he' (heq ▸ he)
  fresh _ := h.fresh
  alive_iff _ := h.alive_iff
  holds p hp k hk := by
    rw [h.get_entity hp, h.links.kept p.2 k hk, h.get_declared hp,
      EntityDescription.get?_components _ _ hk]
  parent _ := h.get_parent
  no_parent _ := h.get_parent_eq_none
  held := h.holds.placed
  kept _ := h.kept
  slots i p hp := by
    have hlength : entities.length = built.length := by rw [← h.described, List.length_map]
    rw [h.holds.slots i p hp, h.links.supply, h.declares.supply, hlength]

end Stages

/-! ## Spawns that succeed -/

theorem declared_of_ok (hw : w.Sound) {ds : List EntityDescription}
    (h : declare w [] ds = (.ok named, w')) (hroom : w'.HasRoom) :
    ∃ entities, named = entities.map nameOf ∧ entities.map Prod.fst = ds ∧
      (ds.map EntityDescription.name).Nodup ∧
      w.SpawnsEach EntityDescription.components entities w' := by
  obtain ⟨rfl, rfl, -, hnames⟩ := declare_eq_ok h
  exact ⟨_, rfl, w.map_fst_spawnEach _ _, hnames, w.spawnsEach hw _ _ hroom⟩

theorem held_of_ok (hw : w.Sound) {fs : List FamilyDescription}
    (h : holdFamilies w named fs = (.ok (), w')) (hroom : w'.HasRoom) :
    ∃ holders, List.Forall₂ (FamilyDescription.Becomes named) fs (holders.map Prod.fst) ∧
      w.SpawnsEach holderComponents holders w' := by
  obtain ⟨families, hfamilies, rfl⟩ := holdFamilies_eq_ok h
  refine ⟨_, ?_, w.spawnsEach hw _ _ hroom⟩
  rwa [w.map_fst_spawnEach]

theorem residue_of_ok (hw : w.Sound) {d : SceneDescription}
    (h : (d.spawnInto w).value = (.ok named, w')) (hroom : w'.HasRoom) :
    ∃ entities holders, named = entities.map nameOf ∧
      (d.entities.map EntityDescription.name).Nodup ∧
      (∀ x ∈ d.entities, ∀ name, x.parent = some name →
        ∃ parent, (entities.map nameOf).lookup name = some parent) ∧
      Residue d.entities d.entities d.families w entities holders w' := by
  obtain ⟨w₁, w₂, hdeclare, hlinks, hhold⟩ := spawnInto_eq_ok h
  have hlinked := via_linkAll w₁ named d.entities
  have hheld := via_holdFamilies w₂ named d.families
  rw [hlinks] at hlinked
  rw [hhold] at hheld
  -- there is room at every stage, as there is at the end
  have hroom₂ := hroom.of_via hheld
  obtain ⟨entities, rfl, hdescribed, hnames, hentities⟩ :=
    declared_of_ok hw hdeclare (hroom₂.of_via hlinked)
  have hparents := linked_linkAll hentities.sound hnames
    (lookup_injective hdescribed hnames hentities.nodup) hlinks
  obtain ⟨holders, hfamilies, hholders⟩ := held_of_ok hparents.sound hhold hroom
  have hstages : Stages d.entities d.entities d.families w entities w₁ w₂ holders w' :=
    ⟨hdescribed, hnames, List.Subset.refl _, hfamilies, hentities, hparents, hholders⟩
  exact ⟨entities, holders, rfl, hnames, hparents.known, hstages.residue⟩

end SceneDescription

end SceneBridge
