import SceneBridge.Proofs.SceneDescription.Residue
import SceneBridge.Proofs.TemplateRegistry

/-!
# What a spawned description has become

A description that is accepted turns into a row of entities and, behind it, a row of holders, one
for each family. `SceneDescription.Spawned` says what they hold and that nothing else has changed;
`SceneDescription.exists_spawned` that every spawn that succeeds ends there.
-/

namespace SceneBridge.SceneDescription

variable {κ : Type} [ProjectKind κ] {w w' : World κ} {named : NamedEntities}

/-- What a description has become in a world: each entity with the one described, and each holder
with its family. -/
structure Spawned (d : SceneDescription) (w : World κ) (named : NamedEntities)
    (entities : List (EntityDescription × Entity)) (holders : List (TemplateFamily × Entity))
    (w' : World κ) : Prop where
  sound : w'.Sound
  described : entities.map Prod.fst = d.entities
  named_eq : named = entities.map nameOf
  names_nodup : (d.entities.map EntityDescription.name).Nodup
  known : ∀ x ∈ d.entities, ∀ name, x.parent = some name → ∃ parent, named.lookup name = some parent
  families : List.Forall₂ (FamilyDescription.Becomes named) d.families (holders.map Prod.fst)
  nodup : (entities.map Prod.snd ++ holders.map Prod.snd).Nodup
  fresh : ∀ e ∈ entities.map Prod.snd ++ holders.map Prod.snd, w.isAlive e = false
  alive : ∀ p ∈ entities, w'.isAlive p.2 = true
  holds : ∀ p ∈ entities, ∀ k, w'.get p.2 k = p.1.holds named k
  held : ∀ p ∈ holders, w'.arena.get? p.2 = some (Bundle.ofList (holderComponents p.1))
  kept : ∀ f, f ∉ entities.map Prod.snd → f ∉ holders.map Prod.snd →
    w'.arena.get? f = w.arena.get? f
  /-- The holders are spawned behind the entities. -/
  slots : ∀ (i : Nat) p, holders[i]? = some p →
    p.2.index.toNat = w.arena.supply (d.entities.length + i)

namespace Spawned

variable {d : SceneDescription} {entities : List (EntityDescription × Entity)}
variable {holders : List (TemplateFamily × Entity)}

theorem lookup_iff (h : Spawned d w named entities holders w') {name : String} {e : Entity} :
    named.lookup name = some e ↔ ∃ p ∈ entities, p.1.name = name ∧ p.2 = e := by
  rw [h.named_eq]
  exact lookup_map_nameOf h.described h.names_nodup

theorem lookup_name (h : Spawned d w named entities holders w')
    {p : EntityDescription × Entity} (hp : p ∈ entities) : named.lookup p.1.name = some p.2 :=
  h.lookup_iff.mpr ⟨p, hp, rfl, rfl⟩

theorem entities_nodup (h : Spawned d w named entities holders w') :
    (entities.map Prod.snd).Nodup :=
  (List.nodup_append.mp h.nodup).1

theorem holders_nodup (h : Spawned d w named entities holders w') :
    (holders.map Prod.snd).Nodup :=
  (List.nodup_append.mp h.nodup).2.1

theorem name_eq (h : Spawned d w named entities holders w') {name name' : String} {e : Entity}
    (hname : named.lookup name = some e) (hname' : named.lookup name' = some e) : name = name' := by
  rw [h.named_eq] at hname hname'
  exact lookup_injective h.described h.names_nodup h.entities_nodup name name' e hname hname'

theorem exists_entity (h : Spawned d w named entities holders w') {x : EntityDescription}
    (hx : x ∈ d.entities) : ∃ e, (x, e) ∈ entities := by
  rw [← h.described] at hx
  obtain ⟨p, hp, rfl⟩ := List.mem_map.mp hx
  exact ⟨p.2, hp⟩

theorem mem_described (h : Spawned d w named entities holders w')
    {p : EntityDescription × Entity} (hp : p ∈ entities) : p.1 ∈ d.entities := by
  rw [← h.described]
  exact List.mem_map_of_mem hp

theorem exists_mem_iff (h : Spawned d w named entities holders w') {P : EntityDescription → Prop}
    {e : Entity} : (∃ p ∈ entities, p.2 = e ∧ P p.1) ↔
      ∃ x ∈ d.entities, P x ∧ named.lookup x.name = some e := by
  constructor
  · rintro ⟨p, hp, rfl, hP⟩
    exact ⟨p.1, h.mem_described hp, hP, h.lookup_name hp⟩
  · rintro ⟨x, hx, hP, hlookup⟩
    obtain ⟨f, hf⟩ := h.exists_entity hx
    have hsame := (h.lookup_name hf).symm.trans hlookup
    exact ⟨(x, f), hf, Option.some.inj hsame, hP⟩

theorem map_fst_named (h : Spawned d w named entities holders w') :
    named.map Prod.fst = d.entities.map EntityDescription.name := by
  rw [h.named_eq, ← h.described, List.map_map, List.map_map]
  rfl

theorem map_snd_named (h : Spawned d w named entities holders w') :
    named.map Prod.snd = entities.map Prod.snd := by
  rw [h.named_eq, List.map_map]
  rfl

/-! ### Families -/

theorem familyOf_eq_some_iff (h : Spawned d w named entities holders w')
    (hnone : ∀ e, w.get e .templateFamily = none) {f : TemplateFamily} {e : Entity} :
    w'.familyOf e = some f ↔ (f, e) ∈ holders := by
  constructor
  · intro he
    by_cases hentity : e ∈ entities.map Prod.snd
    · obtain ⟨p, hp, rfl⟩ := List.mem_map.mp hentity
      have hholds := h.holds p hp .templateFamily
      rw [World.familyOf, hholds] at he
      simp [EntityDescription.holds] at he
    · by_cases hholder : e ∈ holders.map Prod.snd
      · obtain ⟨p, hp, rfl⟩ := List.mem_map.mp hholder
        have hfamily : w'.familyOf p.2 = some p.1 := World.get_of_arena (h.held p hp) _
        obtain rfl := Option.some.inj (hfamily.symm.trans he)
        exact hp
      · have hkept := h.kept e hentity hholder
        rw [World.familyOf, World.get, hkept] at he
        have hold := hnone e
        rw [World.get, he] at hold
        simp at hold
  · intro hmem
    exact World.get_of_arena (h.held _ hmem) _

theorem map_familyId (h : Spawned d w named entities holders w') :
    (holders.map Prod.fst).map TemplateFamily.familyId =
      d.families.map FamilyDescription.familyId := by
  rw [← List.forall₂_eq_eq_eq, List.forall₂_map_left_iff, List.forall₂_map_right_iff]
  exact h.families.flip.imp fun _ _ hbecomes => hbecomes.1

theorem declared_id_iff (h : Spawned d w named entities holders w')
    (hnone : ∀ e, w.get e .templateFamily = none) {id : Int32} :
    (∃ f ∈ w'.declared, f.familyId = id) ↔ ∃ family ∈ d.families, family.familyId = id := by
  have hids : id ∈ (holders.map Prod.fst).map TemplateFamily.familyId ↔
      id ∈ d.families.map FamilyDescription.familyId := by rw [h.map_familyId]
  simp only [List.mem_map] at hids
  rw [← hids]
  simp only [World.mem_declared, h.familyOf_eq_some_iff hnone, Prod.exists, exists_and_right,
    exists_eq_right]

end Spawned

theorem Spawned.of_residue {d : SceneDescription}
    {entities : List (EntityDescription × Entity)} {holders : List (TemplateFamily × Entity)}
    (h : Residue d.entities d.entities d.families w entities holders w')
    (hnames : (d.entities.map EntityDescription.name).Nodup)
    (hknown : ∀ x ∈ d.entities, ∀ name, x.parent = some name →
      ∃ parent, (entities.map nameOf).lookup name = some parent) :
    Spawned d w (entities.map nameOf) entities holders w' := by
  refine ⟨h.sound, h.described, rfl, hnames, hknown, h.becomes, h.nodup, h.fresh,
    fun p hp => ?_, fun p hp k => ?_, h.held, h.kept, h.slots⟩
  · exact (h.alive_iff p.2).mpr (.inr (List.mem_append_left _ (List.mem_map_of_mem hp)))
  · by_cases hk : k = .parent
    · subst hk
      exact h.parent p hp (h.described ▸ List.mem_map_of_mem hp)
    · exact h.holds p hp k hk

theorem exists_spawned (hw : w.Sound) {d : SceneDescription}
    (h : (d.spawnInto w).value = (.ok named, w')) (hroom : w'.HasRoom) :
    ∃ entities holders, Spawned d w named entities holders w' := by
  obtain ⟨entities, holders, rfl, hnames, hknown, hresidue⟩ := residue_of_ok hw h hroom
  exact ⟨entities, holders, .of_residue hresidue hnames hknown⟩

end SceneBridge.SceneDescription
