import SceneBridge.Proofs.Playback
import SceneBridge.Proofs.SceneDescription.Spawned

/-!
# Families that share an id

Of several families with one id a registry keeps the one whose holder has the lowest slot. The
holders of a description are spawned in order of declaration, but a world hands out vacated slots
first, the last one vacated in front. So the family that is kept is the one whose holder gets the
lowest slot (`families_collected`): the first declared, if no vacated slot is left by then, and
perhaps a later one in a world where entities have been despawned (`later_family_shadows_first`).
-/

namespace SceneBridge

open TemplateRegistry

/-- The template that a family has at a position; a negative position has none. -/
def FamilyDescription.template? (named : NamedEntities) (family : FamilyDescription)
    (index : Int32) : Option Entity :=
  if index < 0 then none
  else (family.templates[index.toInt.toNat]?).bind fun name => named.lookup name

namespace SceneDescription

variable {κ : Type} [ProjectKind κ]

/-- The template behind a reference, by the first family declared under its id. -/
def firstDeclared (d : SceneDescription) (named : NamedEntities) (t : TemplateRef) :
    Option Entity :=
  (d.families.find? fun family => family.familyId == t.familyId).bind fun family =>
    family.template? named t.index

/-- The slot that the holder of the `n`-th family gets. -/
def holderSlot (d : SceneDescription) (w : World κ) (n : Nat) : Nat :=
  w.arena.supply (d.entities.length + n)

/-- The `n`-th family is the one of its id whose holder gets the lowest slot. -/
structure Lowest (d : SceneDescription) (w : World κ) (id : Int32) (n : Nat)
    (family : FamilyDescription) : Prop where
  declared : d.families[n]? = some family
  familyId : family.familyId = id
  below : ∀ (m : Nat) other, d.families[m]? = some other → other.familyId = id → m ≠ n →
    d.holderSlot w n < d.holderSlot w m

/-- The holders of an id get their slots in order of declaration. -/
def InOrder (d : SceneDescription) (w : World κ) (id : Int32) : Prop :=
  ∀ (m n : Nat) family other, d.families[m]? = some family → family.familyId = id →
    d.families[n]? = some other → other.familyId = id → m < n →
      d.holderSlot w m < d.holderSlot w n

/-- What a registry collects from a world into which a description has been spawned. -/
structure CollectsFamilies (d : SceneDescription) (w : World κ) (named : NamedEntities)
    (r : TemplateRegistry) : Prop where
  templates : ∀ family ∈ d.families, ∀ name ∈ family.templates, ∃ e, named.lookup name = some e
  undeclared : ∀ t : TemplateRef, (∀ family ∈ d.families, family.familyId ≠ t.familyId) →
    r.resolve t = none
  declared : ∀ family ∈ d.families, ∃ n lowest, d.Lowest w family.familyId n lowest
  kept : ∀ (t : TemplateRef) n family, d.Lowest w t.familyId n family →
    r.resolve t = family.template? named t.index
  inOrder : ∀ t : TemplateRef, d.InOrder w t.familyId → r.resolve t = d.firstDeclared named t
  /-- With no vacated slot left for the holders the first family counts, whatever its id. -/
  unrecycled : w.arena.vacant.length ≤ d.entities.length →
    ∀ t : TemplateRef, r.resolve t = d.firstDeclared named t

variable {w w' : World κ} {named : NamedEntities} {d : SceneDescription}
variable {entities : List (EntityDescription × Entity)} {holders : List (TemplateFamily × Entity)}

theorem inOrder_of_vacant_le (h : w.arena.vacant.length ≤ d.entities.length) (id : Int32) :
    d.InOrder w id := by
  intro m n _ _ _ _ _ _ hmn
  exact Arena.supply_lt_supply (by omega) (by omega)

theorem InOrder.lowest {id : Int32} (h : d.InOrder w id) {family : FamilyDescription}
    (hfind : d.families.find? (fun family => family.familyId == id) = some family) :
    ∃ n, d.Lowest w id n family := by
  obtain ⟨hid, n, hn, rfl, hbefore⟩ := List.find?_eq_some_iff_getElem.mp hfind
  have hid : d.families[n].familyId = id := by simpa using hid
  have hplace : d.families[n]? = some d.families[n] := List.getElem?_eq_getElem hn
  refine ⟨n, hplace, hid, fun m other hm hother hne => ?_⟩
  have hnot : ¬ m < n := by
    intro hlt
    obtain ⟨hlength, rfl⟩ := List.getElem?_eq_some_iff.mp hm
    have hbad := hbefore m hlt
    simp [hother] at hbad
  exact h n m _ _ hplace hid hm hother (by omega)

theorem Lowest.unique {id : Int32} {m n : Nat} {family other : FamilyDescription}
    (h : d.Lowest w id m family) (h' : d.Lowest w id n other) : family = other := by
  by_cases hmn : m = n
  · subst hmn
    exact Option.some.inj (h.declared.symm.trans h'.declared)
  · have hlt := h.below n other h'.declared h'.familyId (Ne.symm hmn)
    have hgt := h'.below m family h.declared h.familyId hmn
    omega

namespace Spawned

theorem becomes_iff (h : Spawned d w named entities holders w') {n : Nat} :
    (∀ p, holders[n]? = some p → ∃ family, d.families[n]? = some family ∧
      family.Becomes named p.1) ∧
    (∀ family, d.families[n]? = some family → ∃ p, holders[n]? = some p ∧
      family.Becomes named p.1) := by
  obtain ⟨hlength, hbecomes⟩ := List.forall₂_iff_get.mp h.families
  rw [List.length_map] at hlength
  constructor
  · intro p hp
    obtain ⟨hn, rfl⟩ := List.getElem?_eq_some_iff.mp hp
    refine ⟨_, List.getElem?_eq_getElem (hlength ▸ hn), ?_⟩
    simpa using hbecomes n (hlength ▸ hn) (by simpa using hn)
  · intro family hfamily
    obtain ⟨hn, rfl⟩ := List.getElem?_eq_some_iff.mp hfamily
    refine ⟨_, List.getElem?_eq_getElem (hlength ▸ hn), ?_⟩
    simpa using hbecomes n hn (by simpa using hlength ▸ hn)

theorem lowest_of_find? (h : Spawned d w named entities holders w')
    (hnone : ∀ e, w.get e .templateFamily = none) {id : Int32} {f : TemplateFamily}
    (hfind : (w'.declared.find? fun f => f.familyId == id) = some f) :
    ∃ n family, d.Lowest w id n family ∧ family.Becomes named f := by
  obtain ⟨holder, hholder, hid, hfirst⟩ := World.holder_of_find? hfind
  have hmem := (h.familyOf_eq_some_iff hnone).mp hholder
  obtain ⟨n, hn⟩ := List.mem_iff_getElem?.mp hmem
  obtain ⟨family, hfamily, hbecomes⟩ := h.becomes_iff.1 _ hn
  refine ⟨n, family, ⟨hfamily, hbecomes.1.symm.trans hid, fun m other hm hother hne => ?_⟩,
    hbecomes⟩
  obtain ⟨q, hq, hbecomes'⟩ := h.becomes_iff.2 other hm
  have hheld := (h.familyOf_eq_some_iff hnone).mpr (List.mem_of_getElem? hq)
  rcases hfirst q.2 q.1 hheld (hbecomes'.1.trans hother) with heq | hlt
  · -- one holder stands at one place
    have hplaces : (holders.map Prod.snd)[m]? = (holders.map Prod.snd)[n]? := by
      rw [List.getElem?_map, List.getElem?_map, hq, hn, Option.map_some, Option.map_some, heq]
    have hlength : m < (holders.map Prod.snd).length := by
      rw [List.length_map]
      exact (List.getElem?_eq_some_iff.mp hq).1
    exact absurd ((List.getElem?_inj hlength h.holders_nodup).mp hplaces) hne
  · have hslot := h.slots n _ hn
    have hslot' := h.slots m q hq
    rw [holderSlot, holderSlot, ← hslot, ← hslot']
    exact UInt32.lt_iff_toNat_lt.mp hlt

theorem find?_of_declared (h : Spawned d w named entities holders w')
    (hnone : ∀ e, w.get e .templateFamily = none) {family : FamilyDescription}
    (hfamily : family ∈ d.families) :
    ∃ f, (w'.declared.find? fun f => f.familyId == family.familyId) = some f := by
  obtain ⟨n, hn⟩ := List.mem_iff_getElem?.mp hfamily
  obtain ⟨p, hp, hbecomes⟩ := h.becomes_iff.2 family hn
  have hheld := (h.familyOf_eq_some_iff hnone).mpr (List.mem_of_getElem? hp)
  refine Option.isSome_iff_exists.mp (List.find?_isSome.mpr ⟨p.1, ?_, ?_⟩)
  · exact World.mem_declared.mpr ⟨p.2, hheld⟩
  · simpa using hbecomes.1

theorem family?_of_lowest (h : Spawned d w named entities holders w')
    (hnone : ∀ e, w.get e .templateFamily = none) {id : Int32} {n : Nat}
    {family : FamilyDescription} (hlowest : d.Lowest w id n family) :
    ∃ f, family.Becomes named f ∧ (collect w').value.family? id = some f.templates := by
  obtain rfl := hlowest.familyId
  obtain ⟨f, hfind⟩ := h.find?_of_declared hnone (List.mem_of_getElem? hlowest.declared)
  obtain ⟨m, other, hother, hbecomes⟩ := h.lowest_of_find? hnone hfind
  obtain rfl := hlowest.unique hother
  refine ⟨f, hbecomes, ?_⟩
  rw [family?_collect, hfind, Option.map_some]

theorem family?_of_undeclared (h : Spawned d w named entities holders w')
    (hnone : ∀ e, w.get e .templateFamily = none) {id : Int32}
    (hid : ∀ family ∈ d.families, family.familyId ≠ id) :
    (collect w').value.family? id = none := by
  rw [family?_collect, Option.map_eq_none_iff]
  cases hfind : w'.declared.find? fun f => f.familyId == id with
  | none => rfl
  | some f =>
    obtain ⟨n, family, hlowest, -⟩ := h.lowest_of_find? hnone hfind
    exact absurd hlowest.familyId (hid family (List.mem_of_getElem? hlowest.declared))

end Spawned

theorem resolve_of_becomes {r : TemplateRegistry} {t : TemplateRef} {f : TemplateFamily}
    {family : FamilyDescription} (hfamily : r.family? t.familyId = some f.templates)
    (hbecomes : family.Becomes named f) :
    r.resolve t = family.template? named t.index := by
  rw [TemplateRegistry.resolve, FamilyDescription.template?, hfamily, Option.bind_some,
    getElem?_of_forall₂_lookup hbecomes.2]

/-- When a description is spawned into a world in order that holds no families, a registry keeps
for each id the family whose holder gets the lowest slot. -/
theorem families_collected (hw : w.Sound) (hnone : ∀ e, w.get e .templateFamily = none)
    (hspawn : (d.spawnInto w).value = (.ok named, w')) (hroom : w'.HasRoom) :
    d.CollectsFamilies w named (collect w').value := by
  obtain ⟨entities, holders, h⟩ := exists_spawned hw hspawn hroom
  have hundeclared : ∀ t : TemplateRef, (∀ family ∈ d.families, family.familyId ≠ t.familyId) →
      (collect w').value.resolve t = none := by
    intro t ht
    rw [TemplateRegistry.resolve, h.family?_of_undeclared hnone ht, Option.bind_none, ite_self]
  have hkept : ∀ (t : TemplateRef) n family, d.Lowest w t.familyId n family →
      (collect w').value.resolve t = family.template? named t.index := by
    intro t n family hlowest
    obtain ⟨f, hbecomes, hfamily⟩ := h.family?_of_lowest hnone hlowest
    exact resolve_of_becomes hfamily hbecomes
  have hinOrder : ∀ t : TemplateRef, d.InOrder w t.familyId →
      (collect w').value.resolve t = d.firstDeclared named t := by
    intro t ht
    rw [firstDeclared]
    cases hfind : d.families.find? fun family => family.familyId == t.familyId with
    | none =>
      rw [Option.bind_none]
      refine hundeclared t fun family hfamily => ?_
      simpa using List.find?_eq_none.mp hfind family hfamily
    | some family =>
      obtain ⟨n, hlowest⟩ := ht.lowest hfind
      exact hkept t n family hlowest
  refine ⟨?_, hundeclared, ?_, hkept, hinOrder, fun hvacant t => ?_⟩
  · intro family hfamily
    obtain ⟨n, hn⟩ := List.mem_iff_getElem?.mp hfamily
    obtain ⟨p, -, hbecomes⟩ := h.becomes_iff.2 family hn
    exact lookup_of_forall₂_lookup hbecomes.2
  · intro family hfamily
    obtain ⟨f, hfind⟩ := h.find?_of_declared hnone hfamily
    obtain ⟨n, lowest, hlowest, -⟩ := h.lowest_of_find? hnone hfind
    exact ⟨n, lowest, hlowest⟩
  · exact hinOrder t (inOrder_of_vacant_le hvacant t.familyId)

/-! ## A recycled world -/

/-- A world of three slots, all of them vacated; the lowest was vacated first. -/
def vacatedWorld : World Empty :=
  let despawns := [0, 1, 2].foldl (fun b slot => b.recordDespawn ⟨slot, 0⟩) CommandBuffer.empty
  (despawns.play ([[], [], []].foldl (fun w components => (w.spawnWith components).2) .empty)).value.1

theorem reachable_vacatedWorld : vacatedWorld.Reachable :=
  .tail (World.Reachable.spawnAll .refl _) (.play _ _)

theorem get_vacatedWorld (e : Entity) : vacatedWorld.get e .templateFamily = none := by
  have hquery : vacatedWorld.query .templateFamily = [] := by decide +kernel
  cases h : vacatedWorld.get e .templateFamily with
  | none => rfl
  | some f =>
    have hmem := World.mem_query_of_has (Option.isSome_iff_exists.mpr ⟨f, h⟩)
    rw [hquery] at hmem
    simp at hmem

/-- Two families with one id, the second of them empty. -/
def rivalFamilies : SceneDescription where
  entities := [{ name := "lamp" }]
  families := [{ familyId := 7, templates := ["lamp"] }, { familyId := 7, templates := [] }]

def rivalWorld : World Empty := (rivalFamilies.spawnInto vacatedWorld).value.2

theorem rivalFamilies_collected :
    (rivalFamilies.spawnInto vacatedWorld).value = (.ok [("lamp", ⟨2, 1⟩)], rivalWorld) ∧
      rivalFamilies.CollectsFamilies vacatedWorld [("lamp", ⟨2, 1⟩)] (collect rivalWorld).value := by
  have hspawn : (rivalFamilies.spawnInto vacatedWorld).value =
      (.ok [("lamp", ⟨2, 1⟩)], rivalWorld) := Prod.ext (by rfl) rfl
  have hroom : rivalWorld.HasRoom := by
    unfold World.HasRoom Arena.HasRoom
    decide +kernel
  exact ⟨hspawn, families_collected reachable_vacatedWorld.sound get_vacatedWorld hspawn hroom⟩

/-- The holder of the second family gets the slot below that of the first, so the empty family is
kept, though the first declared has the template. -/
theorem later_family_shadows_first :
    vacatedWorld.Reachable ∧ (∀ e, vacatedWorld.get e .templateFamily = none) ∧
      (rivalFamilies.spawnInto vacatedWorld).value.1 = .ok [("lamp", ⟨2, 1⟩)] ∧
      rivalFamilies.firstDeclared [("lamp", ⟨2, 1⟩)] ⟨7, 0⟩ = some ⟨2, 1⟩ ∧
      (collect rivalWorld).value.resolve ⟨7, 0⟩ = none := by
  refine ⟨reachable_vacatedWorld, get_vacatedWorld, by rfl, by decide +kernel, by decide +kernel⟩

end SceneDescription

end SceneBridge
