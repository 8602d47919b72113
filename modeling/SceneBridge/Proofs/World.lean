import SceneBridge.CommandBuffer
import SceneBridge.Proofs.Arena

/-!
# World laws

What each operation on a world leaves alone, seen through `World.get` and `World.isAlive`.
`World.Sound` holds of every world that the operations produce.
-/

namespace SceneBridge

variable {κ : Type} [ProjectKind κ]

namespace World

def Sound (w : World κ) : Prop := w.arena.Sound

theorem sound_empty : (empty : World κ).Sound := Arena.sound_empty

theorem isAlive_iff {w : World κ} {e : Entity} :
    w.isAlive e = true ↔ ∃ bundle, w.arena.get? e = some bundle :=
  Arena.isAlive_iff

theorem get_of_arena {w : World κ} {e : Entity} {bundle : Bundle κ}
    (h : w.arena.get? e = some bundle) (k : Kind κ) : w.get e k = bundle.get? k := by
  rw [get, h]
  rfl

theorem isAlive_of_has {w : World κ} {e : Entity} {k : Kind κ} (h : w.has e k = true) :
    w.isAlive e = true := by
  obtain ⟨v, hv⟩ := Option.isSome_iff_exists.mp h
  exact isAlive_of_get hv

/-! ## Extension -/

/-- Whatever is alive stays alive, with the components it has. -/
def Extends (w w' : World κ) : Prop :=
  ∀ e bundle, w.arena.get? e = some bundle → w'.arena.get? e = some bundle

theorem Extends.isAlive {w w' : World κ} (h : w.Extends w') {e : Entity}
    (he : w.isAlive e = true) : w'.isAlive e = true := by
  obtain ⟨bundle, hb⟩ := isAlive_iff.mp he
  exact isAlive_iff.mpr ⟨bundle, h e bundle hb⟩

theorem Extends.get {w w' : World κ} (h : w.Extends w') {e : Entity}
    (he : w.isAlive e = true) (k : Kind κ) : w'.get e k = w.get e k := by
  obtain ⟨bundle, hb⟩ := isAlive_iff.mp he
  rw [get_of_arena hb, get_of_arena (h e bundle hb)]

theorem instantiate_eq_ok {w w' : World κ} {template e : Entity}
    (h : (w.instantiate template).value = .ok (e, w')) :
    ∃ bundle, w.arena.get? template = some bundle ∧
      (e, w'.arena) = w.arena.allocate (bundle.erase .prefab) := by
  unfold instantiate at h
  split at h
  · simp at h
  · next bundle hb =>
    simp only [Logged.value_bind, Logged.value_pure, Except.ok.injEq, Prod.mk.injEq] at h
    obtain ⟨rfl, rfl⟩ := h
    exact ⟨bundle, hb, rfl⟩

theorem extends_instantiate {w w' : World κ} (hw : w.Sound) {template e : Entity}
    (h : (w.instantiate template).value = .ok (e, w')) : w.Extends w' := by
  obtain ⟨bundle, -, heq⟩ := instantiate_eq_ok h
  intro f b hb
  rw [show w'.arena = _ from congrArg Prod.snd heq]
  exact Arena.get?_allocate hw _ hb

/-! ## Writing components -/

theorem insert_eq_ok {w w' : World κ} {e : Entity} {k : Kind κ} {v : k.Value}
    (h : w.insert e k v = .ok w') :
    ∃ bundle, w.arena.get? e = some bundle ∧ w'.arena = w.arena.set e (bundle.set k v) := by
  unfold insert at h
  split at h
  · next bundle hb =>
    obtain rfl := Except.ok.inj h
    exact ⟨bundle, hb, rfl⟩
  · simp at h

theorem isAlive_insert {w w' : World κ} {e : Entity} {k : Kind κ} {v : k.Value}
    (h : w.insert e k v = .ok w') (f : Entity) : w'.isAlive f = w.isAlive f := by
  obtain ⟨bundle, hb, heq⟩ := insert_eq_ok h
  have halive := Arena.isAlive_iff.mpr ⟨bundle, hb⟩
  rw [isAlive, isAlive, Arena.isAlive, Arena.isAlive, heq, Arena.get?_set halive]
  split
  · next hf => rw [hf, hb]; rfl
  · rfl

theorem get_insert_of_ne {w w' : World κ} {e : Entity} {k : Kind κ} {v : k.Value}
    (h : w.insert e k v = .ok w') {f : Entity} {k' : Kind κ} (hne : f ≠ e ∨ k' ≠ k) :
    w'.get f k' = w.get f k' := by
  obtain ⟨bundle, hb, heq⟩ := insert_eq_ok h
  have halive := Arena.isAlive_iff.mpr ⟨bundle, hb⟩
  by_cases hf : f = e
  · subst hf
    have hk : k' ≠ k := hne.resolve_left (fun h => h rfl)
    rw [get, heq, Arena.get?_set halive, if_pos rfl, get_of_arena hb]
    exact Bundle.get?_set_of_ne bundle v hk
  · rw [get, get, heq, Arena.get?_set halive, if_neg hf]

/-! ## Despawning -/

theorem despawn_eq_some {w w' : World κ} {d : Entity} (h : w.despawn? d = some w') :
    w.arena.free? d = some w'.arena := by
  obtain ⟨arena, ha, rfl⟩ := Option.map_eq_some_iff.mp h
  exact ha

theorem arena_despawn {w w' : World κ} {d : Entity} (h : w.despawn? d = some w') {e : Entity}
    (hne : e ≠ d) {bundle : Bundle κ} (he : w.arena.get? e = some bundle) :
    w'.arena.get? e = some bundle :=
  Arena.get?_free (despawn_eq_some h) hne he

/-! ## Whole effects -/

def HasRoom (w : World κ) : Prop := w.arena.HasRoom

theorem isAlive_eq_false_iff {w : World κ} {e : Entity} :
    w.isAlive e = false ↔ w.arena.get? e = none := by
  rw [isAlive, Arena.isAlive, Option.isSome_eq_false_iff, Option.isNone_iff_eq_none]

theorem arena_instantiate {w w' : World κ} (hw : w.Sound) (hroom : w.HasRoom)
    {template e : Entity} (h : (w.instantiate template).value = .ok (e, w')) :
    ∃ bundle, w.arena.get? template = some bundle ∧ w.isAlive e = false ∧
      ∀ f, w'.arena.get? f = if f = e then some (bundle.erase .prefab) else w.arena.get? f := by
  obtain ⟨bundle, hb, heq⟩ := instantiate_eq_ok h
  obtain ⟨rfl, harena⟩ := Prod.mk.inj heq
  refine ⟨bundle, hb, ?_, fun f => ?_⟩
  · rw [isAlive_eq_false_iff]
    exact Arena.Sound.get?_allocated hw hroom _
  · rw [harena]
    exact Arena.Sound.get?_allocate_eq hw hroom _ f

theorem instantiate_of_dead {w : World κ} {template : Entity} (h : w.isAlive template = false) :
    (w.instantiate template).value = .error (.templateNotFound template) := by
  rw [instantiate, isAlive_eq_false_iff.mp h]
  rfl

theorem instantiate_of_alive {w : World κ} {template : Entity} (h : w.isAlive template = true) :
    ∃ e w', (w.instantiate template).value = .ok (e, w') := by
  obtain ⟨bundle, hb⟩ := isAlive_iff.mp h
  rw [instantiate, hb]
  exact ⟨_, _, rfl⟩

theorem arena_insert {w w' : World κ} {e : Entity} {k : Kind κ} {v : k.Value}
    (h : w.insert e k v = .ok w') :
    ∃ bundle, w.arena.get? e = some bundle ∧
      ∀ f, w'.arena.get? f = if f = e then some (bundle.set k v) else w.arena.get? f := by
  obtain ⟨bundle, hb, heq⟩ := insert_eq_ok h
  refine ⟨bundle, hb, fun f => ?_⟩
  rw [heq]
  exact Arena.get?_set (Arena.isAlive_iff.mpr ⟨bundle, hb⟩) _ f

theorem insert_of_alive {w : World κ} {e : Entity} (h : w.isAlive e = true) (k : Kind κ)
    (v : k.Value) : ∃ w', w.insert e k v = .ok w' := by
  obtain ⟨bundle, hb⟩ := isAlive_iff.mp h
  exact ⟨_, by rw [insert, hb]⟩

theorem arena_despawn_eq {w w' : World κ} {d : Entity} (h : w.despawn? d = some w')
    (f : Entity) : w'.arena.get? f = if f = d then none else w.arena.get? f :=
  Arena.get?_free_eq (despawn_eq_some h) f

theorem despawn_isSome (w : World κ) (d : Entity) : (w.despawn? d).isSome = w.isAlive d := by
  rw [despawn?, Option.isSome_map, Arena.free?_isSome, isAlive]

theorem slots_insert {w w' : World κ} {e : Entity} {k : Kind κ} {v : k.Value}
    (h : w.insert e k v = .ok w') : w'.arena.slots.size = w.arena.slots.size := by
  obtain ⟨bundle, -, heq⟩ := insert_eq_ok h
  rw [heq]
  exact Arena.slots_size_set _ _ _

/-! ## Queries -/

theorem mem_query_of_has {w : World κ} {e : Entity} {k : Kind κ} (h : w.has e k = true) :
    e ∈ w.query k := by
  obtain ⟨bundle, hb⟩ := isAlive_iff.mp (isAlive_of_has h)
  have hk : bundle.has k = true := by
    rwa [has, get_of_arena hb] at h
  refine List.mem_filterMap.mpr ⟨(e, bundle), Arena.mem_entries_of_get? hb, ?_⟩
  simp [hk]

theorem has_of_mem_query {w : World κ} (hroom : w.HasRoom) {e : Entity} {k : Kind κ}
    (h : e ∈ w.query k) : w.has e k = true := by
  obtain ⟨⟨f, bundle⟩, hentry, hfound⟩ := List.mem_filterMap.mp h
  simp only [Option.ite_none_right_eq_some, Option.some.injEq] at hfound
  obtain ⟨hk, rfl⟩ := hfound
  rw [has, get_of_arena (Arena.get?_of_mem_entries hroom hentry)]
  exact hk

theorem pairwise_query (w : World κ) (k : Kind κ) :
    (w.query k).Pairwise fun e f => e.index < f.index := by
  refine List.Pairwise.filterMap _ ?_ (Arena.pairwise_entries w.arena)
  rintro ⟨e, b⟩ ⟨f, c⟩ hlt e' he f' hf
  simp only [Option.ite_none_right_eq_some, Option.some.injEq] at he hf
  rw [← he.2, ← hf.2]
  exact hlt

theorem nodup_query (w : World κ) (k : Kind κ) : (w.query k).Nodup := by
  refine (pairwise_query w k).imp ?_
  rintro e f hlt rfl
  exact UInt32.lt_irrefl _ hlt

end World

end SceneBridge
