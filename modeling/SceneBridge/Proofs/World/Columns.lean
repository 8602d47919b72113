import Std.Data.TreeMap
import SceneBridge.Proofs.World.Calls

/-!
# A world by columns

`Columns` keeps the components of a world in one map for each kind, keyed by handles, apart from the
slots. Only insertion and instancing ask whether a handle is alive; building, reading, overwriting
and removing trust the keys. They may, for columns and world show the same after the same changes
(`Columns.Shows.foldl_change`). So every key is a live handle, whatever history of changes led to a
world (`World.wellKept_of_calls`).
-/

namespace SceneBridge

variable {κ : Type} [ProjectKind κ]

/-- Slots without payloads, and a map from handles for each kind of component. -/
structure Columns (κ : Type) [ProjectKind κ] where
  slots : Arena Unit := .empty
  column : (k : Kind κ) → Std.TreeMap Entity k.Value := fun _ => ∅

namespace Columns

def empty : Columns κ := {}

def get (c : Columns κ) : View κ := fun e k => (c.column k)[e]?

/-- Set a key of one column, whether the handle is alive or not. -/
def put (c : Columns κ) (e : Entity) (k : Kind κ) (v : k.Value) : Columns κ :=
  { c with column := Function.update c.column k ((c.column k).insert e v) }

def erase (c : Columns κ) (e : Entity) (k : Kind κ) : Columns κ :=
  { c with column := Function.update c.column k ((c.column k).erase e) }

def build (c : Columns κ) (components : List (Component κ)) : Columns κ :=
  let spawned := c.slots.allocate ()
  components.foldl (fun c x => c.put spawned.1 x.kind x.value) { c with slots := spawned.2 }

/-- A new handle with a copy of what the columns hold for another, the prefab mark apart. -/
def copy (c : Columns κ) (template : Entity) : Columns κ :=
  let spawned := c.slots.allocate ()
  { slots := spawned.2
    column := fun k =>
      if k = .prefab then c.column k
      else
        match (c.column k)[template]? with
        | some v => (c.column k).insert spawned.1 v
        | none => c.column k }

def change (c : Columns κ) : Change κ → Columns κ
  | .build components => c.build components
  | .despawn e =>
    match c.slots.free? e with
    | some slots => { slots, column := fun k => (c.column k).erase e }
    | none => c
  | .insert e k v => if c.slots.isAlive e then c.put e k v else c
  | .overwrite e k v => if (c.get e k).isSome then c.put e k v else c
  | .remove e k => c.erase e k
  | .instantiate template => if c.slots.isAlive template then c.copy template else c

/-! ## What a column shows -/

theorem get_update (c : Columns κ) {e : Entity} {k : Kind κ} {column : Std.TreeMap Entity k.Value}
    {x : Option k.Value}
    (h : ∀ f, column[f]? = if compare e f = .eq then x else (c.column k)[f]?) :
    ({ c with column := Function.update c.column k column } : Columns κ).get =
      c.get.put e k x := by
  funext f k'
  by_cases hk : k' = k
  · subst hk
    show (Function.update c.column k' column k')[f]? = _
    rw [Function.update_self, h]
    by_cases hf : f = e
    · subst hf
      rw [View.put_self, if_pos Std.ReflOrd.compare_self]
    · have hne : compare e f ≠ .eq := fun heq => hf (Std.LawfulEqOrd.eq_of_compare heq).symm
      rw [View.put_of_ne (.inl hf), if_neg hne]
      rfl
  · show (Function.update c.column k column k')[f]? = _
    rw [View.put_of_ne (.inr hk), Function.update_of_ne hk]
    rfl

theorem get_put (c : Columns κ) (e : Entity) (k : Kind κ) (v : k.Value) :
    (c.put e k v).get = c.get.put e k (some v) :=
  c.get_update fun _ => Std.TreeMap.getElem?_insert

theorem get_erase (c : Columns κ) (e : Entity) (k : Kind κ) :
    (c.erase e k).get = c.get.put e k none :=
  c.get_update fun _ => Std.TreeMap.getElem?_erase

theorem slots_foldl_put (c : Columns κ) (e : Entity) (components : List (Component κ)) :
    (components.foldl (fun c x => c.put e x.kind x.value) c).slots = c.slots := by
  induction components generalizing c with
  | nil => rfl
  | cons x components ih => exact ih (c.put e x.kind x.value)

theorem get_foldl_put {c : Columns κ} {e : Entity} {b : Bundle κ} (hb : c.get e = b.get?)
    (components : List (Component κ)) :
    (components.foldl (fun c x => c.put e x.kind x.value) c).get =
      Function.update c.get e (components.foldl (fun b x => b.set x.kind x.value) b).get? := by
  induction components generalizing c b with
  | nil => rw [List.foldl_nil, List.foldl_nil, ← hb, Function.update_eq_self]
  | cons x components ih =>
    have hput := c.get_put e x.kind x.value
    have hset : (c.put e x.kind x.value).get e = (b.set x.kind x.value).get? := by
      rw [hput, View.put, Function.update_self, hb, Bundle.get?_set]
    rw [List.foldl_cons, List.foldl_cons, ih hset, hput, View.put, Function.update_idem]

/-! ## Columns and world -/

structure Shows (c : Columns κ) (w : World κ) : Prop where
  slots : c.slots = w.arena.shape
  get : c.get = w.get

variable {c : Columns κ} {w w' : World κ} {e : Entity}

theorem shows_empty : (empty : Columns κ).Shows .empty := by
  refine ⟨Arena.shape_empty.symm, ?_⟩
  funext e k
  rw [World.get_empty]
  exact Std.TreeMap.getElem?_emptyc

theorem Shows.isAlive (h : c.Shows w) (e : Entity) : c.slots.isAlive e = w.isAlive e := by
  rw [h.slots, Arena.isAlive_shape]
  rfl

theorem Shows.build (h : c.Shows w) (hw : w.Sound) (hroom : w.HasRoom)
    (components : List (Component κ)) :
    (c.build components).Shows (w.spawnWith components).2 := by
  have hallocate : c.slots.allocate () =
      ((w.spawnWith components).1, (w.spawnWith components).2.arena.shape) := by
    rw [h.slots]
    exact Arena.shape_allocate w.arena (Bundle.ofList components)
  have hdead := World.isAlive_spawnWith_fst hw hroom components
  have hbare : c.get (w.spawnWith components).1 = (Bundle.empty : Bundle κ).get? := by
    rw [h.get, World.get_of_dead hdead]
    rfl
  rw [Columns.build, hallocate]
  constructor
  · rw [slots_foldl_put]
  · rw [World.get_spawnWith hw hroom, ← h.get]
    exact get_foldl_put (c := { c with slots := (w.spawnWith components).2.arena.shape }) hbare
      components

theorem Shows.put (h : c.Shows w) {k : Kind κ} {v : k.Value} (hinsert : w.insert e k v = .ok w') :
    (c.put e k v).Shows w' := by
  constructor
  · obtain ⟨bundle, -, harena⟩ := World.insert_eq_ok hinsert
    rw [harena, Arena.shape_set]
    exact h.slots
  · rw [get_put, World.get_insert hinsert, h.get]

theorem Shows.erase (h : c.Shows w) (e : Entity) (k : Kind κ) :
    (c.erase e k).Shows (w.remove e k).2 := by
  constructor
  · unfold World.remove
    split
    · exact h.slots.trans (Arena.shape_set ..).symm
    · exact h.slots
  · rw [get_erase, (World.get_remove w e k).2, h.get]

theorem Shows.despawn (h : c.Shows w) (hdespawn : w.despawn? e = some w') :
    ∃ slots, c.slots.free? e = some slots ∧
      ({ slots, column := fun k => (c.column k).erase e } : Columns κ).Shows w' := by
  refine ⟨w'.arena.shape, ?_, rfl, ?_⟩
  · rw [h.slots, Arena.free?_shape, World.despawn_eq_some hdespawn]
    rfl
  · rw [World.get_despawn hdespawn, ← h.get]
    funext f k
    show ((c.column k).erase e)[f]? = _
    rw [Std.TreeMap.getElem?_erase]
    by_cases hf : f = e
    · subst hf
      rw [if_pos Std.ReflOrd.compare_self, Function.update_self]
    · have hne : compare e f ≠ .eq := fun heq => hf (Std.LawfulEqOrd.eq_of_compare heq).symm
      rw [if_neg hne, Function.update_of_ne hf]
      rfl

theorem Shows.copy (h : c.Shows w) (hw : w.Sound) (hroom : w.HasRoom) {template : Entity}
    (hmade : (w.instantiate template).value = .ok (e, w')) : (c.copy template).Shows w' := by
  obtain ⟨bundle, -, heq⟩ := World.instantiate_eq_ok hmade
  obtain ⟨hdead, hget⟩ := World.get_instantiate hw hroom hmade
  have hallocate : c.slots.allocate () = (e, w'.arena.shape) := by
    rw [h.slots, Arena.shape_allocate w.arena (bundle.erase .prefab), ← heq]
  have hbare : ∀ k, (c.column k)[e]? = none := fun k =>
    (congrFun (congrFun h.get e) k).trans (congrFun (World.get_of_dead hdead) k)
  rw [Columns.copy, hallocate]
  refine ⟨rfl, ?_⟩
  rw [hget, ← h.get]
  funext f k
  show (if k = .prefab then c.column k
    else match (c.column k)[template]? with
      | some v => (c.column k).insert e v
      | none => c.column k)[f]? = _
  by_cases hf : f = e
  · subst hf
    rw [Function.update_self]
    by_cases hk : k = .prefab
    · subst hk
      rw [if_pos rfl, Function.update_self, hbare]
    · rw [if_neg hk, Function.update_of_ne hk]
      show _ = (c.column k)[template]?
      cases htemplate : (c.column k)[template]? with
      | none => exact hbare k
      | some v => exact Std.TreeMap.getElem?_insert_self
  · have hne : compare e f ≠ .eq := fun heq => hf (Std.LawfulEqOrd.eq_of_compare heq).symm
    rw [Function.update_of_ne hf]
    show _ = (c.column k)[f]?
    split
    · rfl
    · split
      · rw [Std.TreeMap.getElem?_insert, if_neg hne]
      · rfl

theorem Shows.change (h : c.Shows w) (hw : w.Sound) (hroom : w.HasRoom) (x : Change κ) :
    (c.change x).Shows (w.change x) := by
  cases x with
  | build components => exact h.build hw hroom components
  | despawn e =>
    cases halive : w.isAlive e with
    | false =>
      have hnone : c.slots.free? e = none := by
        rw [← Option.isNone_iff_eq_none, ← Option.isSome_eq_false_iff, Arena.free?_isSome,
          h.isAlive, halive]
      rw [World.change_despawn_of_dead halive, Columns.change, hnone]
      exact h
    | true =>
      obtain ⟨w', hdespawn⟩ := Option.isSome_iff_exists.mp ((w.despawn_isSome e).trans halive)
      obtain ⟨slots, hslots, hshows⟩ := h.despawn hdespawn
      rw [World.change_despawn hdespawn, Columns.change, hslots]
      exact hshows
  | insert e k v =>
    rw [Columns.change, h.isAlive]
    cases halive : w.isAlive e with
    | false =>
      rw [World.change_insert_of_dead halive]
      exact h
    | true =>
      obtain ⟨w', hinsert⟩ := World.insert_of_alive halive k v
      rw [World.change_insert hinsert]
      exact h.put hinsert
  | overwrite e k v =>
    have hsame : (c.get e k).isSome = w.has e k := by rw [h.get, World.has]
    rw [Columns.change, hsame]
    cases hhas : w.has e k with
    | false =>
      rw [World.change_overwrite_of_absent hhas]
      exact h
    | true =>
      obtain ⟨w', hinsert⟩ := World.insert_of_alive (World.isAlive_of_has hhas) k v
      rw [World.change_overwrite hhas, World.change_insert hinsert]
      exact h.put hinsert
  | remove e k => exact h.erase e k
  | instantiate template =>
    rw [Columns.change, h.isAlive]
    cases halive : w.isAlive template with
    | false =>
      rw [World.change_instantiate_of_dead halive]
      exact h
    | true =>
      obtain ⟨e, w', hmade⟩ := World.instantiate_of_alive halive
      rw [World.change_instantiate hmade]
      exact h.copy hw hroom hmade

theorem Shows.foldl_change (h : c.Shows w) (hw : w.Kept) {changes : List (Change κ)}
    (hroom : (changes.foldl World.change w).HasRoom) :
    (changes.foldl Columns.change c).Shows (changes.foldl World.change w) := by
  induction changes generalizing c w with
  | nil => exact h
  | cons x changes ih =>
    have hhere : w.HasRoom := hroom.of_via ⟨x :: changes, rfl⟩
    exact ih (h.change hw.sound hhere x) (hw.change x) hroom

/-- What columns answer for a world. The order of the keys of a column is nobody's concern: a query
sorts them by slot. -/
structure Answers (c : Columns κ) (w : World κ) : Prop where
  keys_alive : ∀ k e, e ∈ c.column k → w.isAlive e = true
  alive : ∀ e, c.slots.isAlive e = w.isAlive e
  get : ∀ e k, (c.column k)[e]? = w.get e k
  has : ∀ e k, (c.column k).contains e = w.has e k
  query : ∀ k l, l.Perm (c.column k).keys → (l.Pairwise fun e f => e.index ≤ f.index) →
    l = w.query k
  entities : c.slots.live = w.entities
  size : c.slots.liveCount = w.size

theorem Shows.answers (h : c.Shows w) (hroom : w.HasRoom) : c.Answers w := by
  have hget : ∀ e k, (c.column k)[e]? = w.get e k := fun e k => congrFun (congrFun h.get e) k
  have hhas : ∀ e k, (c.column k).contains e = w.has e k := by
    intro e k
    rw [Std.TreeMap.contains_eq_isSome_getElem?, hget, World.has]
  have hkeys : ∀ k e, e ∈ (c.column k).keys ↔ e ∈ w.query k := by
    intro k e
    rw [Std.TreeMap.mem_keys, ← Std.TreeMap.contains_iff_mem, hhas]
    exact ⟨World.mem_query_of_has, World.has_of_mem_query hroom⟩
  refine ⟨fun k e he => ?_, h.isAlive, hget, hhas, fun k l hperm hsorted => ?_, ?_, ?_⟩
  · exact World.isAlive_of_has ((hhas e k).symm.trans (Std.TreeMap.contains_iff_mem.mpr he))
  · have hnodup : l.Nodup := hperm.nodup_iff.mpr Std.TreeMap.nodup_keys
    have hmem : ∀ e, e ∈ l ↔ e ∈ w.query k := fun e => hperm.mem_iff.trans (hkeys k e)
    have halive : ∀ e ∈ w.query k, w.isAlive e = true := fun e he =>
      World.isAlive_of_has (World.has_of_mem_query hroom he)
    refine List.Perm.eq_of_pairwise (fun e f he hf hef hfe => ?_) hsorted
      ((w.pairwise_query k).imp UInt32.le_of_lt)
      ((List.perm_ext_iff_of_nodup hnodup (w.nodup_query k)).mpr hmem)
    -- two keys in one slot would both be alive
    exact Arena.eq_of_index_eq (halive e ((hmem e).mp he)) (halive f hf)
      (UInt32.le_antisymm hef hfe)
  · rw [h.slots, Arena.live_shape]
    rfl
  · rw [h.slots]
    rfl

end Columns

/-! ## Whatever is called -/

namespace World

/-- A world in which recycled slots are told apart, and in which a change stays where it is made. -/
structure WellKept (w : World κ) : Prop where
  reached : ∃ changes : List (Change κ), changes.foldl change .empty = w
  /-- Whatever changes lead to the world lead columns to the same answers. -/
  columns : ∀ changes : List (Change κ), changes.foldl change .empty = w →
    (changes.foldl Columns.change .empty).Answers w
  dead : ∀ e, w.isAlive e = false → ∀ k,
    w.get e k = none ∧ w.has e k = false ∧ w.remove e k = (none, w)
  insert_dead : ∀ e, w.isAlive e = false → ∀ k v,
    w.insert e k v = .error (.entityNotFound e) ∧ w.change (.insert e k v) = w
  /-- Whatever its slot held before, a new entity holds nothing. -/
  spawned : w.isAlive w.spawn.1 = false ∧ ∀ k, w.spawn.2.get w.spawn.1 k = none
  built : ∀ components, w.isAlive (w.spawnWith components).1 = false ∧
    (w.spawnWith components).2.get =
      Function.update w.get (w.spawnWith components).1 (Bundle.ofList components).get?
  instantiated : ∀ template e w', (w.instantiate template).value = .ok (e, w') →
    w.isAlive e = false ∧
      w'.get = Function.update w.get e (Function.update (w.get template) .prefab none)
  query : ∀ k e, e ∈ w.query k ↔ w.isAlive e = true ∧ w.has e k = true
  query_ascending : ∀ k, (w.query k).Pairwise fun e f => e.index < f.index
  entities : ∀ e, e ∈ w.entities ↔ w.isAlive e = true
  entities_ascending : w.entities.Pairwise fun e f => e.index < f.index
  size : w.size = w.entities.length
  isolated : ∀ x e, x.target? = some e → ∀ f, f ≠ e → (w.change x).get f = w.get f
  isolated_kind : ∀ x k, x.kind? = some k → ∀ e k', k' ≠ k → (w.change x).get e k' = w.get e k'
  inserted : ∀ e, w.isAlive e = true → ∀ k v, (w.change (.insert e k v)).get e k = some v
  overwritten : ∀ e k v, (w.change (.overwrite e k v)).get e k = (w.get e k).map fun _ => v
  removed : ∀ e k, (w.remove e k).1 = w.get e k ∧ (w.change (.remove e k)).get e k = none
  despawned : ∀ e, (w.change (.despawn e)).isAlive e = false

variable {w : World κ}

theorem mem_entities_iff (hroom : w.HasRoom) {e : Entity} :
    e ∈ w.entities ↔ w.isAlive e = true := by
  rw [isAlive_iff]
  constructor
  · intro he
    obtain ⟨⟨f, bundle⟩, hentry, rfl⟩ := List.mem_map.mp he
    exact ⟨bundle, Arena.get?_of_mem_entries hroom hentry⟩
  · rintro ⟨bundle, hbundle⟩
    exact List.mem_map.mpr ⟨(e, bundle), Arena.mem_entries_of_get? hbundle, rfl⟩

theorem remove_of_dead {e : Entity} (h : w.isAlive e = false) (k : Kind κ) :
    w.remove e k = (none, w) := by
  rw [remove, isAlive_eq_false_iff.mp h]

theorem get_overwrite (w : World κ) (e : Entity) (k : Kind κ) (v : k.Value) :
    (w.change (.overwrite e k v)).get e k = (w.get e k).map fun _ => v := by
  cases hget : w.get e k with
  | none =>
    have hhas : w.has e k = false := by rw [has, hget]; rfl
    rw [change_overwrite_of_absent hhas, hget]
    rfl
  | some old =>
    have hhas : w.has e k = true := by rw [has, hget]; rfl
    obtain ⟨w', hinsert⟩ := insert_of_alive (isAlive_of_has hhas) k v
    rw [change_overwrite hhas, change_insert hinsert, get_insert hinsert, View.put_self]
    rfl

theorem isAlive_change_despawn (w : World κ) (e : Entity) :
    (w.change (.despawn e)).isAlive e = false := by
  cases halive : w.isAlive e with
  | false =>
    rw [change_despawn_of_dead halive]
    exact halive
  | true =>
    obtain ⟨w', h⟩ := Option.isSome_iff_exists.mp ((w.despawn_isSome e).trans halive)
    rw [change_despawn h, isAlive_eq_false_iff, arena_despawn_eq h, if_pos rfl]

theorem Via.wellKept (h : empty.Via w) (hroom : w.HasRoom) : w.WellKept := by
  have hkept : w.Kept := h.kept kept_empty
  refine
    { reached := h
      columns := ?_
      dead := fun e he k => ?_
      insert_dead := fun e he k v => ⟨insert_dead he k v, change_insert_of_dead he k v⟩
      spawned := ?_
      built := fun components => ?_
      instantiated := fun template e w' h => get_instantiate hkept.sound hroom h
      query := fun k e => ?_
      query_ascending := w.pairwise_query
      entities := fun e => mem_entities_iff hroom
      entities_ascending := List.pairwise_map.mpr (Arena.pairwise_entries w.arena)
      size := (hkept.counted.length_live hroom).symm
      isolated := fun x e hx f hne => get_change_of_target_ne hx hne
      isolated_kind := fun x k hx e k' hne => get_change_of_kind_ne hx e hne
      inserted := fun e he k v => ?_
      overwritten := w.get_overwrite
      removed := fun e k => ?_
      despawned := w.isAlive_change_despawn }
  · rintro changes rfl
    exact (Columns.shows_empty.foldl_change kept_empty hroom).answers hroom
  · have hnone : w.get e k = none := congrFun (get_of_dead he) k
    exact ⟨hnone, by rw [has, hnone]; rfl, remove_of_dead he k⟩
  · refine ⟨isAlive_spawnWith_fst hkept.sound hroom [], fun k => ?_⟩
    rw [spawn, get_spawnWith hkept.sound hroom, Function.update_self]
    rfl
  · exact ⟨isAlive_spawnWith_fst hkept.sound hroom components,
      get_spawnWith hkept.sound hroom components⟩
  · refine ⟨fun he => ?_, fun he => mem_query_of_has he.2⟩
    have hhas := has_of_mem_query hroom he
    exact ⟨isAlive_of_has hhas, hhas⟩
  · obtain ⟨w', hinsert⟩ := insert_of_alive he k v
    rw [change_insert hinsert, get_insert hinsert, View.put_self]
  · obtain ⟨htaken, hget⟩ := w.get_remove e k
    refine ⟨htaken, ?_⟩
    rw [change, hget, View.put_self]

/-- Whatever is called on a new world, with whatever handles, it stays well kept as long as there is
room for its slots. -/
theorem wellKept_of_calls (calls : List (Call κ))
    (hroom : (calls.foldl call empty : World κ).HasRoom) :
    (calls.foldl call empty : World κ).WellKept :=
  (via_foldl_call empty calls).wellKept hroom

/-- A template is despawned and its slot reused, while writes through its old handle, through a
handle that was never issued and in a playback go on; a description fails half-way. -/
def recyclingCalls : List (Call Empty) :=
  let scene : SceneDescription := { entities := [{ name := "post" }, { name := "post" }] }
  let playback : CommandBuffer :=
    { edits := #[.instantiate ⟨0, 0⟩ none, .setWorldMatrix ⟨0, 0⟩ LocalTransform.identity.toMatrix]
      despawns := #[⟨1, 0⟩, ⟨7, 7⟩] }
  [.change (.build [⟨.name, "lamp"⟩, ⟨.prefab, ()⟩]), .change (.instantiate ⟨0, 0⟩),
    .change (.despawn ⟨0, 0⟩), .change (.build []), .change (.insert ⟨0, 0⟩ .name "ghost"),
    .change (.overwrite ⟨7, 7⟩ .name "ghost"), .spawnInto scene, .play playback]

def recycledWorld : World Empty := recyclingCalls.foldl call empty

/-- The entity in the reused slot is bare, and no column keeps the old handle to it or the one that
was never issued. -/
theorem recycledWorld_wellKept :
    recycledWorld.HasRoom ∧ recycledWorld.entities = [⟨0, 1⟩, ⟨2, 0⟩] ∧
      recycledWorld.query .name = [⟨2, 0⟩] ∧ recycledWorld.WellKept ∧
      ∀ changes : List (Change Empty), changes.foldl change empty = recycledWorld →
        ∀ e ∈ [(⟨0, 0⟩ : Entity), ⟨7, 7⟩], ∀ k,
          e ∉ (changes.foldl Columns.change .empty).column k := by
  have hroom : recycledWorld.HasRoom := by
    unfold World.HasRoom Arena.HasRoom
    decide +kernel
  have hkept : recycledWorld.WellKept := wellKept_of_calls recyclingCalls hroom
  have hdead : ∀ e ∈ [(⟨0, 0⟩ : Entity), ⟨7, 7⟩], recycledWorld.isAlive e = false := by
    decide +kernel
  refine ⟨hroom, by decide +kernel, by decide +kernel, hkept, ?_⟩
  intro changes hchanges e he k hkey
  have halive := (hkept.columns changes hchanges).keys_alive k e hkey
  simp [hdead e he] at halive

end World

end SceneBridge
