import Mathlib.Logic.Function.Basic
import SceneBridge.Proofs.Arena.Shape
import SceneBridge.Proofs.World

/-!
# Changes of a world

A `Change` is a single operation on a world, with whatever handle: dead and made-up ones are
refused, and then nothing changes. `World.get` after a change is `World.get` before it, updated at
one entity. `World.Via` is what a number of changes lead to, one after the other: a world in which
the free list is still in order, and slots have only been added.
-/

namespace SceneBridge

variable {κ : Type} [ProjectKind κ]

/-! ## Views -/

abbrev View (κ : Type) [ProjectKind κ] := Entity → (k : Kind κ) → Option k.Value

/-- Another component, or none, of one kind behind one handle. -/
def View.put (view : View κ) (e : Entity) (k : Kind κ) (x : Option k.Value) : View κ :=
  Function.update view e (Function.update (view e) k x)

theorem View.put_of_ne {view : View κ} {e f : Entity} {k k' : Kind κ} {x : Option k.Value}
    (h : f ≠ e ∨ k' ≠ k) : view.put e k x f k' = view f k' := by
  by_cases hf : f = e
  · subst hf
    rw [put, Function.update_self, Function.update_of_ne (h.resolve_left (absurd rfl))]
  · rw [put, Function.update_of_ne hf]

@[simp] theorem View.put_self (view : View κ) (e : Entity) (k : Kind κ) (x : Option k.Value) :
    view.put e k x e k = x := by
  rw [put, Function.update_self, Function.update_self]

theorem View.put_eq_self {view : View κ} {e : Entity} {k : Kind κ} {x : Option k.Value}
    (h : view e k = x) : view.put e k x = view := by
  rw [put, ← h, Function.update_eq_self, Function.update_eq_self]

theorem Bundle.get?_set (b : Bundle κ) (k : Kind κ) (v : k.Value) :
    (b.set k v).get? = Function.update b.get? k (some v) := by
  funext k'
  by_cases hk : k' = k
  · subst hk
    rw [get?_set_self, Function.update_self]
  · rw [get?_set_of_ne b v hk, Function.update_of_ne hk]

theorem Bundle.get?_erase_eq_update (b : Bundle κ) (k : Kind κ) :
    (b.erase k).get? = Function.update b.get? k none := by
  funext k'
  rw [get?_erase]
  by_cases hk : k' = k
  · subst hk
    rw [if_pos rfl, Function.update_self]
  · rw [if_neg hk, Function.update_of_ne hk]

namespace World

variable {w w' : World κ} {e : Entity} {k : Kind κ} {v : k.Value}

theorem get_eq_of_arena {bundle : Bundle κ} (h : w.arena.get? e = some bundle) :
    w.get e = bundle.get? :=
  funext fun k => get_of_arena h k

theorem get_of_dead (h : w.isAlive e = false) : w.get e = fun _ => none := by
  funext k
  rw [get, isAlive_eq_false_iff.mp h]
  rfl

theorem get_of_view {bundle : Bundle κ}
    (h : ∀ f, w'.arena.get? f = if f = e then some bundle else w.arena.get? f) :
    w'.get = Function.update w.get e bundle.get? := by
  funext f
  by_cases hf : f = e
  · subst hf
    rw [Function.update_self, get_eq_of_arena (by rw [h, if_pos rfl])]
  · funext k
    rw [Function.update_of_ne hf, get, get, h, if_neg hf]

theorem get_spawnWith (hw : w.Sound) (hroom : w.HasRoom) (components : List (Component κ)) :
    (w.spawnWith components).2.get =
      Function.update w.get (w.spawnWith components).1 (Bundle.ofList components).get? :=
  get_of_view (Arena.Sound.get?_allocate_eq hw hroom _)

theorem isAlive_spawnWith_fst (hw : w.Sound) (hroom : w.HasRoom)
    (components : List (Component κ)) : w.isAlive (w.spawnWith components).1 = false :=
  isAlive_eq_false_iff.mpr (Arena.Sound.get?_allocated hw hroom _)

theorem get_instantiate (hw : w.Sound) (hroom : w.HasRoom) {template : Entity}
    (h : (w.instantiate template).value = .ok (e, w')) :
    w.isAlive e = false ∧
      w'.get = Function.update w.get e (Function.update (w.get template) .prefab none) := by
  obtain ⟨bundle, hbundle, hdead, hview⟩ := arena_instantiate hw hroom h
  refine ⟨hdead, ?_⟩
  rw [get_of_view hview, Bundle.get?_erase_eq_update, get_eq_of_arena hbundle]

theorem get_despawn (h : w.despawn? e = some w') :
    w'.get = Function.update w.get e fun _ => none := by
  have hview := arena_despawn_eq h
  funext f
  by_cases hf : f = e
  · subst hf
    rw [Function.update_self]
    exact get_of_dead (isAlive_eq_false_iff.mpr (by rw [hview, if_pos rfl]))
  · funext k
    rw [Function.update_of_ne hf, get, get, hview, if_neg hf]

theorem get_insert (h : w.insert e k v = .ok w') : w'.get = View.put w.get e k (some v) := by
  obtain ⟨bundle, hbundle, hview⟩ := arena_insert h
  rw [get_of_view hview, Bundle.get?_set, View.put, get_eq_of_arena hbundle]

theorem overwrite?_eq_some_iff :
    w.overwrite? e k v = some w' ↔ w.has e k = true ∧ w.insert e k v = .ok w' := by
  unfold overwrite? insert has get
  cases w.arena.get? e with
  | none => simp
  | some bundle =>
    cases hk : bundle.get? k with
    | none => simp [Bundle.has, hk]
    | some old => simp [Bundle.has, hk]

theorem get_remove (w : World κ) (e : Entity) (k : Kind κ) :
    (w.remove e k).1 = w.get e k ∧ (w.remove e k).2.get = View.put w.get e k none := by
  unfold remove
  cases hb : w.arena.get? e with
  | none =>
    have hnone : w.get e k = none := by
      rw [get, hb]
      rfl
    exact ⟨hnone.symm, (View.put_eq_self hnone).symm⟩
  | some bundle =>
    refine ⟨(get_of_arena hb k).symm, ?_⟩
    have hview := Arena.get?_set (Arena.isAlive_iff.mpr ⟨bundle, hb⟩) (bundle.erase k)
    have hget : ({ arena := w.arena.set e (bundle.erase k) } : World κ).get =
        Function.update w.get e (bundle.erase k).get? := get_of_view hview
    rw [Bundle.get?_erase_eq_update, ← get_eq_of_arena hb] at hget
    exact hget

end World

/-! ## Changes -/

/-- A change to a world through a handle, or by a new entity. -/
inductive Change (κ : Type) [ProjectKind κ]
  | build (components : List (Component κ))
  | despawn (e : Entity)
  | insert (e : Entity) (k : Kind κ) (v : k.Value)
  | overwrite (e : Entity) (k : Kind κ) (v : k.Value)
  | remove (e : Entity) (k : Kind κ)
  | instantiate (template : Entity)

def Change.target? : Change κ → Option Entity
  | build _ => none
  | despawn e => some e
  | insert e _ _ => some e
  | overwrite e _ _ => some e
  | remove e _ => some e
  | instantiate _ => none

def Change.kind? : Change κ → Option (Kind κ)
  | build _ => none
  | despawn _ => none
  | insert _ k _ => some k
  | overwrite _ k _ => some k
  | remove _ k => some k
  | instantiate _ => none

namespace World

/-- The world after a change. One that is refused changes nothing. -/
def change (w : World κ) : Change κ → World κ
  | .build components => (w.spawnWith components).2
  | .despawn e => (w.despawn? e).getD w
  | .insert e k v =>
    match w.insert e k v with
    | .ok w' => w'
    | .error _ => w
  | .overwrite e k v => (w.overwrite? e k v).getD w
  | .remove e k => (w.remove e k).2
  | .instantiate template =>
    match (w.instantiate template).value with
    | .ok (_, w') => w'
    | .error _ => w

attribute [local simp] change

variable {w w' : World κ} {e : Entity} {k : Kind κ} {v : k.Value}

theorem change_insert (h : w.insert e k v = .ok w') : w.change (.insert e k v) = w' := by
  simp [h]

theorem change_instantiate {template : Entity}
    (h : (w.instantiate template).value = .ok (e, w')) :
    w.change (.instantiate template) = w' := by
  simp [h]

theorem change_despawn (h : w.despawn? e = some w') : w.change (.despawn e) = w' := by
  simp [h]

theorem change_despawn_of_dead (h : w.isAlive e = false) : w.change (.despawn e) = w := by
  have hnone : w.despawn? e = none := by
    rw [← Option.isNone_iff_eq_none, ← Option.isSome_eq_false_iff, despawn_isSome, h]
  rw [change, hnone]
  rfl

theorem change_insert_of_dead (h : w.isAlive e = false) (k : Kind κ) (v : k.Value) :
    w.change (.insert e k v) = w := by
  rw [change, insert_dead h]

theorem change_overwrite (h : w.has e k = true) :
    w.change (.overwrite e k v) = w.change (.insert e k v) := by
  obtain ⟨w', hinsert⟩ := insert_of_alive (isAlive_of_has h) k v
  have hwrite := overwrite?_eq_some_iff.mpr ⟨h, hinsert⟩
  rw [change_insert hinsert]
  show (w.overwrite? e k v).getD w = w'
  rw [hwrite]
  rfl

theorem change_overwrite_of_absent (h : w.has e k = false) :
    w.change (.overwrite e k v) = w := by
  have hnone : w.overwrite? e k v = none := by
    cases hwrite : w.overwrite? e k v with
    | none => rfl
    | some w' =>
      have hhas := (overwrite?_eq_some_iff.mp hwrite).1
      simp [h] at hhas
  rw [change, hnone]
  rfl

theorem change_instantiate_of_dead {template : Entity} (h : w.isAlive template = false) :
    w.change (.instantiate template) = w := by
  rw [change, instantiate_of_dead h]

theorem step_change (w : World κ) (x : Change κ) : w.arena.Step (w.change x).arena := by
  have hinsert : ∀ e k v, w.arena.Step (w.change (.insert e k v)).arena := by
    intro e k v
    cases halive : w.isAlive e with
    | false =>
      rw [change_insert_of_dead halive]
      exact .idle
    | true =>
      obtain ⟨w', h⟩ := insert_of_alive halive k v
      obtain ⟨bundle, -, harena⟩ := insert_eq_ok h
      rw [change_insert h, harena]
      exact .set e _
  cases x with
  | build components => exact .allocate _
  | despawn e =>
    cases h : w.despawn? e with
    | none =>
      rw [change, h]
      exact .idle
    | some w' =>
      rw [change_despawn h]
      exact .free (despawn_eq_some h)
  | insert e k v => exact hinsert e k v
  | overwrite e k v =>
    cases hhas : w.has e k with
    | false =>
      rw [change_overwrite_of_absent hhas]
      exact .idle
    | true =>
      rw [change_overwrite hhas]
      exact hinsert e k v
  | remove e k =>
    rw [change, remove]
    split
    · exact .set e _
    · exact .idle
  | instantiate template =>
    cases halive : w.isAlive template with
    | false =>
      rw [change_instantiate_of_dead halive]
      exact .idle
    | true =>
      obtain ⟨e, w', h⟩ := instantiate_of_alive halive
      obtain ⟨bundle, -, heq⟩ := instantiate_eq_ok h
      have harena : w'.arena = (w.arena.allocate (bundle.erase .prefab)).2 := congrArg Prod.snd heq
      rw [change_instantiate h, harena]
      exact .allocate _

/-- What a change through a handle shows: nothing more behind that handle, or something else of one
kind. A change that is refused puts what was there. -/
theorem get_change_cases (w : World κ) (x : Change κ) :
    (x.target? = none ∧ x.kind? = none) ∨
      (∃ e, x.target? = some e ∧ x.kind? = none ∧
        (w.change x).get = Function.update w.get e fun _ => none) ∨
      ∃ e k y, x.target? = some e ∧ x.kind? = some k ∧ (w.change x).get = View.put w.get e k y := by
  have hinsert : ∀ e k v, ∃ y, (w.change (.insert e k v)).get = View.put w.get e k y := by
    intro e k v
    cases halive : w.isAlive e with
    | false =>
      rw [change_insert_of_dead halive]
      exact ⟨_, (View.put_eq_self rfl).symm⟩
    | true =>
      obtain ⟨w', h⟩ := insert_of_alive halive k v
      rw [change_insert h]
      exact ⟨_, get_insert h⟩
  cases x with
  | build components => exact .inl ⟨rfl, rfl⟩
  | despawn e =>
    refine .inr (.inl ⟨e, rfl, rfl, ?_⟩)
    cases halive : w.isAlive e with
    | false =>
      rw [change_despawn_of_dead halive, ← get_of_dead halive, Function.update_eq_self]
    | true =>
      obtain ⟨w', h⟩ := Option.isSome_iff_exists.mp ((w.despawn_isSome e).trans halive)
      rw [change_despawn h]
      exact get_despawn h
  | insert e k v =>
    obtain ⟨y, hy⟩ := hinsert e k v
    exact .inr (.inr ⟨e, k, y, rfl, rfl, hy⟩)
  | overwrite e k v =>
    cases hhas : w.has e k with
    | false =>
      rw [change_overwrite_of_absent hhas]
      exact .inr (.inr ⟨e, k, _, rfl, rfl, (View.put_eq_self rfl).symm⟩)
    | true =>
      obtain ⟨y, hy⟩ := hinsert e k v
      rw [change_overwrite hhas]
      exact .inr (.inr ⟨e, k, y, rfl, rfl, hy⟩)
  | remove e k => exact .inr (.inr ⟨e, k, none, rfl, rfl, (w.get_remove e k).2⟩)
  | instantiate template => exact .inl ⟨rfl, rfl⟩

theorem get_change_of_target_ne {x : Change κ} (hx : x.target? = some e) {f : Entity}
    (hne : f ≠ e) : (w.change x).get f = w.get f := by
  rcases w.get_change_cases x with
    ⟨hnone, -⟩ | ⟨e', htarget, -, hget⟩ | ⟨e', k, y, htarget, -, hget⟩
  · simp [hnone] at hx
  · obtain rfl := Option.some.inj (htarget.symm.trans hx)
    rw [hget, Function.update_of_ne hne]
  · obtain rfl := Option.some.inj (htarget.symm.trans hx)
    rw [hget, View.put, Function.update_of_ne hne]

theorem get_change_of_kind_ne {x : Change κ} (hx : x.kind? = some k) (e : Entity) {k' : Kind κ}
    (hne : k' ≠ k) : (w.change x).get e k' = w.get e k' := by
  rcases w.get_change_cases x with ⟨-, hnone⟩ | ⟨e', -, hnone, -⟩ | ⟨e', k, y, -, hkind, hget⟩
  · simp [hnone] at hx
  · simp [hnone] at hx
  · obtain rfl := Option.some.inj (hkind.symm.trans hx)
    rw [hget, View.put_of_ne (.inr hne)]

/-! ## Changes one after the other -/

/-- What every change keeps: the free list is in order, and the number of live entities right. -/
structure Kept (w : World κ) : Prop where
  sound : w.Sound
  counted : w.arena.Counted

theorem kept_empty : (empty : World κ).Kept := ⟨sound_empty, Arena.counted_empty⟩

theorem Kept.change (h : w.Kept) (x : Change κ) : (w.change x).Kept :=
  ⟨(w.step_change x).sound h.sound, (w.step_change x).counted h.sound h.counted⟩

def Via (w w' : World κ) : Prop := ∃ changes : List (Change κ), changes.foldl change w = w'

theorem Via.refl (w : World κ) : w.Via w := ⟨[], rfl⟩

theorem Via.of_change {x : Change κ} (h : w.change x = w') : w.Via w' := ⟨[x], h⟩

theorem Via.trans {w₁ w₂ w₃ : World κ} (h : w₁.Via w₂) (h' : w₂.Via w₃) : w₁.Via w₃ := by
  obtain ⟨changes, rfl⟩ := h
  obtain ⟨changes', rfl⟩ := h'
  exact ⟨changes ++ changes', List.foldl_append⟩

theorem via_foldl {σ α : Type} (world : σ → World κ) {step : σ → α → σ}
    (hstep : ∀ s x, (world s).Via (world (step s x))) (xs : List α) (s : σ) :
    (world s).Via (world (xs.foldl step s)) := by
  induction xs generalizing s with
  | nil => exact .refl (world s)
  | cons x xs ih => exact (hstep s x).trans (ih _)

theorem via_spawnWith (w : World κ) (components : List (Component κ)) :
    w.Via (w.spawnWith components).2 :=
  .of_change (x := .build components) rfl

theorem via_insert (h : w.insert e k v = .ok w') : w.Via w' := .of_change (change_insert h)

theorem via_instantiate {template : Entity} (h : (w.instantiate template).value = .ok (e, w')) :
    w.Via w' :=
  .of_change (change_instantiate h)

theorem via_despawn (h : w.despawn? e = some w') : w.Via w' := .of_change (change_despawn h)

theorem Via.induction {P : World κ → Prop} (h : w.Via w') (hw : P w)
    (hstep : ∀ w x, P w → P (w.change x)) : P w' := by
  obtain ⟨changes, rfl⟩ := h
  exact List.foldlRecOn changes change hw fun w hw x _ => hstep w x hw

theorem Via.sound (h : w.Via w') (hw : w.Sound) : w'.Sound :=
  h.induction hw fun w x => (w.step_change x).sound

theorem Via.kept (h : w.Via w') (hw : w.Kept) : w'.Kept :=
  h.induction hw fun _ x hw => hw.change x

theorem Via.slots (h : w.Via w') : w.arena.slots.size ≤ w'.arena.slots.size :=
  h.induction (P := fun w' => w.arena.slots.size ≤ w'.arena.slots.size) (Nat.le_refl _)
    fun w' x hle => Nat.le_trans hle (w'.step_change x).slots_size

theorem HasRoom.of_via (hroom : w'.HasRoom) (h : w.Via w') : w.HasRoom :=
  Nat.lt_of_le_of_lt h.slots hroom

end World

end SceneBridge
