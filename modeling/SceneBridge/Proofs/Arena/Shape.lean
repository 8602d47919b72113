import Mathlib.Data.List.Basic
import SceneBridge.Proofs.Arena

/-!
# The shape of an arena

Which slot an arena hands out next, and which handles are live, does not depend on what the slots
hold: `Arena.shape` forgets the payloads, and allocation and release on it are those of the arena.
Whatever is done to an arena is an `Arena.Step`, and the number of live slots that it keeps is right
after any of them (`Arena.Step.counted`).
-/

namespace SceneBridge

variable {α : Type}

def Slot.isLive (s : Slot α) : Bool := s.occupant.isSome

def Slot.shape (s : Slot α) : Slot Unit := ⟨s.generation, s.occupant.map fun _ => ()⟩

namespace Arena

/-! ## Payloads forgotten -/

def shape (a : Arena α) : Arena Unit where
  slots := a.slots.map Slot.shape
  vacant := a.vacant
  liveCount := a.liveCount

theorem shape_empty : (empty : Arena α).shape = empty := by simp [shape, empty]

theorem shape_allocate (a : Arena α) (x : α) :
    a.shape.allocate () = ((a.allocate x).1, (a.allocate x).2.shape) := by
  obtain ⟨slots, vacant, liveCount⟩ := a
  cases vacant with
  | nil => simp [allocate, shape, Slot.shape]
  | cons index rest =>
    cases hslot : slots[index.toNat]? with
    | none => simp [allocate, shape, Slot.shape, hslot]
    | some slot => simp [allocate, shape, Slot.shape, hslot]

theorem get?_shape (a : Arena α) (e : Entity) : a.shape.get? e = (a.get? e).map fun _ => () := by
  unfold get?
  split
  · rfl
  · simp only [shape, Array.getElem?_map]
    cases hslot : a.slots[e.index.toNat]? with
    | none => rfl
    | some slot =>
      show (if slot.generation = e.generation then slot.occupant.map fun _ => () else none) = _
      by_cases hg : slot.generation = e.generation
      · simp [hg]
      · simp [hg]

theorem isAlive_shape (a : Arena α) (e : Entity) : a.shape.isAlive e = a.isAlive e := by
  rw [isAlive, isAlive, get?_shape, Option.isSome_map]

theorem free?_shape (a : Arena α) (e : Entity) : a.shape.free? e = (a.free? e).map shape := by
  unfold free?
  rw [isAlive_shape]
  split
  · simp [shape, Slot.shape]
  · rfl

theorem slot_of_alive {a : Arena α} {e : Entity} (h : a.isAlive e = true) :
    ∃ x, a.slots[e.index.toNat]? = some ⟨e.generation, some x⟩ := by
  obtain ⟨x, hx⟩ := isAlive_iff.mp h
  exact ⟨x, (get?_eq_some_iff.mp hx).2⟩

theorem eq_of_index_eq {a : Arena α} {e f : Entity} (he : a.isAlive e = true)
    (hf : a.isAlive f = true) (h : e.index = f.index) : e = f := by
  obtain ⟨x, hx⟩ := slot_of_alive he
  obtain ⟨y, hy⟩ := slot_of_alive hf
  rw [h, hy] at hx
  obtain ⟨hgeneration, -⟩ := Slot.mk.inj (Option.some.inj hx)
  cases e
  cases f
  simp_all

theorem shape_set (a : Arena α) (e : Entity) (x : α) : (a.set e x).shape = a.shape := by
  unfold set
  split
  · next halive =>
    obtain ⟨y, hslot⟩ := slot_of_alive halive
    have hsame : (a.slots.setIfInBounds e.index.toNat ⟨e.generation, some x⟩).map Slot.shape =
        a.slots.map Slot.shape := by
      refine Array.ext (by simp) fun i _ hi => ?_
      have hi : i < a.slots.size := by simpa using hi
      simp only [Array.getElem_map]
      rw [Array.getElem_setIfInBounds hi]
      split
      · next heq =>
        subst heq
        rw [(Array.getElem?_eq_some_iff.mp hslot).2]
        rfl
      · rfl
    rw [shape, shape, hsame]
  · rfl

theorem live_eq (a : Arena α) : a.live =
    a.slots.toList.zipIdx.filterMap fun p =>
      if p.2 < UInt32.size && p.1.isLive then some ⟨UInt32.ofNat p.2, p.1.generation⟩
      else none := by
  rw [live, entries, List.map_filterMap]
  refine List.filterMap_congr fun p _ => ?_
  obtain ⟨⟨generation, occupant⟩, index⟩ := p
  by_cases hindex : index < UInt32.size
  · cases occupant with
    | none => simp [hindex, Slot.isLive]
    | some x => simp [hindex, Slot.isLive]
  · simp [hindex]

theorem live_shape (a : Arena α) : a.shape.live = a.live := by
  have hlive : ∀ slot : Slot α, slot.shape.isLive = slot.isLive := fun slot => Option.isSome_map
  rw [live_eq, live_eq, shape, Array.toList_map, List.zipIdx_map, List.filterMap_map]
  refine List.filterMap_congr fun p _ => ?_
  simp only [Function.comp_apply, Prod.map_fst, Prod.map_snd, hlive, id_eq]
  rfl

/-! ## Steps -/

inductive Step (a : Arena α) : Arena α → Prop
  | idle : Step a a
  | allocate (x : α) : Step a (a.allocate x).2
  | set (e : Entity) (x : α) : Step a (a.set e x)
  | free {a' : Arena α} {e : Entity} (h : a.free? e = some a') : Step a a'

theorem Step.sound {a a' : Arena α} (h : Step a a') (ha : a.Sound) : a'.Sound := by
  cases h with
  | idle => exact ha
  | allocate x => exact ha.allocate x
  | set e x => exact ha.set e x
  | free h => exact ha.free h

theorem Step.slots_size {a a' : Arena α} (h : Step a a') : a.slots.size ≤ a'.slots.size := by
  cases h with
  | idle => exact Nat.le_refl _
  | allocate x => exact slots_size_le_allocate a x
  | set e x => exact Nat.le_of_eq (slots_size_set a e x).symm
  | free h => exact Nat.le_of_eq (slots_size_free h).symm

/-! ## Counting -/

/-- The number that an arena keeps is that of its live slots. -/
def Counted (a : Arena α) : Prop := a.liveCount = a.slots.countP Slot.isLive

theorem counted_empty : (empty : Arena α).Counted := rfl

theorem countP_write {slots : Array (Slot α)} {i : Nat} {old : Slot α} (h : slots[i]? = some old)
    (new : Slot α) : (slots.setIfInBounds i new).countP Slot.isLive + old.isLive.toNat =
      slots.countP Slot.isLive + new.isLive.toNat := by
  obtain ⟨hbound, rfl⟩ := Array.getElem?_eq_some_iff.mp h
  have hpositive : slots[i].isLive = true → 0 < slots.countP Slot.isLive := fun hlive =>
    Array.countP_pos_iff.mpr ⟨slots[i], Array.getElem_mem hbound, hlive⟩
  rw [Array.setIfInBounds_def, dif_pos hbound, Array.countP_set]
  cases hold : slots[i].isLive with
  | false => cases new.isLive <;> simp
  | true =>
    have hone := hpositive hold
    cases new.isLive
    · simp
      omega
    · simp
      omega

theorem Step.counted {a a' : Arena α} (h : Step a a') (ha : a.Sound) (hcount : a.Counted) :
    a'.Counted := by
  unfold Counted at hcount ⊢
  cases h with
  | idle => exact hcount
  | allocate x =>
    unfold Arena.allocate
    split
    · next index rest hvacant =>
      obtain ⟨generation, hdead⟩ := ha.vacant_dead index (by simp [hvacant])
      have hwrite := countP_write hdead ⟨(a.slots[index.toNat]?.map Slot.generation).getD 0, some x⟩
      simp only [Slot.isLive, Option.isSome_none, Option.isSome_some, Bool.toNat_false,
        Bool.toNat_true, Nat.add_zero] at hwrite
      show a.liveCount + 1 = _
      rw [hcount]
      exact hwrite.symm
    · show a.liveCount + 1 = _
      rw [hcount, Array.countP_push]
      rfl
  | set e x =>
    unfold Arena.set
    split
    · next halive =>
      obtain ⟨y, hslot⟩ := slot_of_alive halive
      have hwrite := countP_write hslot ⟨e.generation, some x⟩
      exact hcount.trans (Nat.add_right_cancel hwrite).symm
    · exact hcount
  | @free a' e h =>
    unfold free? at h
    split at h
    · next halive =>
      obtain ⟨y, hslot⟩ := slot_of_alive halive
      have hwrite := countP_write hslot ⟨e.generation + 1, none⟩
      simp only [Slot.isLive, Option.isSome_none, Option.isSome_some, Bool.toNat_false,
        Bool.toNat_true, Nat.add_zero] at hwrite
      obtain rfl := Option.some.inj h
      show a.liveCount - 1 = _
      rw [hcount]
      exact Nat.sub_eq_of_eq_add hwrite.symm
    · simp at h

theorem Counted.length_live {a : Arena α} (h : a.Counted) (hroom : a.HasRoom) :
    a.live.length = a.liveCount := by
  have hsize : a.slots.toList.length < UInt32.size := by
    rw [Array.length_toList]
    exact Nat.lt_of_lt_of_le hroom (by decide)
  calc a.live.length
      = a.slots.toList.zipIdx.countP fun p => p.1.isLive := by
        rw [live_eq, List.length_filterMap_eq_countP]
        refine List.countP_congr fun p hp => ?_
        have hindex : p.2 < UInt32.size :=
          Nat.lt_trans (List.snd_lt_of_mem_zipIdx hp) (by simpa using hsize)
        simp [hindex]
    _ = (a.slots.toList.zipIdx.map Prod.fst).countP Slot.isLive := by
        rw [List.countP_map]
        rfl
    _ = a.liveCount := by
        rw [List.zipIdx_map_fst, Array.countP_toList]
        exact h.symm

end Arena

end SceneBridge
