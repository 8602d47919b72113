import SceneBridge.Arena

/-!
# Arena laws

What allocation and release do to the handles that are live already. `Arena.Sound` is the free-list
invariant behind them: vacant slots are dead, and each is listed once, so that reuse never evicts a
live payload.
-/

namespace SceneBridge.Arena

variable {α : Type}

/-- The stack of vacant slots lists dead slots only, and none of them twice. -/
structure Sound (a : Arena α) : Prop where
  vacant_dead : ∀ i ∈ a.vacant, ∃ generation, a.slots[i.toNat]? = some ⟨generation, none⟩
  vacant_nodup : a.vacant.Nodup

theorem sound_empty : (empty : Arena α).Sound :=
  ⟨fun i hi => by simp [empty] at hi, by simp [empty]⟩

theorem Sound.not_mem_vacant {a : Arena α} (ha : a.Sound) {e : Entity} {x : α}
    (he : a.get? e = some x) : e.index ∉ a.vacant := by
  intro hmem
  obtain ⟨generation, hdead⟩ := ha.vacant_dead e.index hmem
  have hlive := (get?_eq_some_iff.mp he).2
  rw [hdead] at hlive
  simp at hlive

/-! ## Allocation -/

theorem getElem?_write_of_ne {slots : Array (Slot α)} {i j : UInt32} (h : i ≠ j)
    (s : Slot α) : (slots.setIfInBounds i.toNat s)[j.toNat]? = slots[j.toNat]? := by
  have hne : i.toNat ≠ j.toNat := fun e => h (UInt32.toNat_inj.mp e)
  rw [Array.getElem?_setIfInBounds_ne hne]

theorem get?_allocate {a : Arena α} (ha : a.Sound) (x : α) {e : Entity} {y : α}
    (he : a.get? e = some y) : (a.allocate x).2.get? e = some y := by
  obtain ⟨hp, hslot⟩ := get?_eq_some_iff.mp he
  refine get?_eq_some_iff.mpr ⟨hp, ?_⟩
  have hvacant := ha.not_mem_vacant he
  unfold allocate
  split
  · next index rest hv =>
    have hne : index ≠ e.index := by
      rintro rfl
      exact hvacant (by simp [hv])
    rw [getElem?_write_of_ne hne, hslot]
  · obtain ⟨hlt, -⟩ := Array.getElem?_eq_some_iff.mp hslot
    rw [Array.getElem?_push_lt hlt]
    simpa using (Array.getElem?_eq_some_iff.mp hslot).2

theorem Sound.allocate {a : Arena α} (ha : a.Sound) (x : α) : (a.allocate x).2.Sound := by
  unfold Arena.allocate
  split
  · next index rest hv =>
    have hnodup := ha.vacant_nodup
    rw [hv, List.nodup_cons] at hnodup
    refine ⟨fun i hi => ?_, hnodup.2⟩
    have hne : index ≠ i := fun h => hnodup.1 (h ▸ hi)
    rw [getElem?_write_of_ne hne]
    exact ha.vacant_dead i (by simp [hv, hi])
  · exact ⟨fun i hi => by simp at hi, by simp⟩

/-! ## Release and overwriting -/

theorem get?_free {a a' : Arena α} {d : Entity} (hd : a.free? d = some a') {e : Entity} {y : α}
    (hne : e ≠ d) (he : a.get? e = some y) : a'.get? e = some y := by
  obtain ⟨hp, hslot⟩ := get?_eq_some_iff.mp he
  unfold free? at hd
  split at hd
  · next halive =>
    obtain ⟨z, hz⟩ := isAlive_iff.mp halive
    have hdslot := (get?_eq_some_iff.mp hz).2
    obtain rfl := Option.some.inj hd
    refine get?_eq_some_iff.mpr ⟨hp, ?_⟩
    -- two live handles to one slot have its generation in common
    have hindex : d.index ≠ e.index := by
      intro hi
      rw [hi, hslot] at hdslot
      apply hne
      cases d
      cases e
      simp_all
    rw [getElem?_write_of_ne hindex, hslot]
  · simp at hd

theorem Sound.free {a a' : Arena α} (ha : a.Sound) {d : Entity} (hd : a.free? d = some a') :
    a'.Sound := by
  unfold free? at hd
  split at hd
  · next halive =>
    obtain ⟨z, hz⟩ := isAlive_iff.mp halive
    have hnot := ha.not_mem_vacant hz
    obtain ⟨hbound, -⟩ := Array.getElem?_eq_some_iff.mp (get?_eq_some_iff.mp hz).2
    obtain rfl := Option.some.inj hd
    refine ⟨fun i hi => ?_, List.nodup_cons.mpr ⟨hnot, ha.vacant_nodup⟩⟩
    by_cases h : d.index = i
    · subst h
      exact ⟨d.generation + 1, by simp [hbound]⟩
    · rw [getElem?_write_of_ne h]
      exact ha.vacant_dead i ((List.mem_cons.mp hi).resolve_left (Ne.symm h))
  · simp at hd

theorem Sound.set {a : Arena α} (ha : a.Sound) (e : Entity) (x : α) : (a.set e x).Sound := by
  unfold Arena.set
  split
  · next halive =>
    obtain ⟨z, hz⟩ := isAlive_iff.mp halive
    have hnot := ha.not_mem_vacant hz
    refine ⟨fun i hi => ?_, ha.vacant_nodup⟩
    have hne : e.index ≠ i := fun h => hnot (h ▸ hi)
    rw [getElem?_write_of_ne hne]
    exact ha.vacant_dead i hi
  · exact ha

/-! ## Whole effects -/

/-- There are fewer slots than proper indices, so that a slot to come has an index of its own. -/
def HasRoom (a : Arena α) : Prop := a.slots.size < 0xffffffff

theorem slots_size_le_allocate (a : Arena α) (x : α) :
    a.slots.size ≤ (a.allocate x).2.slots.size := by
  unfold allocate
  split
  · simp
  · simp

theorem slots_size_set (a : Arena α) (e : Entity) (x : α) :
    (a.set e x).slots.size = a.slots.size := by
  unfold set
  split
  · simp
  · rfl

theorem slots_size_free {a a' : Arena α} {d : Entity} (h : a.free? d = some a') :
    a'.slots.size = a.slots.size := by
  unfold free? at h
  split at h
  · obtain rfl := Option.some.inj h
    simp
  · simp at h

theorem HasRoom.isPlaceholder_eq_false {a : Arena α} (hroom : a.HasRoom) {e : Entity}
    (h : e.index.toNat ≤ a.slots.size) : e.isPlaceholder = false := by
  have hne : e.index ≠ 0xffffffff := by
    intro heq
    have hlast : e.index.toNat = 0xffffffff := by rw [heq]; rfl
    unfold HasRoom at hroom
    omega
  simpa [Entity.isPlaceholder] using hne

/-- A handle that is handed out names a slot that was vacant or did not exist, at the generation of
that slot. -/
theorem Sound.allocate_cases {a : Arena α} (ha : a.Sound) (hroom : a.HasRoom) (x : α) :
    ∃ e, (a.allocate x).1 = e ∧ e.isPlaceholder = false ∧
      (∀ slot, a.slots[e.index.toNat]? = some slot → slot.occupant = none) ∧
      ∀ i : UInt32, (a.allocate x).2.slots[i.toNat]? =
        if e.index = i then some ⟨e.generation, some x⟩ else a.slots[i.toNat]? := by
  unfold Arena.allocate
  split
  · next index rest hv =>
    obtain ⟨generation, hdead⟩ := ha.vacant_dead index (by simp [hv])
    obtain ⟨hbound, -⟩ := Array.getElem?_eq_some_iff.mp hdead
    refine ⟨_, rfl, hroom.isPlaceholder_eq_false (Nat.le_of_lt hbound), ?_, fun i => ?_⟩
    · intro slot hslot
      obtain rfl := Option.some.inj (hdead.symm.trans hslot)
      rfl
    · by_cases hi : index = i
      · subst hi
        simp [hbound]
      · rw [getElem?_write_of_ne hi, if_neg hi]
  · have hsize : (UInt32.ofNat a.slots.size).toNat = a.slots.size := by
      refine UInt32.toNat_ofNat_of_lt' ?_
      unfold HasRoom at hroom
      have : UInt32.size = 2 ^ 32 := rfl
      omega
    refine ⟨_, rfl, hroom.isPlaceholder_eq_false (Nat.le_of_eq hsize), ?_, fun i => ?_⟩
    · intro slot hslot
      simp [hsize] at hslot
    · rw [Array.getElem?_push]
      by_cases hi : UInt32.ofNat a.slots.size = i
      · subst hi
        simp [hsize]
      · have hne : i.toNat ≠ a.slots.size := by
          intro h
          exact hi (UInt32.toNat_inj.mp (hsize.trans h.symm))
        rw [if_neg hi, if_neg hne]

theorem Sound.get?_allocate_eq {a : Arena α} (ha : a.Sound) (hroom : a.HasRoom) (x : α)
    (f : Entity) :
    (a.allocate x).2.get? f = if f = (a.allocate x).1 then some x else a.get? f := by
  obtain ⟨e, he, hproper, hvacant, hslots⟩ := ha.allocate_cases hroom x
  rw [he]
  simp only [get?, hslots]
  by_cases hf : f = e
  · subst hf
    simp [hproper]
  · rw [if_neg hf]
    by_cases hi : e.index = f.index
    · have hg : e.generation ≠ f.generation := by
        intro hg
        apply hf
        cases e
        cases f
        simp_all
      -- the slot held nothing before, and holds another generation now
      simp only [hi, if_true, if_neg hg]
      cases hslot : a.slots[f.index.toNat]? with
      | none => rfl
      | some slot => simp [hvacant slot (hi ▸ hslot)]
    · simp [hi]

theorem Sound.get?_of_index_allocated {a : Arena α} (ha : a.Sound) (hroom : a.HasRoom) (x : α)
    {f : Entity} (hf : f.index = (a.allocate x).1.index) : a.get? f = none := by
  obtain ⟨e, he, -, hvacant, -⟩ := ha.allocate_cases hroom x
  rw [he] at hf
  rw [get?, hf]
  cases hslot : a.slots[e.index.toNat]? with
  | none => simp
  | some slot => simp [hvacant slot hslot]

theorem Sound.get?_allocated {a : Arena α} (ha : a.Sound) (hroom : a.HasRoom) (x : α) :
    a.get? (a.allocate x).1 = none :=
  ha.get?_of_index_allocated hroom x rfl

theorem get?_free_eq {a a' : Arena α} {d : Entity} (h : a.free? d = some a') (f : Entity) :
    a'.get? f = if f = d then none else a.get? f := by
  by_cases hf : f = d
  · subst hf
    unfold free? at h
    split at h
    · next halive =>
      obtain ⟨z, hz⟩ := isAlive_iff.mp halive
      obtain ⟨hbound, -⟩ := Array.getElem?_eq_some_iff.mp (get?_eq_some_iff.mp hz).2
      obtain rfl := Option.some.inj h
      simp [get?, hbound]
    · simp at h
  · rw [if_neg hf]
    cases hget : a.get? f with
    | some y => exact get?_free h hf hget
    | none =>
      -- a slot that is vacated shows nothing, under whatever generation
      unfold free? at h
      split at h
      · obtain rfl := Option.some.inj h
        by_cases hi : d.index = f.index
        · simp only [get?, hi, Array.getElem?_setIfInBounds, if_true]
          split
          · rfl
          · by_cases hlt : f.index.toNat < a.slots.size
            · simp [hlt]
            · simp [hlt]
        · simp only [get?] at hget ⊢
          rw [getElem?_write_of_ne hi]
          exact hget
      · simp at h

/-! ## The list of live handles -/

theorem mem_entries_iff {a : Arena α} {e : Entity} {x : α} :
    (e, x) ∈ a.entries ↔ a.slots[e.index.toNat]? = some ⟨e.generation, some x⟩ := by
  simp only [entries, List.mem_filterMap, Prod.exists, List.mem_zipIdx_iff_getElem?,
    Array.getElem?_toList]
  constructor
  · rintro ⟨slot, index, hslot, hentry⟩
    split at hentry
    · next hlt =>
      obtain ⟨y, hy, heq⟩ := Option.map_eq_some_iff.mp hentry
      obtain ⟨rfl, rfl⟩ := Prod.mk.inj heq
      show a.slots[(UInt32.ofNat index).toNat]? = some ⟨slot.generation, some y⟩
      rw [UInt32.toNat_ofNat_of_lt' hlt, hslot, ← hy]
    · simp at hentry
  · intro hslot
    refine ⟨_, _, hslot, ?_⟩
    rw [if_pos e.index.toNat_lt, UInt32.ofNat_toNat]
    rfl

theorem mem_entries_of_get? {a : Arena α} {e : Entity} {x : α} (h : a.get? e = some x) :
    (e, x) ∈ a.entries :=
  mem_entries_iff.mpr (get?_eq_some_iff.mp h).2

theorem get?_of_mem_entries {a : Arena α} (hroom : a.HasRoom) {e : Entity} {x : α}
    (h : (e, x) ∈ a.entries) : a.get? e = some x := by
  have hslot := mem_entries_iff.mp h
  obtain ⟨hbound, -⟩ := Array.getElem?_eq_some_iff.mp hslot
  exact get?_eq_some_iff.mpr ⟨hroom.isPlaceholder_eq_false (Nat.le_of_lt hbound), hslot⟩

/-- Handles are listed in order of their slots, hence each at most once. -/
theorem pairwise_entries (a : Arena α) :
    a.entries.Pairwise fun p q => p.1.index < q.1.index := by
  have horder : (a.slots.toList.zipIdx).Pairwise fun p q => p.2 < q.2 := by
    have h := List.pairwise_lt_range' (s := 0) (n := a.slots.toList.length)
    rwa [← List.zipIdx_map_snd, List.pairwise_map] at h
  refine List.Pairwise.filterMap _ ?_ horder
  rintro ⟨s, i⟩ ⟨t, j⟩ hij p hp q hq
  simp only [Option.ite_none_right_eq_some, Option.map_eq_some_iff] at hp hq
  obtain ⟨hi, x, -, rfl⟩ := hp
  obtain ⟨hj, y, -, rfl⟩ := hq
  rw [UInt32.lt_iff_toNat_lt, UInt32.toNat_ofNat_of_lt' hi, UInt32.toNat_ofNat_of_lt' hj]
  exact hij

end SceneBridge.Arena
