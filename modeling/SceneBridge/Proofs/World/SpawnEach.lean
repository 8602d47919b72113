import SceneBridge.Proofs.World.Changes

/-!
# Entities spawned in a row

An arena hands out vacated slots first, the last one vacated in front, and then new ones
(`Arena.supply`). So entities spawned one after the other are new, distinct and bare but for what
they are spawned with, and their slots are the next ones of the supply (`World.spawnsEach`).
-/

namespace SceneBridge

namespace Arena

variable {α : Type}

/-- The slot that the next allocation but `n` gets. -/
def supply (a : Arena α) (n : Nat) : Nat :=
  match a.vacant[n]? with
  | some index => index.toNat
  | none => a.slots.size + (n - a.vacant.length)

theorem supply_of_vacant {a : Arena α} {n : Nat} {index : UInt32}
    (h : a.vacant[n]? = some index) : a.supply n = index.toNat := by
  rw [supply, h]

theorem supply_of_length_le {a : Arena α} {n : Nat} (h : a.vacant.length ≤ n) :
    a.supply n = a.slots.size + (n - a.vacant.length) := by
  rw [supply, List.getElem?_eq_none h]

theorem supply_lt_supply {a : Arena α} {m n : Nat} (hm : a.vacant.length ≤ m) (hmn : m < n) :
    a.supply m < a.supply n := by
  rw [supply_of_length_le hm, supply_of_length_le (by omega)]
  omega

theorem supply_allocate (a : Arena α) (x : α) (n : Nat) :
    (a.allocate x).2.supply n = a.supply (n + 1) := by
  unfold allocate
  split
  · next index rest hvacant =>
    unfold supply
    simp only [hvacant, List.getElem?_cons_succ, List.length_cons, Array.size_setIfInBounds]
    cases rest[n]? with
    | some later => rfl
    | none =>
      show a.slots.size + (n - rest.length) = a.slots.size + (n + 1 - (rest.length + 1))
      omega
  · next hvacant =>
    unfold supply
    simp only [hvacant, List.getElem?_nil, List.length_nil, Array.size_push]
    omega

theorem index_allocate {a : Arena α} (hroom : a.HasRoom) (x : α) :
    (a.allocate x).1.index.toNat = a.supply 0 := by
  unfold allocate
  split
  · next index rest hvacant => rw [supply_of_vacant (by rw [hvacant]; rfl)]
  · next hvacant =>
    have hsize : a.slots.size < UInt32.size := by
      unfold HasRoom at hroom
      have : UInt32.size = 2 ^ 32 := rfl
      omega
    rw [supply_of_length_le (by simp [hvacant]), hvacant]
    exact UInt32.toNat_ofNat_of_lt' hsize

theorem supply_set (a : Arena α) (e : Entity) (x : α) (n : Nat) :
    (a.set e x).supply n = a.supply n := by
  unfold set
  split
  · unfold supply
    simp
  · rfl

end Arena

namespace World

variable {κ β : Type} [ProjectKind κ]

def spawnEach (w : World κ) (components : β → List (Component κ)) :
    List β → List (β × Entity) × World κ
  | [] => ([], w)
  | x :: xs =>
    let spawned := w.spawnWith (components x)
    let rest := spawned.2.spawnEach components xs
    ((x, spawned.1) :: rest.1, rest.2)

/-- What spawning a row of entities makes of a world: they are new, distinct, and hold what they
are spawned with; all else is as before. Their slots are the next ones of the supply. -/
structure SpawnsEach (w : World κ) (components : β → List (Component κ))
    (spawned : List (β × Entity)) (w' : World κ) : Prop where
  sound : w'.Sound
  nodup : (spawned.map Prod.snd).Nodup
  fresh : ∀ p ∈ spawned, w.isAlive p.2 = false
  placed : ∀ p ∈ spawned, w'.arena.get? p.2 = some (Bundle.ofList (components p.1))
  kept : ∀ f, f ∉ spawned.map Prod.snd → w'.arena.get? f = w.arena.get? f
  slots : ∀ (i : Nat) p, spawned[i]? = some p → p.2.index.toNat = w.arena.supply i
  supply : ∀ n, w'.arena.supply n = w.arena.supply (spawned.length + n)

variable {w w' : World κ} {components : β → List (Component κ)}

theorem map_fst_spawnEach (w : World κ) (components : β → List (Component κ)) (xs : List β) :
    (w.spawnEach components xs).1.map Prod.fst = xs := by
  induction xs generalizing w with
  | nil => rfl
  | cons x xs ih =>
    rw [spawnEach, List.map_cons, ih]

theorem slots_spawnEach (w : World κ) (components : β → List (Component κ)) (xs : List β) :
    w.arena.slots.size ≤ (w.spawnEach components xs).2.arena.slots.size := by
  induction xs generalizing w with
  | nil => exact Nat.le_refl _
  | cons x xs ih =>
    have hfirst := Arena.slots_size_le_allocate w.arena (Bundle.ofList (components x))
    exact Nat.le_trans hfirst (ih (w.spawnWith (components x)).2)

theorem SpawnsEach.nil (hw : w.Sound) : SpawnsEach w components [] w where
  sound := hw
  nodup := List.nodup_nil
  fresh p hp := by simp at hp
  placed p hp := by simp at hp
  kept _ _ := rfl
  slots i p hp := by simp at hp
  supply n := by rw [List.length_nil, Nat.zero_add]

theorem SpawnsEach.cons (hw : w.Sound) (hroom : w.HasRoom) {x : β} {spawned : List (β × Entity)}
    (h : SpawnsEach (w.spawnWith (components x)).2 components spawned w') :
    SpawnsEach w components ((x, (w.spawnWith (components x)).1) :: spawned) w' := by
  have hview := Arena.Sound.get?_allocate_eq hw hroom (Bundle.ofList (components x))
  have hdead := Arena.Sound.get?_allocated hw hroom (Bundle.ofList (components x))
  have hindex := Arena.index_allocate hroom (Bundle.ofList (components x))
  have hsupply := Arena.supply_allocate w.arena (Bundle.ofList (components x))
  -- the first entity is alive by the time the others are spawned
  have hfirst : (w.spawnWith (components x)).1 ∉ spawned.map Prod.snd := by
    intro hmem
    obtain ⟨p, hp, heq⟩ := List.mem_map.mp hmem
    have hfresh := h.fresh p hp
    rw [heq, isAlive_eq_false_iff, spawnWith, hview, if_pos rfl] at hfresh
    simp at hfresh
  refine ⟨h.sound, List.nodup_cons.mpr ⟨hfirst, h.nodup⟩, ?_, ?_, ?_, ?_, ?_⟩
  · refine List.forall_mem_cons.mpr ⟨isAlive_eq_false_iff.mpr hdead, fun p hp => ?_⟩
    have hfresh := h.fresh p hp
    rw [isAlive_eq_false_iff, spawnWith, hview] at hfresh
    rw [isAlive_eq_false_iff]
    split at hfresh
    · simp at hfresh
    · exact hfresh
  · refine List.forall_mem_cons.mpr ⟨?_, h.placed⟩
    rw [h.kept _ hfirst, spawnWith, hview, if_pos rfl]
  · intro f hf
    rw [List.map_cons, List.mem_cons, not_or] at hf
    have hne : f ≠ (w.arena.allocate (Bundle.ofList (components x))).1 := hf.1
    rw [h.kept f hf.2, spawnWith, hview, if_neg hne]
  · intro i p hp
    cases i with
    | zero =>
      rw [List.getElem?_cons_zero] at hp
      obtain rfl := Option.some.inj hp
      exact hindex
    | succ i =>
      rw [List.getElem?_cons_succ] at hp
      rw [h.slots i p hp]
      exact hsupply i
  · intro n
    rw [h.supply, List.length_cons, spawnWith, hsupply, Nat.add_right_comm]

theorem spawnsEach (hw : w.Sound) (components : β → List (Component κ)) (xs : List β)
    (hroom : (w.spawnEach components xs).2.HasRoom) :
    SpawnsEach w components (w.spawnEach components xs).1 (w.spawnEach components xs).2 := by
  induction xs generalizing w with
  | nil => exact .nil hw
  | cons x xs ih =>
    have hslots := slots_spawnEach (w.spawnWith (components x)).2 components xs
    have hnext : (w.spawnWith (components x)).2.HasRoom := Nat.lt_of_le_of_lt hslots hroom
    have hhere : w.HasRoom :=
      Nat.lt_of_le_of_lt (Arena.slots_size_le_allocate w.arena _) hnext
    exact .cons hw hhere (ih ((w.via_spawnWith _).sound hw) hroom)

end World

end SceneBridge
