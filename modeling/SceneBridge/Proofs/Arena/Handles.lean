import Mathlib.Data.List.Induction
import SceneBridge.Proofs.Arena.Shape

/-!
# Handles in the course of a run

An arena is put through calls, each with any argument at all. The generation of a slot counts how
often it has been vacated, modulo `2 ^ 32` (`generation?_run`), so the number of releases in between
decides whether an old handle is alive again (`isAlive_run_iff`).
-/

namespace SceneBridge.Arena

variable {α : Type}

/-! ## Runs -/

inductive Call (α : Type)
  | allocate (x : α)
  | free (e : Entity)

/-- The arena after a call. A release that is refused changes nothing. -/
def call (a : Arena α) : Call α → Arena α
  | .allocate x => (a.allocate x).2
  | .free e => (a.free? e).getD a

def run (a : Arena α) (calls : List (Call α)) : Arena α := calls.foldl call a

def issues? (a : Arena α) : Call α → Option Entity
  | .allocate x => some (a.allocate x).1
  | .free _ => none

/-- The call is a release of slot `i`, and succeeds. -/
def vacates (a : Arena α) (i : UInt32) : Call α → Bool
  | .allocate _ => false
  | .free e => a.isAlive e && e.index == i

def issued (a : Arena α) : List (Call α) → List Entity
  | [] => []
  | c :: rest => (a.issues? c).toList ++ (a.call c).issued rest

def frees (a : Arena α) (i : UInt32) : List (Call α) → Nat
  | [] => 0
  | c :: rest => (a.vacates i c).toNat + (a.call c).frees i rest

variable {a a' : Arena α} {calls : List (Call α)} {e : Entity} {i : UInt32}

theorem run_append (a : Arena α) (calls more : List (Call α)) :
    a.run (calls ++ more) = (a.run calls).run more :=
  List.foldl_append

theorem run_append_cons (a : Arena α) (earlier : List (Call α)) (c : Call α)
    (later : List (Call α)) :
    a.run (earlier ++ c :: later) = ((a.run earlier).call c).run later :=
  run_append a earlier (c :: later)

theorem issued_append (a : Arena α) (calls more : List (Call α)) :
    a.issued (calls ++ more) = a.issued calls ++ (a.run calls).issued more := by
  induction calls generalizing a with
  | nil => rfl
  | cons c rest ih =>
    rw [List.cons_append, issued, issued, ih, List.append_assoc]
    rfl

theorem frees_append (a : Arena α) (i : UInt32) (calls more : List (Call α)) :
    a.frees i (calls ++ more) = a.frees i calls + (a.run calls).frees i more := by
  induction calls generalizing a with
  | nil => exact (Nat.zero_add _).symm
  | cons c rest ih =>
    rw [List.cons_append, frees, frees, ih, Nat.add_assoc]
    rfl

theorem frees_le_length (a : Arena α) (i : UInt32) (calls : List (Call α)) :
    a.frees i calls ≤ calls.length := by
  induction calls generalizing a with
  | nil => exact Nat.le_refl 0
  | cons c rest ih =>
    have hone : (a.vacates i c).toNat ≤ 1 := Bool.toNat_le _
    have hrest := ih (a.call c)
    rw [frees, List.length_cons]
    omega

theorem exists_of_mem_issued (h : e ∈ a.issued calls) :
    ∃ earlier x later, calls = earlier ++ .allocate x :: later ∧
      ((a.run earlier).allocate x).1 = e := by
  induction calls generalizing a with
  | nil => simp [issued] at h
  | cons c rest ih =>
    rw [issued, List.mem_append] at h
    rcases h with hnow | hlater
    · cases c with
      | allocate x =>
        refine ⟨[], x, rest, rfl, ?_⟩
        exact (List.mem_singleton.mp hnow).symm
      | free d => simp [issues?] at hnow
    · obtain ⟨earlier, x, later, rfl, heq⟩ := ih hlater
      exact ⟨c :: earlier, x, later, rfl, heq⟩

theorem call_free_of_none (h : a.free? e = none) : a.call (.free e) = a := by
  rw [call, h]
  rfl

theorem call_free_of_some (h : a.free? e = some a') : a.call (.free e) = a' := by
  rw [call, h]
  rfl

theorem step_call (a : Arena α) (c : Call α) : Step a (a.call c) := by
  cases c with
  | allocate x => exact .allocate x
  | free d =>
    cases h : a.free? d with
    | none =>
      rw [call_free_of_none h]
      exact .idle
    | some a' =>
      rw [call_free_of_some h]
      exact .free h

theorem slots_size_run (a : Arena α) (calls : List (Call α)) :
    a.slots.size ≤ (a.run calls).slots.size := by
  induction calls generalizing a with
  | nil => exact Nat.le_refl _
  | cons c rest ih => exact Nat.le_trans (step_call a c).slots_size (ih (a.call c))

theorem HasRoom.of_run_append {more : List (Call α)} (h : (a.run (calls ++ more)).HasRoom) :
    (a.run calls).HasRoom := by
  rw [run_append] at h
  exact Nat.lt_of_le_of_lt (slots_size_run (a.run calls) more) h

/-! ## The invariant of a run -/

/-- The free-list invariant with its converse: every dead slot is on the list. -/
structure Kept (a : Arena α) : Prop where
  sound : a.Sound
  counted : a.Counted
  dead_vacant : ∀ (i : UInt32) generation,
    a.slots[i.toNat]? = some ⟨generation, none⟩ → i ∈ a.vacant

theorem kept_empty : (empty : Arena α).Kept :=
  ⟨sound_empty, counted_empty, fun i generation h => by simp [empty] at h⟩

theorem dead_vacant_allocate (h : a.Kept) (x : α) (i : UInt32) (generation : UInt32)
    (hdead : (a.allocate x).2.slots[i.toNat]? = some ⟨generation, none⟩) :
    i ∈ (a.allocate x).2.vacant := by
  unfold allocate at hdead ⊢
  split at hdead
  · next index rest hv =>
    by_cases hi : index = i
    · subst hi
      rw [Array.getElem?_setIfInBounds_self] at hdead
      split at hdead
      · simp at hdead
      · simp at hdead
    · rw [getElem?_write_of_ne hi] at hdead
      have hmem := h.dead_vacant i generation hdead
      rw [hv] at hmem
      exact (List.mem_cons.mp hmem).resolve_left (Ne.symm hi)
  · next hv =>
    -- the new slot is live, and no other is dead as long as none is listed
    rw [Array.getElem?_push] at hdead
    split at hdead
    · simp at hdead
    · have hmem := h.dead_vacant i generation hdead
      rw [hv] at hmem
      exact hmem

theorem dead_vacant_free (h : a.Kept) {d : Entity} (hfree : a.free? d = some a') (i : UInt32)
    (generation : UInt32) (hdead : a'.slots[i.toNat]? = some ⟨generation, none⟩) :
    i ∈ a'.vacant := by
  unfold free? at hfree
  split at hfree
  · obtain rfl := Option.some.inj hfree
    by_cases hi : d.index = i
    · exact hi ▸ List.mem_cons_self
    · rw [getElem?_write_of_ne hi] at hdead
      exact List.mem_cons_of_mem _ (h.dead_vacant i generation hdead)
  · simp at hfree

theorem Kept.call (h : a.Kept) (c : Call α) : (a.call c).Kept := by
  have hstep := step_call a c
  refine ⟨hstep.sound h.sound, hstep.counted h.sound h.counted, ?_⟩
  cases c with
  | allocate x => exact dead_vacant_allocate h x
  | free d =>
    cases hfree : a.free? d with
    | none => exact (call_free_of_none hfree).symm ▸ h.dead_vacant
    | some a' => exact (call_free_of_some hfree).symm ▸ dead_vacant_free h hfree

theorem Kept.run (h : a.Kept) (calls : List (Call α)) : (a.run calls).Kept := by
  induction calls generalizing a with
  | nil => exact h
  | cons c rest ih => exact ih (h.call c)

structure Orderly (a : Arena α) : Prop where
  vacant_nodup : a.vacant.Nodup
  mem_vacant_iff : ∀ i : UInt32,
    i ∈ a.vacant ↔ ∃ generation, a.slots[i.toNat]? = some ⟨generation, none⟩
  counted : a.liveCount = a.slots.countP Slot.isLive
  mem_live_iff : ∀ e, e ∈ a.live ↔ a.isAlive e = true
  ascending : a.live.Pairwise fun e f => e.index < f.index
  fresh : ∀ x, a.isAlive (a.allocate x).1 = false
  released : ∀ e, (a.free? e).isSome = a.isAlive e
  /-- The count goes down by one, so it was not zero. -/
  discounted : ∀ e a', a.free? e = some a' → a'.liveCount + 1 = a.liveCount

theorem Kept.discounted (h : a.Kept) (hfree : a.free? e = some a') :
    a'.liveCount + 1 = a.liveCount := by
  have hcounted : a.liveCount = a.slots.countP Slot.isLive := h.counted
  unfold free? at hfree
  split at hfree
  · next halive =>
    obtain ⟨x, hslot⟩ := slot_of_alive halive
    have hpos : 0 < a.slots.countP Slot.isLive :=
      Array.countP_pos_iff.mpr ⟨_, Array.mem_of_getElem? hslot, rfl⟩
    obtain rfl := Option.some.inj hfree
    show a.liveCount - 1 + 1 = a.liveCount
    omega
  · simp at hfree

theorem mem_live_iff (hroom : a.HasRoom) : e ∈ a.live ↔ a.isAlive e = true := by
  rw [isAlive_iff, live, List.mem_map]
  constructor
  · rintro ⟨⟨f, x⟩, hmem, rfl⟩
    exact ⟨x, get?_of_mem_entries hroom hmem⟩
  · rintro ⟨x, hx⟩
    exact ⟨(e, x), mem_entries_of_get? hx, rfl⟩

theorem Kept.orderly (h : a.Kept) (hroom : a.HasRoom) : a.Orderly where
  vacant_nodup := h.sound.vacant_nodup
  mem_vacant_iff i := by
    constructor
    · exact h.sound.vacant_dead i
    · rintro ⟨generation, hdead⟩
      exact h.dead_vacant i generation hdead
  counted := h.counted
  mem_live_iff _ := mem_live_iff hroom
  ascending := List.pairwise_map.mpr (pairwise_entries a)
  fresh x := by rw [isAlive, h.sound.get?_allocated hroom x]; rfl
  released := free?_isSome a
  discounted _ _ := h.discounted

/-! ## Generations -/

def generation? (a : Arena α) (i : UInt32) : Option UInt32 :=
  a.slots[i.toNat]?.map Slot.generation

def occupied (a : Arena α) (i : UInt32) : Bool := a.slots[i.toNat]?.any Slot.isLive

variable {g : UInt32}

theorem generation?_allocate (h : a.generation? i = some g) (x : α) :
    (a.allocate x).2.generation? i = some g := by
  obtain ⟨slot, hslot, rfl⟩ := Option.map_eq_some_iff.mp h
  obtain ⟨hbound, -⟩ := Array.getElem?_eq_some_iff.mp hslot
  unfold allocate
  split
  · next index rest hv =>
    by_cases hi : index = i
    · subst hi
      rw [generation?, Array.getElem?_setIfInBounds_self, if_pos hbound, hslot]
      rfl
    · rw [generation?, getElem?_write_of_ne hi]
      exact h
  · have hne : i.toNat ≠ a.slots.size := by omega
    rw [generation?, Array.getElem?_push, if_neg hne]
    exact h

theorem generation?_free {d : Entity} (hfree : a.free? d = some a') (h : a.generation? i = some g) :
    a'.generation? i = some (if d.index = i then g + 1 else g) := by
  unfold free? at hfree
  split at hfree
  · next halive =>
    obtain ⟨x, hslot⟩ := slot_of_alive halive
    obtain ⟨hbound, -⟩ := Array.getElem?_eq_some_iff.mp hslot
    obtain rfl := Option.some.inj hfree
    by_cases hi : d.index = i
    · subst hi
      rw [generation?, hslot] at h
      obtain rfl := Option.some.inj h
      simp [generation?, hbound]
    · rw [generation?, getElem?_write_of_ne hi, if_neg hi]
      exact h
  · simp at hfree

theorem generation?_call (h : a.generation? i = some g) (c : Call α) :
    (a.call c).generation? i = some (g + UInt32.ofNat (a.vacates i c).toNat) := by
  cases c with
  | allocate x =>
    rw [call, generation?_allocate h, vacates]
    simp
  | free d =>
    rw [vacates]
    cases hfree : a.free? d with
    | none =>
      have hdead : a.isAlive d = false := by rw [← free?_isSome, hfree]; rfl
      rw [call_free_of_none hfree, hdead, h]
      simp
    | some a' =>
      have halive : a.isAlive d = true := by rw [← free?_isSome, hfree]; rfl
      rw [call_free_of_some hfree, generation?_free hfree h, halive, Bool.true_and]
      by_cases hi : d.index = i
      · rw [if_pos hi, beq_iff_eq.mpr hi]
        rfl
      · rw [if_neg hi, beq_eq_false_iff_ne.mpr hi]
        simp

theorem generation?_run (h : a.generation? i = some g) (calls : List (Call α)) :
    (a.run calls).generation? i = some (g + UInt32.ofNat (a.frees i calls)) := by
  induction calls generalizing a g with
  | nil =>
    rw [frees, run, List.foldl_nil, h]
    simp
  | cons c rest ih =>
    have hnext := ih (generation?_call h c)
    rw [frees, UInt32.ofNat_add, ← UInt32.add_assoc]
    exact hnext

theorem add_ofNat_eq_self_iff (g : UInt32) (n : Nat) :
    g + UInt32.ofNat n = g ↔ UInt32.size ∣ n := by
  have hg := g.toNat_lt
  have hsize : UInt32.size = 4294967296 := rfl
  rw [← UInt32.toNat_inj, UInt32.toNat_add, UInt32.toNat_ofNat', hsize]
  omega

theorem isAlive_iff_occupied (hproper : e.isPlaceholder = false) :
    a.isAlive e = true ↔
      a.occupied e.index = true ∧ a.generation? e.index = some e.generation := by
  simp only [isAlive_iff, get?_eq_some_iff, hproper, true_and, occupied, generation?]
  cases a.slots[e.index.toNat]? with
  | none => simp
  | some slot =>
    obtain ⟨generation, occupant⟩ := slot
    cases occupant with
    | none => simp [Slot.isLive]
    | some x => simp [Slot.isLive]

theorem isAlive_run_iff (h : a.isAlive e = true) (calls : List (Call α)) :
    (a.run calls).isAlive e = true ↔
      (a.run calls).occupied e.index = true ∧ UInt32.size ∣ a.frees e.index calls := by
  obtain ⟨x, hx⟩ := isAlive_iff.mp h
  have hproper : e.isPlaceholder = false := (get?_eq_some_iff.mp hx).1
  obtain ⟨-, hnow⟩ := (isAlive_iff_occupied hproper).mp h
  rw [isAlive_iff_occupied hproper, generation?_run hnow, Option.some.injEq,
    add_ofNat_eq_self_iff]

/-! ## Handles that stay -/

theorem isAlive_call (ha : a.Sound) (h : a.isAlive e = true) {c : Call α}
    (hstays : a.vacates e.index c = false) : (a.call c).isAlive e = true := by
  obtain ⟨y, hy⟩ := isAlive_iff.mp h
  cases c with
  | allocate x => exact isAlive_iff.mpr ⟨y, get?_allocate ha x hy⟩
  | free d =>
    cases hfree : a.free? d with
    | none => exact (call_free_of_none hfree).symm ▸ h
    | some a' =>
      have hne : e ≠ d := by
        rintro rfl
        simp [vacates, h] at hstays
      rw [call_free_of_some hfree]
      exact isAlive_iff.mpr ⟨y, get?_free hfree hne hy⟩

theorem isAlive_run_of_frees_eq_zero (ha : a.Sound) (h : a.isAlive e = true)
    (hstays : a.frees e.index calls = 0) : (a.run calls).isAlive e = true := by
  induction calls generalizing a with
  | nil => exact h
  | cons c rest ih =>
    rw [frees, Nat.add_eq_zero_iff] at hstays
    have hnot : a.vacates e.index c = false := by simpa using hstays.1
    exact ih ((step_call a c).sound ha) (isAlive_call ha h hnot) hstays.2

theorem Sound.isAlive_allocate (ha : a.Sound) (hroom : a.HasRoom) (x : α) :
    (a.allocate x).2.isAlive (a.allocate x).1 = true := by
  rw [isAlive, ha.get?_allocate_eq hroom, if_pos rfl]
  rfl

theorem Kept.ne_allocate (h : a.Kept) (hroom : (a.run calls).HasRoom) (he : a.isAlive e = true)
    (hfew : a.frees e.index calls < UInt32.size) (x : α) : e ≠ ((a.run calls).allocate x).1 := by
  intro heq
  have hsound := (h.run calls).sound
  have hagain : (a.run (calls ++ [.allocate x])).isAlive e = true := by
    rw [run_append, heq]
    exact hsound.isAlive_allocate hroom x
  have hdvd : UInt32.size ∣ a.frees e.index calls := by
    have hboth := ((isAlive_run_iff he _).mp hagain).2
    rwa [frees_append] at hboth
  have hzero : a.frees e.index calls = 0 := Nat.eq_zero_of_dvd_of_lt hdvd hfew
  -- so the handle has been alive all along, and cannot have been free to return
  have hstill := isAlive_run_of_frees_eq_zero h.sound he hzero
  rw [isAlive, heq, hsound.get?_allocated hroom x] at hstill
  simp at hstill

theorem Kept.not_mem_issued (h : a.Kept) (hroom : (a.run calls).HasRoom)
    (hfew : ∀ i, a.frees i calls < UInt32.size) (x : α) :
    ((a.run calls).allocate x).1 ∉ a.issued calls := by
  intro hmem
  obtain ⟨earlier, y, later, rfl, heq⟩ := exists_of_mem_issued hmem
  have hthen : (a.run earlier).Kept := h.run earlier
  have hroom' : (a.run earlier).HasRoom := hroom.of_run_append
  rw [run_append_cons] at hroom heq
  have hfewer := hfew ((a.run earlier).allocate y).1.index
  rw [frees_append, frees] at hfewer
  exact (hthen.call (.allocate y)).ne_allocate hroom (hthen.sound.isAlive_allocate hroom' y)
    (by omega) x heq

theorem Kept.nodup_issued (h : a.Kept) (hroom : (a.run calls).HasRoom)
    (hfew : ∀ i, a.frees i calls < UInt32.size) : (a.issued calls).Nodup := by
  induction calls using List.reverseRecOn with
  | nil => exact List.nodup_nil
  | append_singleton calls c ih =>
    have hroom' : (a.run calls).HasRoom := hroom.of_run_append
    have hfewer : ∀ i, a.frees i calls < UInt32.size := by
      intro i
      have hi := hfew i
      rw [frees_append] at hi
      omega
    have hnodup := ih hroom' hfewer
    rw [issued_append]
    cases c with
    | free d => simpa [issued, issues?] using hnodup
    | allocate x =>
      have hnew := h.not_mem_issued hroom' hfewer x
      refine List.nodup_append.mpr ⟨hnodup, List.pairwise_singleton _ _, fun e he f hf heq => ?_⟩
      obtain rfl := List.mem_singleton.mp hf
      exact hnew (heq ▸ he)

theorem isAlive_run_free (he : a.isAlive e = true)
    (hfew : a.frees e.index (.free e :: calls) < UInt32.size) :
    (a.run (.free e :: calls)).isAlive e = false := by
  rw [Bool.eq_false_iff]
  intro hagain
  have hdvd := ((isAlive_run_iff he _).mp hagain).2
  have hzero := Nat.eq_zero_of_dvd_of_lt hdvd hfew
  simp [frees, vacates, he] at hzero

/-- What holds of the handles of a run from the empty arena. -/
structure Handles (calls : List (Call α)) : Prop where
  orderly : (run empty calls).Orderly
  alive_iff : ∀ earlier x later, calls = earlier ++ .allocate x :: later →
    let (e, a) := (run empty earlier).allocate x
    (run empty calls).isAlive e = true ↔
      (run empty calls).occupied e.index = true ∧ UInt32.size ∣ a.frees e.index later
  distinct : (∀ i, frees empty i calls < UInt32.size) → (issued empty calls).Nodup
  retired : (∀ i, frees empty i calls < UInt32.size) →
    ∀ earlier e later, calls = earlier ++ .free e :: later →
      (run empty earlier).isAlive e = true → (run empty calls).isAlive e = false

/-- As long as slots do not run out, a handle stands for another payload than its own only after
exactly a multiple of `2 ^ 32` releases of its slot. -/
theorem handles_of_calls {calls : List (Call α)} (hroom : (run empty calls).HasRoom) :
    Handles calls where
  orderly := (kept_empty.run calls).orderly hroom
  alive_iff := by
    rintro earlier x later rfl
    have hthen : (run (empty : Arena α) earlier).Kept := kept_empty.run earlier
    have hroom' : (run (empty : Arena α) earlier).HasRoom := hroom.of_run_append
    rw [run_append_cons]
    exact isAlive_run_iff (hthen.sound.isAlive_allocate hroom' x) later
  distinct := kept_empty.nodup_issued hroom
  retired := by
    rintro hfew earlier e later rfl he
    have hfewer := hfew e.index
    rw [frees_append] at hfewer
    rw [run_append]
    exact isAlive_run_free he (by omega)

/-- Two slots, of which one is vacated and filled again; the releases that fail are of a dead
handle, of one from the future and of the placeholder. -/
def busyCalls : List (Call Unit) :=
  [.allocate (), .allocate (), .free ⟨0, 1⟩, .free ⟨0, 0⟩, .free ⟨0, 0⟩, .allocate (),
    .free .placeholder, .free ⟨1, 0⟩]

theorem busyCalls_handles :
    (run empty busyCalls).HasRoom ∧ issued empty busyCalls = [⟨0, 0⟩, ⟨1, 0⟩, ⟨0, 1⟩] ∧
      (run empty busyCalls).live = [⟨0, 1⟩] ∧ (run empty busyCalls).vacant = [1] ∧
      Handles busyCalls ∧ (issued empty busyCalls).Nodup := by
  have hroom : (run empty busyCalls).HasRoom := by
    unfold HasRoom
    decide
  have hfew : ∀ i, frees empty i busyCalls < UInt32.size := fun i =>
    Nat.lt_of_le_of_lt (frees_le_length empty i busyCalls) (by decide)
  have hhandles := handles_of_calls hroom
  exact ⟨hroom, by decide, by decide, by decide, hhandles, hhandles.distinct hfew⟩

end SceneBridge.Arena
