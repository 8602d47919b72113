import Mathlib.Data.List.Induction
import SceneBridge.Proofs.Wire.RoundTrip

/-!
# Snapshots are canonical

A snapshot shows, of each kind, the component that was put in last since it was emptied, and it has
one form only: how it came about does not show (`Canonical`). As it is always sorted, looking for a
tag by halves comes to the same as going through the components one by one (`lookup?_eq`, `put_eq`).
-/

namespace SceneBridge.Wire.Snapshot

variable {U : Type} [ComponentSet U]

open ComponentSet (kindCount tag)

/-! ## Search by halves -/

/-- Where a tag stands in a list, or else where it belongs. -/
inductive Spot
  | found (i : Nat)
  | vacant (i : Nat)

/-- Look for a tag by halves, from position `low` on and in front of position `high`. -/
def bisect (cs : List U) (t : UInt8) (low high : Nat) : Spot :=
  if low < high then
    let middle := (low + high) / 2
    match cs[middle]? with
    | none => .vacant low
    | some c =>
      if tag c < t then bisect cs t (middle + 1) high
      else if t < tag c then bisect cs t low middle
      else .found middle
  else .vacant low
termination_by high - low

def spot (s : Snapshot U) (t : UInt8) : Spot := bisect s.components t 0 s.components.length

def Spot.get? (cs : List U) : Spot → Option U
  | found i => cs[i]?
  | vacant _ => none

/-- Put a component at a spot, over the one that stands there or in between. -/
def Spot.put (c : U) (cs : List U) : Spot → List U
  | found i => cs.set i c
  | vacant i => cs.take i ++ c :: cs.drop i

def lookup? (s : Snapshot U) (t : UInt8) : Option U := (s.spot t).get? s.components

/-- Put a component in at the spot of its tag, and answer the one that stood there. -/
def put (s : Snapshot U) (c : U) : Option U × Snapshot U :=
  let spot := s.spot (tag c)
  (spot.get? s.components, ⟨spot.put c s.components⟩)

/-- A spot cuts a list at a tag: all in front of it are lower, and all behind it are greater if the
tag is not there. -/
inductive Cuts (t : UInt8) : List U → Spot → Prop
  | found {front back : List U} {c : U} (below : ∀ d ∈ front, tag d < t) (here : tag c = t) :
    Cuts t (front ++ c :: back) (.found front.length)
  | vacant {front back : List U} (below : ∀ d ∈ front, tag d < t) (above : ∀ d ∈ back, t < tag d) :
    Cuts t (front ++ back) (.vacant front.length)

theorem exists_split_of_getElem? {α : Type} {cs : List α} {i : Nat} {c : α}
    (h : cs[i]? = some c) : ∃ front back, cs = front ++ c :: back ∧ front.length = i := by
  obtain ⟨hlt, rfl⟩ := List.getElem?_eq_some_iff.mp h
  refine ⟨cs.take i, cs.drop (i + 1), ?_, List.length_take_of_le (Nat.le_of_lt hlt)⟩
  rw [← List.drop_eq_getElem_cons hlt, List.take_append_drop]

/-- What is in front of `low` is too low, and what is from `high` on too great: each half that is
left out adds to one of the two. -/
theorem cuts_bisect {cs : List U} (hcs : cs.Pairwise fun c d => tag c < tag d) {t : UInt8}
    {low high : Nat} (hle : low ≤ high) (hhigh : high ≤ cs.length)
    (below : ∀ d ∈ cs.take low, tag d < t) (above : ∀ d ∈ cs.drop high, t < tag d) :
    Cuts t cs (bisect cs t low high) := by
  fun_induction bisect cs t low high with
  | case1 low high hlt middle hnone =>
    have hlength := List.getElem?_eq_none_iff.mp hnone
    omega
  | case2 low high hlt middle c hc hlow ih =>
    refine ih (by omega) hhigh ?_ above
    obtain ⟨front, back, rfl, hfront⟩ := exists_split_of_getElem? hc
    rw [← hfront, List.take_length_add_append, List.take_one, List.head?_cons]
    intro d hd
    rcases List.mem_append.mp hd with hd | hd
    · exact UInt8.lt_trans ((List.pairwise_append.mp hcs).2.2 d hd c List.mem_cons_self) hlow
    · exact List.mem_singleton.mp hd ▸ hlow
  | case3 low high hlt middle c hc hlow hgreat ih =>
    refine ih (by omega) (by omega) below ?_
    obtain ⟨front, back, rfl, hfront⟩ := exists_split_of_getElem? hc
    rw [← hfront, List.drop_left]
    intro d hd
    rcases List.mem_cons.mp hd with rfl | hd
    · exact hgreat
    · have hback := (List.pairwise_cons.mp (List.pairwise_append.mp hcs).2.1).1 d hd
      exact UInt8.lt_trans hgreat hback
  | case4 low high hlt middle c hc hlow hgreat =>
    have heq : tag c = t := UInt8.le_antisymm (UInt8.not_lt.mp hgreat) (UInt8.not_lt.mp hlow)
    obtain ⟨front, back, rfl, hfront⟩ := exists_split_of_getElem? hc
    rw [← hfront]
    refine .found (fun d hd => ?_) heq
    exact heq ▸ (List.pairwise_append.mp hcs).2.2 d hd c List.mem_cons_self
  | case5 low high hlt =>
    obtain rfl : low = high := by omega
    have hcuts := Cuts.vacant below above
    rwa [List.take_append_drop, List.length_take_of_le hhigh] at hcuts

theorem Sorted.cuts_spot {s : Snapshot U} (hs : s.Sorted) (t : UInt8) :
    Cuts t s.components (s.spot t) :=
  cuts_bisect hs (Nat.zero_le _) (Nat.le_refl _) (by simp) (by simp)

theorem find?_of_ne {cs : List U} {t : UInt8} (h : ∀ d ∈ cs, tag d ≠ t) :
    (cs.find? fun d => tag d == t) = none :=
  List.find?_eq_none.mpr fun d hd heq => h d hd (beq_iff_eq.mp heq)

theorem Cuts.get? {cs : List U} {t : UInt8} {spot : Spot} (h : Cuts t cs spot) :
    spot.get? cs = cs.find? fun d => tag d == t := by
  cases h with
  | found below here =>
    simp [Spot.get?, find?_of_ne fun d hd => UInt8.ne_of_lt (below d hd), here]
  | vacant below above =>
    simp [Spot.get?, find?_of_ne fun d hd => UInt8.ne_of_lt (below d hd),
      find?_of_ne fun d hd => (UInt8.ne_of_lt (above d hd)).symm]

theorem Cuts.put {cs : List U} {c : U} {spot : Spot} (h : Cuts (tag c) cs spot) :
    spot.put c cs = place c cs := by
  cases h with
  | @found front back d below here =>
    rw [place_append below, place, if_neg (here ▸ UInt8.lt_irrefl _), if_pos here.symm]
    simp [Spot.put]
  | @vacant front back below above =>
    rw [place_append below, Spot.put, List.take_left, List.drop_left]
    cases back with
    | nil => rfl
    | cons d back => rw [place, if_pos (above d List.mem_cons_self)]

theorem Sorted.lookup?_eq {s : Snapshot U} (hs : s.Sorted) (t : UInt8) :
    s.lookup? t = s.get? t :=
  (hs.cuts_spot t).get?

theorem Sorted.put_eq {s : Snapshot U} (hs : s.Sorted) (c : U) : s.put c = s.exchange c := by
  have hcuts := hs.cuts_spot (tag c)
  rw [Snapshot.put, hcuts.get?, hcuts.put]
  rfl

def changedByHalves (s : Snapshot U) : Change U → Snapshot U
  | .insert c => (s.put c).2
  | .clear => empty
  | .collect cs => cs.foldl (fun s c => (s.put c).2) empty

theorem Sorted.foldl_put {s : Snapshot U} (hs : s.Sorted) (cs : List U) :
    cs.foldl (fun s c => (s.put c).2) s = cs.foldl Snapshot.insert s := by
  induction cs generalizing s with
  | nil => rfl
  | cons c cs ih =>
    rw [List.foldl_cons, List.foldl_cons, hs.put_eq, exchange]
    exact ih (hs.insert c)

theorem Sorted.changedByHalves_eq {s : Snapshot U} (hs : s.Sorted) (x : Change U) :
    s.changedByHalves x = s.changed x := by
  cases x with
  | insert c => exact congrArg Prod.snd (hs.put_eq c)
  | clear => rfl
  | collect cs => exact Sorted.foldl_put sorted_empty cs

theorem foldl_changedByHalves (changes : List (Change U)) :
    changes.foldl changedByHalves empty = built changes := by
  induction changes using List.reverseRecOn with
  | nil => rfl
  | append_singleton changes x ih =>
    rw [List.foldl_append, ih, List.foldl_cons, List.foldl_nil,
      (sorted_built changes).changedByHalves_eq, built, built, List.foldl_append]
    rfl

/-! ## What is put in -/

/-- What changes have put in since they last emptied the snapshot, in order. -/
def present (changes : List (Change U)) : List U :=
  changes.foldl
    (fun cs x =>
      match x with
      | .insert c => cs ++ [c]
      | .clear => []
      | .collect ds => ds)
    []

def LastOf (cs : List U) (t : UInt8) (c : U) : Prop :=
  ∃ front back, cs = front ++ c :: back ∧ tag c = t ∧ ∀ d ∈ back, tag d ≠ t

/-- What an insertion does and answers: a component of the same kind makes room and is the answer,
or there is none, and nothing makes room. -/
inductive Exchanges (c : U) : Snapshot U → Option U × Snapshot U → Prop
  | replaced {front back : List U} {d : U} (same : tag d = tag c) :
    Exchanges c ⟨front ++ d :: back⟩ (some d, ⟨front ++ c :: back⟩)
  | added {front back : List U} (new : ∀ d ∈ front ++ back, tag d ≠ tag c) :
    Exchanges c ⟨front ++ back⟩ (none, ⟨front ++ c :: back⟩)

theorem built_eq_ofList (changes : List (Change U)) : built changes = ofList (present changes) := by
  induction changes using List.reverseRecOn with
  | nil => rfl
  | append_singleton changes x ih =>
    rw [built, present, List.foldl_append, List.foldl_append, ← built, ← present, ih]
    cases x with
    | insert c =>
      rw [List.foldl_cons, List.foldl_nil, List.foldl_cons, List.foldl_nil, ofList, ofList,
        List.foldl_append]
      rfl
    | clear => rfl
    | collect cs => rfl

theorem get?_built_eq_some_iff {changes : List (Change U)} {t : UInt8} {c : U} :
    (built changes).get? t = some c ↔ LastOf (present changes) t c := by
  rw [built_eq_ofList, get?_ofList, List.getLast?_eq_head?_reverse, ← List.filter_reverse,
    List.head?_filter, List.find?_eq_some_iff_append]
  constructor
  · rintro ⟨htag, back, front, hsplit, hback⟩
    refine ⟨front.reverse, back.reverse, ?_, beq_iff_eq.mp htag, fun d hd => ?_⟩
    · rw [← List.reverse_reverse (present changes), hsplit]
      simp
    · simpa using hback d (List.mem_reverse.mp hd)
  · rintro ⟨front, back, hsplit, htag, hback⟩
    refine ⟨beq_iff_eq.mpr htag, back.reverse, front.reverse, by simp [hsplit], fun d hd => ?_⟩
    simpa using hback d (List.mem_reverse.mp hd)

theorem Sorted.exchanges {s : Snapshot U} (hs : s.Sorted) (c : U) :
    Exchanges c s (s.exchange c) := by
  rw [← hs.put_eq]
  have hcuts := hs.cuts_spot (tag c)
  obtain ⟨cs⟩ := s
  unfold put
  generalize Snapshot.spot ⟨cs⟩ (tag c) = spot at hcuts
  cases hcuts with
  | @found front back d below here =>
    simpa [Spot.get?, Spot.put] using Exchanges.replaced here
  | @vacant front back below above =>
    have hnew : ∀ d ∈ front ++ back, tag d ≠ tag c := fun d hd =>
      (List.mem_append.mp hd).elim (fun hd => UInt8.ne_of_lt (below d hd))
        fun hd => (UInt8.ne_of_lt (above d hd)).symm
    simpa [Spot.get?, Spot.put] using Exchanges.added hnew

/-! ## One form -/

theorem Sorted.mem_components_iff {s : Snapshot U} (hs : s.Sorted) {c : U} :
    c ∈ s.components ↔ s.get? (tag c) = some c := by
  have hfilter : c ∈ (s.components.filter fun d => tag d == tag c) ↔ c ∈ s.components := by simp
  rw [← hfilter, filter_tag hs, Option.mem_toList]
  rfl

theorem Sorted.nodup {s : Snapshot U} (hs : s.Sorted) : s.components.Nodup := by
  refine List.Pairwise.imp ?_ hs
  rintro c d hlt rfl
  exact UInt8.lt_irrefl _ hlt

theorem Sorted.ext {s s' : Snapshot U} (hs : s.Sorted) (hs' : s'.Sorted)
    (h : ∀ t, s.get? t = s'.get? t) : s = s' := by
  have hperm : s.components.Perm s'.components :=
    (List.perm_ext_iff_of_nodup hs.nodup hs'.nodup).mpr fun c => by
      rw [hs.mem_components_iff, hs'.mem_components_iff, h]
  have heq : s.components = s'.components :=
    hperm.eq_of_pairwise (fun c d _ _ hcd hdc => absurd hdc (UInt8.lt_asymm hcd)) hs hs'
  cases s
  cases s'
  exact congrArg Snapshot.mk heq

/-- What is known of a snapshot from the changes that led to it. -/
structure Canonical (changes : List (Change U)) : Prop where
  ascending : (built changes).components.Pairwise fun c d => tag c < tag d
  size_le : (built changes).size ≤ kindCount U
  get?_eq_some_iff : ∀ t c, (built changes).get? t = some c ↔ LastOf (present changes) t c
  get?_eq_none_iff : ∀ t, (built changes).get? t = none ↔ ∀ c ∈ present changes, tag c ≠ t
  contains_iff : ∀ t, (built changes).contains t = true ↔ ∃ c, LastOf (present changes) t c
  exchanges : ∀ c, Exchanges c (built changes) ((built changes).exchange c)
  exchanged : ∀ c, ((built changes).exchange c).2 = built (changes ++ [.insert c])
  /-- Changes that put in last the same of each kind lead to the same snapshot. -/
  determined : ∀ others, (∀ t c, LastOf (present others) t c ↔ LastOf (present changes) t c) →
    built others = built changes
  /-- Nothing is different if all is searched by halves. -/
  byHalves : changes.foldl changedByHalves empty = built changes
  lookup? : ∀ t, (built changes).lookup? t = (built changes).get? t
  put : ∀ c, (built changes).put c = (built changes).exchange c

/-- As long as tags stay below the number of kinds, a snapshot is a finite map in its one form,
whatever is done to it. -/
theorem canonical_of_changes (htag : ∀ c : U, (tag c).toNat < kindCount U)
    (changes : List (Change U)) : Canonical changes := by
  have hsorted := sorted_built changes
  refine
    { ascending := hsorted
      size_le := length_add_le hsorted (fun _ _ => Nat.zero_le _) (fun c _ => htag c)
        (Nat.zero_le _)
      get?_eq_some_iff := fun t c => get?_built_eq_some_iff
      get?_eq_none_iff := fun t => ?_
      contains_iff := fun t => ?_
      exchanges := hsorted.exchanges
      exchanged := fun c => ?_
      determined := fun others hlast => ?_
      byHalves := foldl_changedByHalves changes
      lookup? := hsorted.lookup?_eq
      put := hsorted.put_eq }
  · rw [built_eq_ofList, get?_ofList]
    simp
  · rw [contains, Option.isSome_iff_exists]
    exact exists_congr fun c => get?_built_eq_some_iff
  · rw [built, built, List.foldl_append]
    rfl
  · refine (sorted_built others).ext hsorted fun t => Option.ext fun c => ?_
    rw [get?_built_eq_some_iff, get?_built_eq_some_iff]
    exact hlast t c

/-- Emptied, filled out of order and overwritten. -/
def tangledChanges : List (Change InbuiltComponent) :=
  [.insert (.transform Matrix.identity), .insert (.entity ⟨3, 4⟩), .clear,
    .insert (.guid #v[9, 9, 9, 9]), .insert (.parent ⟨1⟩), .insert (.guid #v[1, 2, 3, 4]),
    .insert (.parent ⟨7⟩)]

/-- What was put in last, at once and in another order. -/
def straightChanges : List (Change InbuiltComponent) :=
  [.collect [.parent ⟨7⟩, .guid #v[1, 2, 3, 4]]]

theorem tangledChanges_canonical :
    (∀ c : InbuiltComponent, (tag c).toNat < kindCount InbuiltComponent) ∧
      (built tangledChanges).components = [.parent ⟨7⟩, .guid #v[1, 2, 3, 4]] ∧
      (built tangledChanges).put (.guid #v[5, 6, 7, 8]) =
        (some (.guid #v[1, 2, 3, 4]), ⟨[.parent ⟨7⟩, .guid #v[5, 6, 7, 8]]⟩) ∧
      built straightChanges = built tangledChanges ∧ Canonical tangledChanges := by
  have htag : ∀ c : InbuiltComponent, (tag c).toNat < kindCount InbuiltComponent :=
    LawfulComponentSet.tag_lt
  have hcanonical := canonical_of_changes htag tangledChanges
  refine ⟨htag, by decide +kernel, ?_, by decide +kernel, hcanonical⟩
  rw [hcanonical.put]
  decide +kernel

end SceneBridge.Wire.Snapshot
