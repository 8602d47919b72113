import SceneBridge.Correspondence

/-!
# Correspondence laws

The two directions of a table, read through `guest?` and `host?`, are inverse to each other and
never hold the reserved id: `Correspondence.Consistent`. Each operation keeps that, whatever its
arguments, and is described by what the two look-ups show afterwards. `Grown` and `Shrunk` compare a
table with a later one.
-/

namespace SceneBridge.Correspondence

/-- The two directions are inverse to each other, and every id in them is a proper one. -/
structure Consistent (t : Correspondence) : Prop where
  inverse : ∀ host guest, t.guest? host = some guest ↔ t.host? guest = some host
  valid : ∀ host guest, t.guest? host = some guest → guest.isValid = true

theorem consistent_empty : empty.Consistent :=
  ⟨fun host guest => by simp, fun host guest h => by simp at h⟩

theorem Consistent.host?_invalid {t : Correspondence} (ht : t.Consistent) :
    t.host? GuestId.invalid = none := by
  cases hh : t.host? GuestId.invalid with
  | none => rfl
  | some host =>
    have hvalid := ht.valid host _ ((ht.inverse host _).mpr hh)
    simp [GuestId.isValid] at hvalid

theorem containsHost_iff {t : Correspondence} {host : Entity} :
    t.containsHost host = true ↔ ∃ guest, t.guest? host = some guest := by
  rw [containsHost, Std.TreeMap.contains_eq_isSome_getElem?]
  exact Option.isSome_iff_exists

theorem containsHost_eq_false_iff {t : Correspondence} {host : Entity} :
    t.containsHost host = false ↔ t.guest? host = none := by
  rw [containsHost, Std.TreeMap.contains_eq_isSome_getElem?, Option.isSome_eq_false_iff,
    Option.isNone_iff_eq_none]
  rfl

theorem containsGuest_eq_false_iff {t : Correspondence} {guest : GuestId} :
    t.containsGuest guest = false ↔ t.host? guest = none := by
  rw [containsGuest, Std.TreeMap.contains_eq_isSome_getElem?, Option.isSome_eq_false_iff,
    Option.isNone_iff_eq_none]
  rfl

theorem mem_toList_iff {t : Correspondence} {host : Entity} {guest : GuestId} :
    (host, guest) ∈ t.toList ↔ t.guest? host = some guest :=
  Std.TreeMap.mem_toList_iff_getElem?_eq_some

/-! ## Insertion -/

theorem insert_eq_ok_iff {t t' : Correspondence} {host : Entity} {guest : GuestId} :
    t.insert host guest = .ok t' ↔
      (guest.isValid = true ∧ t.containsHost host = false ∧ t.containsGuest guest = false) ∧
        t' = { byHost := t.byHost.insert host guest, byGuest := t.byGuest.insert guest host } := by
  unfold insert
  constructor
  · intro h
    split at h
    · simp at h
    · next hfree =>
      simp only [Bool.or_eq_true, Bool.not_eq_true', not_or, Bool.not_eq_true,
        Bool.not_eq_false] at hfree
      exact ⟨⟨hfree.1.1, hfree.1.2, hfree.2⟩, (Except.ok.inj h).symm⟩
  · rintro ⟨⟨hvalid, hhost, hguest⟩, rfl⟩
    simp [hvalid, hhost, hguest]

theorem insert_eq_error {t : Correspondence} {host : Entity} {guest : GuestId} {err : BridgeError}
    (h : t.insert host guest = .error err) : err = .duplicateMapping host guest := by
  unfold insert at h
  split at h
  · exact (Except.error.inj h).symm
  · simp at h

theorem guest?_insert {t t' : Correspondence} {host : Entity} {guest : GuestId}
    (h : t.insert host guest = .ok t') (other : Entity) :
    t'.guest? other = if host = other then some guest else t.guest? other := by
  obtain ⟨-, rfl⟩ := insert_eq_ok_iff.mp h
  simp only [guest?, Std.TreeMap.getElem?_insert, Std.compare_eq_iff_eq]

theorem host?_insert {t t' : Correspondence} {host : Entity} {guest : GuestId}
    (h : t.insert host guest = .ok t') (other : GuestId) :
    t'.host? other = if guest = other then some host else t.host? other := by
  obtain ⟨-, rfl⟩ := insert_eq_ok_iff.mp h
  simp only [host?, Std.TreeMap.getElem?_insert, Std.compare_eq_iff_eq]

theorem guest?_insert_eq_some_iff {t t' : Correspondence} {host : Entity} {guest : GuestId}
    (h : t.insert host guest = .ok t') {e : Entity} {id : GuestId} :
    t'.guest? e = some id ↔ t.guest? e = some id ∨ (e, id) = (host, guest) := by
  obtain ⟨⟨-, hhost, -⟩, -⟩ := insert_eq_ok_iff.mp h
  have hnone := containsHost_eq_false_iff.mp hhost
  rw [guest?_insert h]
  by_cases he : host = e
  · subst he
    simp [hnone, eq_comm]
  · have he' : e ≠ host := fun h => he h.symm
    simp [he, he']

theorem Consistent.insert {t t' : Correspondence} (ht : t.Consistent) {host : Entity}
    {guest : GuestId} (h : t.insert host guest = .ok t') : t'.Consistent := by
  obtain ⟨⟨hvalid, hhost, hguest⟩, -⟩ := insert_eq_ok_iff.mp h
  have hnoGuest := containsHost_eq_false_iff.mp hhost
  have hnoHost := containsGuest_eq_false_iff.mp hguest
  refine ⟨fun e id => ?_, fun e id he => ?_⟩
  · -- a pair with one new side and one old is in neither direction
    rw [guest?_insert h, host?_insert h]
    by_cases he : host = e
    · subst he
      by_cases hid : guest = id
      · simp [hid]
      · have hother := ht.inverse host id
        rw [hnoGuest] at hother
        simpa [hid] using hother
    · by_cases hid : guest = id
      · subst hid
        have hother := ht.inverse e guest
        rw [hnoHost] at hother
        simpa [he] using hother
      · simpa [he, hid] using ht.inverse e id
  · rcases (guest?_insert_eq_some_iff h).mp he with hold | hnew
    · exact ht.valid e id hold
    · obtain ⟨-, rfl⟩ := Prod.mk.inj hnew
      exact hvalid

theorem size_insert {t t' : Correspondence} {host : Entity} {guest : GuestId}
    (h : t.insert host guest = .ok t') : t'.size = t.size + 1 := by
  obtain ⟨⟨-, hhost, -⟩, rfl⟩ := insert_eq_ok_iff.mp h
  have hnew : ¬ t.byHost.contains host = true := Bool.not_eq_true _ ▸ hhost
  rw [size, size, Std.TreeMap.size_insert, if_neg hnew]

/-! ## Growth -/

def Grown (t t' : Correspondence) (pairs : List (Entity × GuestId)) : Prop :=
  ∀ host guest, t'.guest? host = some guest ↔ t.guest? host = some guest ∨ (host, guest) ∈ pairs

theorem Grown.refl (t : Correspondence) : t.Grown t [] := fun _ _ => by simp

theorem Grown.trans {t t' t'' : Correspondence} {pairs pairs' : List (Entity × GuestId)}
    (h : t.Grown t' pairs) (h' : t'.Grown t'' pairs') : t.Grown t'' (pairs ++ pairs') := by
  intro host guest
  rw [h' host guest, h host guest, List.mem_append, or_assoc]

theorem grown_insert {t t' : Correspondence} {host : Entity} {guest : GuestId}
    (h : t.insert host guest = .ok t') : t.Grown t' [(host, guest)] := by
  intro e id
  rw [guest?_insert_eq_some_iff h, List.mem_singleton]

theorem Grown.containsHost_iff {t t' : Correspondence} {pairs : List (Entity × GuestId)}
    (h : t.Grown t' pairs) (host : Entity) :
    t'.containsHost host = true ↔ t.containsHost host = true ∨ host ∈ pairs.map Prod.fst := by
  simp only [Correspondence.containsHost_iff, h host, exists_or, List.mem_map, Prod.exists,
    exists_and_right, exists_eq_right]

/-! ## Removal -/

theorem guest?_dropPair (t : Correspondence) (pair : Entity × GuestId) (e : Entity) :
    (t.dropPair pair).guest? e = if pair.1 = e then none else t.guest? e := by
  simp only [guest?, dropPair, Std.TreeMap.getElem?_erase, Std.compare_eq_iff_eq]

theorem host?_dropPair (t : Correspondence) (pair : Entity × GuestId) (id : GuestId) :
    (t.dropPair pair).host? id = if pair.2 = id then none else t.host? id := by
  simp only [host?, dropPair, Std.TreeMap.getElem?_erase, Std.compare_eq_iff_eq]

theorem Consistent.dropPair {t : Correspondence} (ht : t.Consistent) {host : Entity}
    {guest : GuestId} (hpair : t.guest? host = some guest) :
    (t.dropPair (host, guest)).Consistent := by
  refine ⟨fun e id => ?_, fun e id he => ?_⟩
  · rw [guest?_dropPair, host?_dropPair]
    by_cases he : host = e
    · subst he
      by_cases hid : guest = id
      · simp [hid]
      · have hother := ht.inverse host id
        simp only [hpair, Option.some.injEq, hid, false_iff] at hother
        simpa [hid] using hother
    · by_cases hid : guest = id
      · subst hid
        have hother := ht.inverse e guest
        rw [(ht.inverse host guest).mp hpair] at hother
        simpa [he] using hother
      · simpa [he, hid] using ht.inverse e id
  · rw [guest?_dropPair] at he
    split at he
    · simp at he
    · exact ht.valid e id he

theorem removeGuest_of_none {t : Correspondence} {guest : GuestId} (h : t.host? guest = none) :
    t.removeGuest guest = (none, t) := by
  rw [removeGuest, h]

theorem removeGuest_of_some {t : Correspondence} {guest : GuestId} {host : Entity}
    (h : t.host? guest = some host) :
    t.removeGuest guest = (some host, t.dropPair (host, guest)) := by
  rw [removeGuest, h]
  rfl

theorem size_dropPair {t : Correspondence} {host : Entity} {guest : GuestId}
    (h : t.guest? host = some guest) : (t.dropPair (host, guest)).size + 1 = t.size := by
  have hold : t.byHost.contains host = true := containsHost_iff.mpr ⟨guest, h⟩
  have hpos : 0 < t.byHost.size := by
    rw [← Std.TreeMap.length_toList]
    exact List.length_pos_of_mem (mem_toList_iff.mpr h)
  rw [size, size, dropPair, Std.TreeMap.size_erase, if_pos hold]
  exact Nat.succ_pred_eq_of_pos hpos

/-! ## Shrinking -/

/-- The second table holds the pairs of the first, but for those of the listed hosts. Each of these
had a pair to lose. -/
structure Shrunk (t t' : Correspondence) (hosts : List Entity) : Prop where
  consistent : t'.Consistent
  guest? : ∀ e, t'.guest? e = if e ∈ hosts then none else t.guest? e
  mapped : ∀ e ∈ hosts, t.containsHost e = true
  nodup : hosts.Nodup
  size : t'.size + hosts.length = t.size

theorem Shrunk.refl {t : Correspondence} (ht : t.Consistent) : t.Shrunk t [] :=
  ⟨ht, fun _ => by simp, fun _ h => by simp at h, .nil, rfl⟩

theorem shrunk_dropPair {t : Correspondence} (ht : t.Consistent) {host : Entity} {guest : GuestId}
    (hpair : t.guest? host = some guest) : t.Shrunk (t.dropPair (host, guest)) [host] := by
  refine ⟨ht.dropPair hpair, fun e => ?_, fun e he => ?_, List.pairwise_singleton _ host,
    size_dropPair hpair⟩
  · rw [guest?_dropPair]
    simp [eq_comm]
  · obtain rfl := List.mem_singleton.mp he
    exact containsHost_iff.mpr ⟨guest, hpair⟩

theorem Shrunk.trans {t t' t'' : Correspondence} {hosts hosts' : List Entity}
    (h : t.Shrunk t' hosts) (h' : t'.Shrunk t'' hosts') : t.Shrunk t'' (hosts ++ hosts') := by
  -- a host with a pair left to lose has not lost it before
  have hlater : ∀ e ∈ hosts', e ∉ hosts ∧ t.containsHost e = true := by
    intro e he
    obtain ⟨guest, hguest⟩ := containsHost_iff.mp (h'.mapped e he)
    rw [h.guest?] at hguest
    split at hguest
    · simp at hguest
    · next hnot => exact ⟨hnot, containsHost_iff.mpr ⟨guest, hguest⟩⟩
  refine ⟨h'.consistent, fun e => ?_, fun e he => ?_, ?_, ?_⟩
  · rw [h'.guest?, h.guest?]
    by_cases he' : e ∈ hosts'
    · simp [he']
    · simp [he']
  · rcases List.mem_append.mp he with he | he
    · exact h.mapped e he
    · exact (hlater e he).2
  · refine List.nodup_append.mpr ⟨h.nodup, h'.nodup, ?_⟩
    rintro e he e' he' rfl
    exact (hlater e he').1 he
  · rw [List.length_append, Nat.add_comm hosts.length, ← Nat.add_assoc, h'.size, h.size]

theorem Shrunk.host? {t t' : Correspondence} {hosts : List Entity} (h : t.Shrunk t' hosts)
    (ht : t.Consistent) {guest : GuestId} {host : Entity} (hhost : t'.host? guest = some host) :
    t.host? guest = some host := by
  have hguest := (h.consistent.inverse host guest).mpr hhost
  rw [h.guest?] at hguest
  split at hguest
  · simp at hguest
  · exact (ht.inverse host guest).mp hguest

/-! ## Retention -/

theorem guest?_foldl_dropPair (pairs : List (Entity × GuestId)) (t : Correspondence)
    (e : Entity) :
    (pairs.foldl dropPair t).guest? e =
      if e ∈ pairs.map Prod.fst then none else t.guest? e := by
  induction pairs generalizing t with
  | nil => simp
  | cons pair pairs ih =>
    rw [List.foldl_cons, ih, guest?_dropPair]
    by_cases he : pair.1 = e
    · simp [he]
    · have hmem : e ∈ (pair :: pairs).map Prod.fst ↔ e ∈ pairs.map Prod.fst := by
        rw [List.map_cons, List.mem_cons]
        exact or_iff_right fun h => he h.symm
      rw [if_neg he]
      simp only [hmem]

theorem mem_dropped_iff {t : Correspondence} {keep : Entity → Bool} {host : Entity}
    {guest : GuestId} :
    (host, guest) ∈ (t.retainHosts keep).1 ↔ t.guest? host = some guest ∧ keep host = false := by
  simp [retainHosts, mem_toList_iff]

theorem guest?_retainHosts (t : Correspondence) (keep : Entity → Bool) (e : Entity) :
    (t.retainHosts keep).2.guest? e = if keep e then t.guest? e else none := by
  have hmem : e ∈ (t.retainHosts keep).1.map Prod.fst ↔
      t.containsHost e = true ∧ keep e = false := by
    rw [containsHost_iff]
    constructor
    · intro he
      obtain ⟨⟨host, guest⟩, hpair, rfl⟩ := List.mem_map.mp he
      obtain ⟨hguest, hkeep⟩ := mem_dropped_iff.mp hpair
      exact ⟨⟨guest, hguest⟩, hkeep⟩
    · rintro ⟨⟨guest, hguest⟩, hkeep⟩
      exact List.mem_map.mpr ⟨(e, guest), mem_dropped_iff.mpr ⟨hguest, hkeep⟩, rfl⟩
  rw [show (t.retainHosts keep).2 = (t.retainHosts keep).1.foldl dropPair t from rfl,
    guest?_foldl_dropPair]
  by_cases hkeep : keep e = true
  · simp [hmem, hkeep]
  · cases hguest : t.guest? e with
    | none => simp [hkeep]
    | some guest =>
      have hcontains := containsHost_iff.mpr ⟨guest, hguest⟩
      simp [hmem, hkeep, hcontains]

theorem shrunk_foldl_dropPair {t : Correspondence} (ht : t.Consistent)
    {pairs : List (Entity × GuestId)} (hnodup : (pairs.map Prod.fst).Nodup)
    (hpairs : ∀ host guest, (host, guest) ∈ pairs → t.guest? host = some guest) :
    t.Shrunk (pairs.foldl dropPair t) (pairs.map Prod.fst) := by
  induction pairs generalizing t with
  | nil => exact .refl ht
  | cons pair pairs ih =>
    obtain ⟨host, guest⟩ := pair
    rw [List.map_cons, List.nodup_cons] at hnodup
    have hfirst := shrunk_dropPair ht (hpairs host guest List.mem_cons_self)
    refine hfirst.trans (ih hfirst.consistent hnodup.2 ?_)
    intro host' guest' hmem
    have hne : host ≠ host' := by
      rintro rfl
      exact hnodup.1 (List.mem_map.mpr ⟨(host, guest'), hmem, rfl⟩)
    rw [guest?_dropPair, if_neg hne]
    exact hpairs host' guest' (List.mem_cons_of_mem _ hmem)

theorem nodup_map_fst_toList (t : Correspondence) : (t.toList.map Prod.fst).Nodup := by
  refine List.pairwise_map.mpr ((Std.TreeMap.distinct_keys_toList (t := t.byHost)).imp ?_)
  intro p q hne heq
  exact hne (Std.compare_eq_iff_eq.mpr heq)

theorem shrunk_retainHosts {t : Correspondence} (ht : t.Consistent) (keep : Entity → Bool) :
    t.Shrunk (t.retainHosts keep).2 ((t.retainHosts keep).1.map Prod.fst) := by
  refine shrunk_foldl_dropPair ht ?_ ?_
  · exact (nodup_map_fst_toList t).sublist (List.filter_sublist.map Prod.fst)
  · intro host guest hmem
    exact (mem_dropped_iff.mp hmem).1

theorem Consistent.retainHosts {t : Correspondence} (ht : t.Consistent) (keep : Entity → Bool) :
    (t.retainHosts keep).2.Consistent :=
  (shrunk_retainHosts ht keep).consistent

end SceneBridge.Correspondence
