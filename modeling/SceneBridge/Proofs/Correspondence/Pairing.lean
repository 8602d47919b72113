import Mathlib.Data.Finset.Card
import Mathlib.Data.List.Nodup
import SceneBridge.Proofs.Correspondence

/-!
# A table is a partial bijection

Behind the two maps of a table stands one finite set of pairs in which each side has one partner: a
`Pairing`. `Pairing.Answers` says what a pairing answers to a call and what it then becomes. A table
answers every call as its pairing does and shows the pairing that this becomes
(`Correspondence.Shows.respond`), so whatever is called on a new table, it goes through the run of a
pairing (`Correspondence.tables_refine_pairings`).
-/

namespace SceneBridge

/-- Finitely many pairs of hosts and proper guest ids, in which neither side has two partners. -/
structure Pairing where
  pairs : Finset (Entity × GuestId)
  guest_unique : ∀ {host guest guest'}, (host, guest) ∈ pairs → (host, guest') ∈ pairs →
    guest = guest'
  host_unique : ∀ {host host' guest}, (host, guest) ∈ pairs → (host', guest) ∈ pairs →
    host = host'
  valid : ∀ {host guest}, (host, guest) ∈ pairs → guest.isValid = true

namespace Correspondence

inductive Call
  | insert (host : Entity) (guest : GuestId)
  | removeHost (host : Entity)
  | removeGuest (guest : GuestId)
  | retainHosts (keep : Entity → Bool)
  | clear

inductive Answer
  | inserted (outcome : Except BridgeError Unit)
  | guest (id : Option GuestId)
  | host (e : Option Entity)
  | dropped (pairs : List (Entity × GuestId))
  | cleared

def Answer.isRefusal : Answer → Bool
  | inserted (.error _) => true
  | inserted (.ok _) => false
  | guest id => id.isNone
  | host e => e.isNone
  | dropped pairs => pairs.isEmpty
  | cleared => false

def respond (t : Correspondence) : Call → Answer × Correspondence
  | .insert host guest =>
    match t.insert host guest with
    | .ok t' => (.inserted (.ok ()), t')
    | .error err => (.inserted (.error err), t)
  | .removeHost host => ((.guest (t.removeHost host).1), (t.removeHost host).2)
  | .removeGuest guest => ((.host (t.removeGuest guest).1), (t.removeGuest guest).2)
  | .retainHosts keep => ((.dropped (t.retainHosts keep).1), (t.retainHosts keep).2)
  | .clear => (.cleared, t.clear)

def after (t : Correspondence) (calls : List Call) : Correspondence :=
  calls.foldl (fun t c => (t.respond c).2) t

def transcript (t : Correspondence) : List Call → List (Call × Answer)
  | [] => []
  | c :: rest => (c, (t.respond c).1) :: (t.respond c).2.transcript rest

end Correspondence

namespace Pairing

open Correspondence (Call Answer)

def empty : Pairing where
  pairs := ∅
  guest_unique h := by simp at h
  host_unique h := by simp at h
  valid h := by simp at h

/-- The id is a proper one, and neither side has a partner yet. -/
structure Admits (P : Pairing) (host : Entity) (guest : GuestId) : Prop where
  valid : guest.isValid = true
  host_free : ∀ other, (host, other) ∉ P.pairs
  guest_free : ∀ other, (other, guest) ∉ P.pairs

def add (P : Pairing) {host : Entity} {guest : GuestId} (h : P.Admits host guest) : Pairing where
  pairs := insert (host, guest) P.pairs
  guest_unique {e id id'} hid hid' := by
    rw [Finset.mem_insert, Prod.mk.injEq] at hid hid'
    rcases hid with ⟨rfl, rfl⟩ | hid
    · rcases hid' with ⟨-, rfl⟩ | hid'
      · rfl
      · exact absurd hid' (h.host_free id')
    · rcases hid' with ⟨rfl, -⟩ | hid'
      · exact absurd hid (h.host_free id)
      · exact P.guest_unique hid hid'
  host_unique {e e' id} he he' := by
    rw [Finset.mem_insert, Prod.mk.injEq] at he he'
    rcases he with ⟨rfl, rfl⟩ | he
    · rcases he' with ⟨rfl, -⟩ | he'
      · rfl
      · exact absurd he' (h.guest_free e')
    · rcases he' with ⟨-, rfl⟩ | he'
      · exact absurd he (h.guest_free e)
      · exact P.host_unique he he'
  valid {e id} hmem := by
    rw [Finset.mem_insert, Prod.mk.injEq] at hmem
    rcases hmem with ⟨-, rfl⟩ | hmem
    · exact h.valid
    · exact P.valid hmem

def restrict (P : Pairing) (keep : Entity × GuestId → Bool) : Pairing where
  pairs := P.pairs.filter fun p => keep p = true
  guest_unique h h' := P.guest_unique (Finset.mem_of_mem_filter _ h) (Finset.mem_of_mem_filter _ h')
  host_unique h h' := P.host_unique (Finset.mem_of_mem_filter _ h) (Finset.mem_of_mem_filter _ h')
  valid h := P.valid (Finset.mem_of_mem_filter _ h)

def drop (P : Pairing) (pair : Entity × GuestId) : Pairing := P.restrict fun p => p ≠ pair

/-- What a pairing answers to a call, and what it then becomes. The pairs that are dropped together
are answered in any order. -/
inductive Answers (P : Pairing) : Call → Answer → Pairing → Prop
  | inserted {host : Entity} {guest : GuestId} (h : P.Admits host guest) :
    Answers P (.insert host guest) (.inserted (.ok ())) (P.add h)
  | refused {host : Entity} {guest : GuestId} (h : ¬ P.Admits host guest) :
    Answers P (.insert host guest) (.inserted (.error (.duplicateMapping host guest))) P
  | hostRemoved {host : Entity} {guest : GuestId} (h : (host, guest) ∈ P.pairs) :
    Answers P (.removeHost host) (.guest (some guest)) (P.drop (host, guest))
  | hostUnknown {host : Entity} (h : ∀ guest, (host, guest) ∉ P.pairs) :
    Answers P (.removeHost host) (.guest none) P
  | guestRemoved {host : Entity} {guest : GuestId} (h : (host, guest) ∈ P.pairs) :
    Answers P (.removeGuest guest) (.host (some host)) (P.drop (host, guest))
  | guestUnknown {guest : GuestId} (h : ∀ host, (host, guest) ∉ P.pairs) :
    Answers P (.removeGuest guest) (.host none) P
  | retained {keep : Entity → Bool} {dropped : List (Entity × GuestId)} (nodup : dropped.Nodup)
    (mem : ∀ p, p ∈ dropped ↔ p ∈ P.pairs ∧ keep p.1 = false) :
    Answers P (.retainHosts keep) (.dropped dropped) (P.restrict fun p => keep p.1)
  | cleared : Answers P .clear .cleared empty

inductive Run : Pairing → List (Call × Answer) → Pairing → Prop
  | nil (P : Pairing) : Run P [] P
  | cons {P P' P'' : Pairing} {c : Call} {a : Answer} {rest : List (Call × Answer)}
    (first : P.Answers c a P') (later : Run P' rest P'') : Run P ((c, a) :: rest) P''

variable {P : Pairing} {host : Entity} {guest : GuestId}

theorem mem_drop_iff {pair p : Entity × GuestId} :
    p ∈ (P.drop pair).pairs ↔ p ∈ P.pairs ∧ p ≠ pair := by
  simp [drop, restrict]

/-- In a pairing, to drop a pair is to drop whatever its host is in, and whatever its id is in. -/
theorem mem_drop_iff_of_mem (h : (host, guest) ∈ P.pairs) {e : Entity} {id : GuestId} :
    (e, id) ∈ (P.drop (host, guest)).pairs ↔ (e, id) ∈ P.pairs ∧ host ≠ e := by
  rw [mem_drop_iff]
  refine and_congr_right fun hmem => ⟨?_, ?_⟩
  · rintro hne rfl
    exact hne (by rw [P.guest_unique hmem h])
  · rintro hne heq
    exact hne (Prod.mk.inj heq).1.symm

end Pairing

namespace Correspondence

variable {t t' : Correspondence} {P : Pairing} {host : Entity} {guest : GuestId}

/-! ## Tables that show a pairing -/

/-- The maps of a table are inverse to each other, and their pairs are those of the pairing. -/
structure Shows (t : Correspondence) (P : Pairing) : Prop where
  consistent : t.Consistent
  pairs : ∀ host guest, t.guest? host = some guest ↔ (host, guest) ∈ P.pairs

theorem shows_empty : empty.Shows .empty :=
  ⟨consistent_empty, fun host guest => by simp [Pairing.empty]⟩

theorem Shows.host? (h : t.Shows P) (host : Entity) (guest : GuestId) :
    t.host? guest = some host ↔ (host, guest) ∈ P.pairs := by
  rw [← h.consistent.inverse, h.pairs]

theorem Shows.admits_iff (h : t.Shows P) :
    P.Admits host guest ↔
      guest.isValid = true ∧ t.containsHost host = false ∧ t.containsGuest guest = false := by
  rw [containsHost_eq_false_iff, containsGuest_eq_false_iff, Option.eq_none_iff_forall_ne_some,
    Option.eq_none_iff_forall_ne_some]
  constructor
  · intro hadmits
    exact ⟨hadmits.valid, fun id hid => hadmits.host_free id ((h.pairs host id).mp hid),
      fun e he => hadmits.guest_free e ((h.host? e guest).mp he)⟩
  · rintro ⟨hvalid, hhost, hguest⟩
    exact ⟨hvalid, fun id hid => hhost id ((h.pairs host id).mpr hid),
      fun e he => hguest e ((h.host? e guest).mpr he)⟩

theorem Shows.insert (h : t.Shows P) (hadmits : P.Admits host guest)
    (hinsert : t.insert host guest = .ok t') : t'.Shows (P.add hadmits) := by
  refine ⟨h.consistent.insert hinsert, fun e id => ?_⟩
  rw [guest?_insert_eq_some_iff hinsert, h.pairs, or_comm]
  exact Finset.mem_insert.symm

theorem Shows.dropPair (h : t.Shows P) (hpair : (host, guest) ∈ P.pairs) :
    (t.dropPair (host, guest)).Shows (P.drop (host, guest)) := by
  refine ⟨h.consistent.dropPair ((h.pairs host guest).mpr hpair), fun e id => ?_⟩
  rw [guest?_dropPair, Pairing.mem_drop_iff_of_mem hpair]
  by_cases he : host = e
  · simp [he]
  · simp [he, h.pairs]

theorem Shows.retainHosts (h : t.Shows P) (keep : Entity → Bool) :
    (t.retainHosts keep).2.Shows (P.restrict fun p => keep p.1) := by
  refine ⟨h.consistent.retainHosts keep, fun e id => ?_⟩
  rw [guest?_retainHosts]
  cases hkeep : keep e with
  | true => simp [Pairing.restrict, hkeep, h.pairs]
  | false => simp [Pairing.restrict, hkeep]

theorem removeHost_of_none (h : t.guest? host = none) : t.removeHost host = (none, t) := by
  rw [removeHost, h]

theorem removeHost_of_some (h : t.guest? host = some guest) :
    t.removeHost host = (some guest, t.dropPair (host, guest)) := by
  rw [removeHost, h]
  rfl

/-! ## Calls -/

theorem respond_insert_of_ok (h : t.insert host guest = .ok t') :
    t.respond (.insert host guest) = (.inserted (.ok ()), t') := by
  simp only [respond, h]

theorem respond_insert_of_error {err : BridgeError} (h : t.insert host guest = .error err) :
    t.respond (.insert host guest) = (.inserted (.error err), t) := by
  simp only [respond, h]

theorem Shows.respond (h : t.Shows P) (c : Call) :
    ∃ P', P.Answers c (t.respond c).1 P' ∧ (t.respond c).2.Shows P' := by
  cases c with
  | insert host guest =>
    by_cases hadmits : P.Admits host guest
    · have hinsert := insert_eq_ok_iff.mpr ⟨h.admits_iff.mp hadmits, rfl⟩
      rw [respond_insert_of_ok hinsert]
      exact ⟨_, .inserted hadmits, h.insert hadmits hinsert⟩
    · cases hinsert : t.insert host guest with
      | ok t' => exact absurd (h.admits_iff.mpr (insert_eq_ok_iff.mp hinsert).1) hadmits
      | error err =>
        rw [respond_insert_of_error hinsert, insert_eq_error hinsert]
        exact ⟨P, .refused hadmits, h⟩
  | removeHost host =>
    rw [Correspondence.respond]
    cases hguest : t.guest? host with
    | none =>
      rw [removeHost_of_none hguest]
      refine ⟨P, .hostUnknown fun id hid => ?_, h⟩
      simp [(h.pairs host id).mpr hid] at hguest
    | some guest =>
      have hpair := (h.pairs host guest).mp hguest
      rw [removeHost_of_some hguest]
      exact ⟨_, .hostRemoved hpair, h.dropPair hpair⟩
  | removeGuest guest =>
    rw [Correspondence.respond]
    cases hhost : t.host? guest with
    | none =>
      rw [removeGuest_of_none hhost]
      refine ⟨P, .guestUnknown fun e he => ?_, h⟩
      simp [(h.host? e guest).mpr he] at hhost
    | some host =>
      have hpair := (h.host? host guest).mp hhost
      rw [removeGuest_of_some hhost]
      exact ⟨_, .guestRemoved hpair, h.dropPair hpair⟩
  | retainHosts keep =>
    refine ⟨_, .retained ?_ fun p => ?_, h.retainHosts keep⟩
    · exact (List.Nodup.of_map Prod.fst t.nodup_map_fst_toList).filter _
    · rw [mem_dropped_iff, h.pairs]
  | clear => exact ⟨_, .cleared, shows_empty⟩

theorem respond_of_isRefusal (t : Correspondence) {c : Call}
    (h : (t.respond c).1.isRefusal = true) : (t.respond c).2 = t := by
  cases c with
  | insert host guest =>
    cases hinsert : t.insert host guest with
    | ok t' => simp [respond_insert_of_ok hinsert, Answer.isRefusal] at h
    | error err => rw [respond_insert_of_error hinsert]
  | removeHost host =>
    cases hguest : t.guest? host with
    | none => rw [respond, removeHost_of_none hguest]
    | some guest => simp [respond, removeHost_of_some hguest, Answer.isRefusal] at h
  | removeGuest guest =>
    cases hhost : t.host? guest with
    | none => rw [respond, removeGuest_of_none hhost]
    | some host => simp [respond, removeGuest_of_some hhost, Answer.isRefusal] at h
  | retainHosts keep =>
    have hnone : (t.retainHosts keep).1 = [] := List.isEmpty_iff.mp h
    show (t.retainHosts keep).1.foldl Correspondence.dropPair t = t
    rw [hnone, List.foldl_nil]
  | clear => simp [respond, Answer.isRefusal] at h

/-! ## Runs -/

/-- What a table tells of itself is what its pairing holds. -/
structure Tells (t : Correspondence) (P : Pairing) : Prop where
  guest : ∀ host guest, t.guest? host = some guest ↔ (host, guest) ∈ P.pairs
  host : ∀ host guest, t.host? guest = some host ↔ (host, guest) ∈ P.pairs
  containsHost : ∀ host, t.containsHost host = true ↔ ∃ guest, (host, guest) ∈ P.pairs
  containsGuest : ∀ guest, t.containsGuest guest = true ↔ ∃ host, (host, guest) ∈ P.pairs
  listed : t.toList.toFinset = P.pairs
  hosts_nodup : (t.toList.map Prod.fst).Nodup
  guests_nodup : (t.toList.map Prod.snd).Nodup
  size : t.size = P.pairs.card
  guests_size : t.byGuest.size = P.pairs.card
  isEmpty : t.isEmpty = true ↔ P.pairs = ∅
  proper : ∀ host, (host, GuestId.invalid) ∉ P.pairs

theorem Shows.listed (h : t.Shows P) : t.toList.toFinset = P.pairs := by
  ext ⟨host, guest⟩
  rw [List.mem_toFinset, mem_toList_iff, h.pairs]

theorem Shows.size (h : t.Shows P) : t.size = P.pairs.card := by
  have hnodup : t.toList.Nodup := .of_map Prod.fst t.nodup_map_fst_toList
  calc t.size = t.toList.length := Std.TreeMap.length_toList.symm
    _ = t.toList.toFinset.card := (List.toFinset_card_of_nodup hnodup).symm
    _ = P.pairs.card := by rw [h.listed]

theorem Shows.guests_size (h : t.Shows P) : t.byGuest.size = P.pairs.card := by
  have hkeys : (t.byGuest.toList.map Prod.fst).Nodup := by
    refine List.pairwise_map.mpr ((Std.TreeMap.distinct_keys_toList (t := t.byGuest)).imp ?_)
    intro p q hne heq
    exact hne (Std.compare_eq_iff_eq.mpr heq)
  have hnodup : (t.byGuest.toList.map Prod.swap).Nodup :=
    (List.Nodup.of_map Prod.fst hkeys).map Prod.swap_injective
  have hsame : (t.byGuest.toList.map Prod.swap).toFinset = P.pairs := by
    ext ⟨host, guest⟩
    have hmem : (host, guest) ∈ t.byGuest.toList.map Prod.swap ↔
        (guest, host) ∈ t.byGuest.toList := by simp
    rw [List.mem_toFinset, hmem, Std.TreeMap.mem_toList_iff_getElem?_eq_some]
    exact h.host? host guest
  calc t.byGuest.size = (t.byGuest.toList.map Prod.swap).length := by
        rw [List.length_map, Std.TreeMap.length_toList]
    _ = (t.byGuest.toList.map Prod.swap).toFinset.card :=
        (List.toFinset_card_of_nodup hnodup).symm
    _ = P.pairs.card := by rw [hsame]

theorem Shows.guests_nodup (h : t.Shows P) : (t.toList.map Prod.snd).Nodup := by
  have hnodup : t.toList.Nodup := .of_map Prod.fst t.nodup_map_fst_toList
  refine List.Nodup.map_on ?_ hnodup
  rintro ⟨e, id⟩ he ⟨e', id'⟩ he' heq
  obtain rfl : id = id' := heq
  rw [← List.mem_toFinset, h.listed] at he he'
  rw [P.host_unique he he']

theorem Shows.tells (h : t.Shows P) : t.Tells P := by
  refine ⟨h.pairs, h.host?, fun host => ?_, fun guest => ?_, h.listed, t.nodup_map_fst_toList,
    h.guests_nodup, h.size, h.guests_size, ?_, fun host hmem => ?_⟩
  · rw [containsHost_iff]
    exact exists_congr (h.pairs host)
  · rw [← not_iff_not, Bool.not_eq_true, containsGuest_eq_false_iff,
      Option.eq_none_iff_forall_ne_some, not_exists]
    exact forall_congr' fun host => not_congr (h.host? host guest)
  · rw [isEmpty, Std.TreeMap.isEmpty_eq_size_eq_zero, beq_iff_eq, ← Finset.card_eq_zero,
      ← h.size]
    rfl
  · have hvalid := P.valid hmem
    simp [GuestId.isValid] at hvalid

theorem Shows.run (h : t.Shows P) (calls : List Call) :
    ∃ P', P.Run (t.transcript calls) P' ∧ (t.after calls).Shows P' := by
  induction calls generalizing t P with
  | nil => exact ⟨P, .nil P, h⟩
  | cons c rest ih =>
    obtain ⟨P₁, hfirst, hnext⟩ := h.respond c
    obtain ⟨P₂, hlater, hlast⟩ := ih hnext
    exact ⟨P₂, .cons hfirst hlater, hlast⟩

/-- A new table answers whatever is called on it as one partial bijection does. After any calls both
its maps hold what that holds, and a further call that comes to nothing changes neither. -/
theorem tables_refine_pairings (calls : List Call) :
    ∃ P, Pairing.empty.Run (empty.transcript calls) P ∧ (empty.after calls).Tells P ∧
      ∀ c, ((empty.after calls).respond c).1.isRefusal = true →
        ((empty.after calls).respond c).2 = empty.after calls := by
  obtain ⟨P, hrun, hshows⟩ := shows_empty.run calls
  exact ⟨P, hrun, hshows.tells, fun c => respond_of_isRefusal (empty.after calls)⟩

end Correspondence

end SceneBridge
