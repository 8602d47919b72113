import Mathlib.Data.List.Induction
import SceneBridge.Proofs.Wire.RoundTrip

/-!
# What a buffer decodes to

Of the records of a kind the first that can be read is accepted; `Accepted` says so by position, and
`Refused` names the fault of every other record. A decoder takes one record after the other, so what
it has taken in is described by `Taken` for each beginning of the buffer. Records of the built-in
set count for no more than their tag and the bytes that it selects.
-/

namespace SceneBridge.Wire

variable {U : Type} [ComponentSet U]

open ComponentSet (kindCount ofRaw rawTag tag toRaw)

/-- Reading fails for the tag of a record alone, and the fault names it. -/
class ReadsByTag (U : Type) [ComponentSet U] : Prop where
  eq_unknownKind : ∀ (r : Raw U) (err : CodecError), ofRaw (U := U) r = .error err →
    err = .unknownKind (rawTag r)

instance : ReadsByTag InbuiltComponent where
  eq_unknownKind r err h := by
    change InbuiltComponent.ofRaw r = .error err at h
    unfold InbuiltComponent.ofRaw at h
    split at h
    all_goals simp_all
    exact h.symm

/-! ## Accepted and refused records -/

/-- Record `i` can be read, and no record in front of it that can be read is of the same kind. -/
def Accepted (records : List (Raw U)) (i : Nat) (c : U) : Prop :=
  records[i]?.map (ofRaw (U := U)) = some (.ok c) ∧
    ∀ j < i, ∀ d : U, records[j]?.map (ofRaw (U := U)) = some (.ok d) → tag d ≠ tag c

/-- Record `i` is not accepted, for want of a known kind or of a kind that is new. -/
inductive Refused (U : Type) [ComponentSet U] (records : List (Raw U)) (i : Nat) : CodecError → Prop
  | unknown {r : Raw U} {err : CodecError} (here : records[i]? = some r)
      (unreadable : ofRaw (U := U) r = .error err) : Refused U records i (.unknownKind (rawTag r))
  | repeated {r : Raw U} {c : U} (here : records[i]? = some r) (readable : ofRaw r = .ok c)
      (late : ¬ Accepted records i c) : Refused U records i (.duplicateKind (rawTag r))

variable {records : List (Raw U)} {r : Raw U} {i j : Nat} {c d : U}

theorem Accepted.lt_length (h : Accepted records i c) : i < records.length := by
  have hread := h.1
  by_contra hle
  rw [List.getElem?_eq_none (by omega)] at hread
  simp at hread

theorem exists_accepted (h : records[j]?.map (ofRaw (U := U)) = some (.ok d)) :
    ∃ i ≤ j, ∃ c : U, Accepted records i c ∧ tag c = tag d := by
  induction j using Nat.strongRecOn generalizing d with
  | ind j ih =>
    by_cases hfirst : ∃ k < j, ∃ e : U,
        records[k]?.map (ofRaw (U := U)) = some (.ok e) ∧ tag e = tag d
    · obtain ⟨k, hk, e, hread, heq⟩ := hfirst
      obtain ⟨i, hi, c, hc, htag⟩ := ih k hk hread
      exact ⟨i, by omega, c, hc, htag.trans heq⟩
    · refine ⟨j, Nat.le_refl j, d, ⟨h, fun k hk e he heq => ?_⟩, rfl⟩
      exact hfirst ⟨k, hk, e, he, heq⟩

/-! ### One more record -/

theorem getElem?_concat_of_lt (hi : i < records.length) : (records ++ [r])[i]? = records[i]? :=
  List.getElem?_append_left hi

theorem accepted_concat_of_lt (hi : i < records.length) :
    Accepted (records ++ [r]) i c ↔ Accepted records i c := by
  have hj : ∀ j < i, (records ++ [r])[j]? = records[j]? := fun j hj =>
    getElem?_concat_of_lt (by omega)
  unfold Accepted
  rw [getElem?_concat_of_lt hi]
  constructor
  · rintro ⟨hread, hfirst⟩
    exact ⟨hread, fun j hlt => hj j hlt ▸ hfirst j hlt⟩
  · rintro ⟨hread, hfirst⟩
    exact ⟨hread, fun j hlt => (hj j hlt).symm ▸ hfirst j hlt⟩

theorem accepted_concat_last :
    Accepted (records ++ [r]) records.length c ↔
      ofRaw r = .ok c ∧ ∀ i d, Accepted (U := U) records i d → tag d ≠ tag c := by
  unfold Accepted
  rw [List.getElem?_concat_length, Option.map_some, Option.some.injEq]
  refine and_congr_right fun _ => ⟨fun h i d hd => ?_, fun h j hj d hd heq => ?_⟩
  · have hi : i < records.length := Accepted.lt_length hd
    exact h i hi d (by rw [getElem?_concat_of_lt hi]; exact hd.1)
  · rw [getElem?_concat_of_lt hj] at hd
    obtain ⟨i, -, e, he, htag⟩ := exists_accepted hd
    exact h i e he (htag.trans heq)

/-- A property of positions that a further record does not take from the earlier ones holds, with
that record, where it held before, and perhaps at the end. -/
theorem concat_iff {P : List (Raw U) → Nat → Prop}
    (hlength : ∀ records i, P records i → i < records.length)
    (hearlier : i < records.length → (P (records ++ [r]) i ↔ P records i)) :
    P (records ++ [r]) i ↔
      P records i ∨ i = records.length ∧ P (records ++ [r]) records.length := by
  constructor
  · intro h
    have hle := hlength _ _ h
    rw [List.length_append, List.length_singleton] at hle
    by_cases hi : i < records.length
    · exact .inl ((hearlier hi).mp h)
    · obtain rfl : i = records.length := by omega
      exact .inr ⟨rfl, h⟩
  · rintro (h | ⟨rfl, h⟩)
    · exact (hearlier (hlength _ _ h)).mpr h
    · exact h

theorem accepted_concat_iff :
    Accepted (records ++ [r]) i c ↔
      Accepted records i c ∨ i = records.length ∧ Accepted (records ++ [r]) records.length c :=
  concat_iff (P := fun records i => Accepted records i c) (fun _ _ h => h.lt_length)
    accepted_concat_of_lt

theorem Refused.lt_length {err : CodecError} (h : Refused U records i err) :
    i < records.length := by
  cases h with
  | unknown here _ => exact (List.getElem?_eq_some_iff.mp here).1
  | repeated here _ _ => exact (List.getElem?_eq_some_iff.mp here).1

theorem refused_concat_of_lt {err : CodecError} (hi : i < records.length) :
    Refused U (records ++ [r]) i err ↔ Refused U records i err := by
  have hget : (records ++ [r])[i]? = records[i]? := getElem?_concat_of_lt hi
  constructor
  · intro h
    cases h with
    | unknown here unreadable => exact .unknown (hget ▸ here) unreadable
    | repeated here readable late =>
      exact .repeated (hget ▸ here) readable fun h => late ((accepted_concat_of_lt hi).mpr h)
  · intro h
    cases h with
    | unknown here unreadable => exact .unknown (hget.trans here) unreadable
    | repeated here readable late =>
      exact .repeated (hget.trans here) readable fun h => late ((accepted_concat_of_lt hi).mp h)

theorem refused_concat_iff {err : CodecError} :
    Refused U (records ++ [r]) i err ↔
      Refused U records i err ∨
        i = records.length ∧ Refused U (records ++ [r]) records.length err :=
  concat_iff (P := fun records i => Refused U records i err) (fun _ _ h => h.lt_length)
    refused_concat_of_lt

theorem refused_concat_last_of_ok {err : CodecError} (readable : ofRaw r = .ok c) :
    Refused U (records ++ [r]) records.length err ↔
      err = .duplicateKind (rawTag r) ∧ ¬ Accepted (records ++ [r]) records.length c := by
  have hhere : (records ++ [r])[records.length]? = some r := List.getElem?_concat_length
  constructor
  · intro h
    cases h with
    | unknown here unreadable =>
      obtain rfl := Option.some.inj (here.symm.trans hhere)
      simp [readable] at unreadable
    | repeated here readable' late =>
      obtain rfl := Option.some.inj (here.symm.trans hhere)
      obtain rfl := Except.ok.inj (readable'.symm.trans readable)
      exact ⟨rfl, late⟩
  · rintro ⟨rfl, late⟩
    exact .repeated hhere readable late

theorem refused_concat_last_of_error {err err' : CodecError}
    (unreadable : ofRaw (U := U) r = .error err) :
    Refused U (records ++ [r]) records.length err' ↔ err' = .unknownKind (rawTag r) := by
  have hhere : (records ++ [r])[records.length]? = some r := List.getElem?_concat_length
  constructor
  · intro h
    cases h with
    | unknown here _ => rw [Option.some.inj (here.symm.trans hhere)]
    | repeated here readable _ =>
      obtain rfl := Option.some.inj (here.symm.trans hhere)
      simp [unreadable] at readable
  · rintro rfl
    exact .unknown hhere unreadable

/-! ## The course of decoding -/

namespace Snapshot

theorem contains_iff {s : Snapshot U} {t : UInt8} :
    s.contains t = true ↔ ∃ c ∈ s.components, tag c = t := by
  simp [contains, get?, List.find?_isSome]

theorem mem_place_iff {ds : List U} (hnew : ∀ e ∈ ds, tag e ≠ tag c) :
    d ∈ place c ds ↔ d = c ∨ d ∈ ds := by
  induction ds with
  | nil => simp [place]
  | cons e ds ih =>
    have hne : tag c ≠ tag e := fun h => hnew e List.mem_cons_self h.symm
    have hrest := ih fun f hf => hnew f (List.mem_cons_of_mem e hf)
    unfold place
    split
    · simp
    · rw [List.mem_cons, List.mem_cons, hrest]
      exact or_left_comm

theorem length_place {ds : List U} (hnew : ∀ e ∈ ds, tag e ≠ tag c) :
    (place c ds).length = ds.length + 1 := by
  induction ds with
  | nil => rfl
  | cons e ds ih =>
    have hne : tag c ≠ tag e := fun h => hnew e List.mem_cons_self h.symm
    have hrest := ih fun f hf => hnew f (List.mem_cons_of_mem e hf)
    unfold place
    split
    · simp
    · rw [List.length_cons, List.length_cons, hrest]

end Snapshot

def Decoded.takeIn (d : Decoded U) (i : Nat) (r : Raw U) : Decoded U :=
  match ofRaw r with
  | .ok (c : U) =>
    if d.snapshot.contains (tag c) then
      { d with errors := d.errors ++ [(i, .duplicateKind (rawTag r))] }
    else { d with snapshot := d.snapshot.insert c }
  | .error err => { d with errors := d.errors ++ [(i, err)] }

theorem Decoded.takeIn_cons (d : Decoded U) (i : Nat) (r : Raw U) (e : Nat × CodecError) :
    Decoded.takeIn { d with errors := e :: d.errors } i r =
      { d.takeIn i r with errors := e :: (d.takeIn i r).errors } := by
  unfold Decoded.takeIn
  split
  · split
    · rfl
    · rfl
  · rfl

theorem decodeFrom_concat (index : Nat) (s : Snapshot U) (records : List (Raw U)) (r : Raw U) :
    decodeFrom index s (records ++ [r]) =
      (decodeFrom index s records).takeIn (index + records.length) r := by
  induction records generalizing index s with
  | nil =>
    rw [List.nil_append, decodeFrom, decodeFrom, Decoded.takeIn]
    cases ofRaw (U := U) r with
    | error err => rfl
    | ok c =>
      simp only
      split
      · rfl
      · rfl
  | cons q records ih =>
    have hindex : index + 1 + records.length = index + (records.length + 1) := by omega
    rw [List.cons_append, List.length_cons, ← hindex, decodeFrom, decodeFrom]
    cases ofRaw (U := U) q with
    | error err =>
      simp only [ih]
      rw [Decoded.takeIn_cons]
    | ok c =>
      simp only
      split
      · simp only [ih]
        rw [Decoded.takeIn_cons]
      · exact ih (index + 1) (s.insert c)

structure Taken (records : List (Raw U)) (d : Decoded U) : Prop where
  accepted : ∀ c, c ∈ d.snapshot.components ↔ ∃ i, Accepted records i c
  refused : ∀ i err, (i, err) ∈ d.errors ↔ Refused U records i err
  in_order : d.errors.Pairwise fun p q => p.1 < q.1
  total : d.snapshot.size + d.errors.length = records.length

namespace Taken

variable {out : Decoded U}

theorem nil : Taken (U := U) [] {} := by
  refine ⟨fun c => ?_, fun i err => ?_, .nil, rfl⟩
  · constructor
    · intro h
      simp at h
    · rintro ⟨i, h⟩
      exact absurd h.lt_length (by simp)
  · constructor
    · intro h
      simp at h
    · intro h
      exact absurd h.lt_length (by simp)

theorem contains_iff (h : Taken records out) {t : UInt8} :
    out.snapshot.contains t = true ↔ ∃ i d, Accepted (U := U) records i d ∧ tag d = t := by
  rw [Snapshot.contains_iff]
  constructor
  · rintro ⟨d, hd, htag⟩
    obtain ⟨i, hi⟩ := (h.accepted d).mp hd
    exact ⟨i, d, hi, htag⟩
  · rintro ⟨i, d, hd, htag⟩
    exact ⟨d, (h.accepted d).mpr ⟨i, hd⟩, htag⟩

theorem accept (h : Taken records out) (readable : ofRaw r = .ok c)
    (hnew : ∀ i d, Accepted (U := U) records i d → tag d ≠ tag c) :
    Taken (records ++ [r]) { out with snapshot := out.snapshot.insert c } := by
  have hlast : ∀ d : U, Accepted (records ++ [r]) records.length d ↔ d = c := by
    intro d
    rw [accepted_concat_last, readable, Except.ok.injEq]
    constructor
    · rintro ⟨heq, -⟩
      exact heq.symm
    · rintro rfl
      exact ⟨rfl, hnew⟩
  have hplace : ∀ d ∈ out.snapshot.components, tag d ≠ tag c := by
    intro d hd
    obtain ⟨i, hi⟩ := (h.accepted d).mp hd
    exact hnew i d hi
  refine ⟨fun d => ?_, fun i err => ?_, h.in_order, ?_⟩
  · simp only [Snapshot.insert, Snapshot.mem_place_iff hplace, h.accepted, accepted_concat_iff,
      hlast, exists_or, exists_eq_left]
    exact or_comm
  · have hgood : ¬ Refused U (records ++ [r]) records.length err := by
      rw [refused_concat_last_of_ok readable]
      rintro ⟨-, late⟩
      exact late ((hlast c).mpr rfl)
    rw [h.refused, refused_concat_iff, or_iff_left]
    exact fun hbad => hgood hbad.2
  · have htotal := h.total
    have hlength := Snapshot.length_place hplace
    simp only [Snapshot.size, Snapshot.insert, List.length_append, List.length_singleton] at *
    omega

theorem refuse (h : Taken records out) {err : CodecError}
    (hbad : ∀ e, Refused U (records ++ [r]) records.length e ↔ e = err)
    (hlast : ∀ c : U, ¬ Accepted (records ++ [r]) records.length c) :
    Taken (records ++ [r]) { out with errors := out.errors ++ [(records.length, err)] } := by
  refine ⟨fun c => ?_, fun i e => ?_, ?_, ?_⟩
  · simp only [h.accepted, accepted_concat_iff, hlast, and_false, or_false]
  · rw [List.mem_append, h.refused, refused_concat_iff, hbad, List.mem_singleton, Prod.mk.injEq]
  · refine List.pairwise_append.mpr ⟨h.in_order, List.pairwise_singleton _ _, ?_⟩
    rintro ⟨i, e⟩ hmem q hq
    obtain rfl := List.mem_singleton.mp hq
    exact ((h.refused i e).mp hmem).lt_length
  · have htotal := h.total
    simp only [List.length_append, List.length_singleton]
    omega

theorem takeIn [ReadsByTag U] (h : Taken records out) (r : Raw U) :
    Taken (records ++ [r]) (out.takeIn records.length r) := by
  unfold Decoded.takeIn
  split
  · next c readable =>
    split
    · next hold =>
      have hlate : ¬ Accepted (records ++ [r]) records.length c := by
        rw [accepted_concat_last]
        rintro ⟨-, hnew⟩
        obtain ⟨i, d, hd, htag⟩ := h.contains_iff.mp hold
        exact hnew i d hd htag
      refine h.refuse (fun e => ?_) fun d hd => ?_
      · rw [refused_concat_last_of_ok readable, and_iff_left hlate]
      · have heq := (accepted_concat_last.mp hd).1
        rw [readable, Except.ok.injEq] at heq
        exact hlate (heq ▸ hd)
    · next hnew =>
      refine h.accept readable fun i d hd htag => hnew ?_
      exact h.contains_iff.mpr ⟨i, d, hd, htag⟩
  · next err unreadable =>
    refine h.refuse (fun e => ?_) fun d hd => ?_
    · rw [refused_concat_last_of_error unreadable, ReadsByTag.eq_unknownKind r err unreadable]
    · have hread := (accepted_concat_last.mp hd).1
      simp [unreadable] at hread

end Taken

theorem taken_decodeFrom [ReadsByTag U] (records : List (Raw U)) :
    Taken records (decodeFrom 0 (.empty : Snapshot U) records) := by
  induction records using List.reverseRecOn with
  | nil => exact .nil
  | append_singleton records r ih =>
    rw [decodeFrom_concat, Nat.zero_add]
    exact ih.takeIn r

structure Decodes (records : List (Raw U)) (out : Decoded U) : Prop where
  overfull : kindCount U < records.length →
    out = { errors := [(kindCount U, .tooManyRecords records.length (kindCount U))] }
  ascending : out.snapshot.Sorted
  taken : records.length ≤ kindCount U → Taken records out

theorem decodes_decode [ReadsByTag U] (records : List (Raw U)) :
    Decodes records (decode (U := U) records) := by
  refine ⟨fun hlong => ?_, sorted_decode records, fun hfits => ?_⟩
  · rw [decode, if_pos hlong]
  · rw [decode, if_neg (Nat.not_lt.mpr hfits)]
    exact taken_decodeFrom records

/-! ## Records of the built-in set -/

namespace RawRecord

def bytes (r : RawRecord) : List UInt8 := r.payload.toList.flatMap wordBytes

/-- The bytes that a tag selects, from the front of the payload. -/
def byteCount (tag : UInt8) : Nat :=
  if tag = 0 then 8 else if tag = 1 then 8 else if tag = 2 then 16 else if tag = 3 then 64 else 0

/-- The part of a record that counts: its tag and the bytes that the tag selects. -/
def shown (r : RawRecord) : UInt8 × List UInt8 := (r.tag, r.bytes.take (byteCount r.tag))

theorem byteCount_eq (tag : UInt8) : byteCount tag = 4 * wordCount tag := by
  unfold byteCount wordCount
  split_ifs
  all_goals rfl

theorem take_flatMap_wordBytes (words : List UInt32) (n : Nat) :
    (words.flatMap wordBytes).take (4 * n) = (words.take n).flatMap wordBytes := by
  induction words generalizing n with
  | nil => simp
  | cons w words ih =>
    cases n with
    | zero => simp
    | succ n =>
      have hfour : 4 * (n + 1) = 4 * n + 1 + 1 + 1 + 1 := by omega
      rw [hfour, List.take_succ_cons, List.flatMap_cons, List.flatMap_cons, ← ih n]
      rfl

theorem shown_eq (r : RawRecord) : r.shown = (r.tag, r.selected.flatMap wordBytes) := by
  rw [shown, bytes, byteCount_eq, take_flatMap_wordBytes, selected]

theorem wordCount_le (tag : UInt8) : wordCount tag ≤ 16 := by
  unfold wordCount
  split_ifs
  all_goals omega

theorem getElem?_selected (r : RawRecord) {i : Nat} (hi : i < wordCount r.tag) :
    r.selected[i]? = some (r.word i) := by
  have hsize := wordCount_le r.tag
  have hlt : i < 16 := by omega
  rw [selected, List.getElem?_take_of_lt hi, word, Vector.getElem?_toList,
    Vector.getElem?_eq_getElem hlt]
  rfl

theorem shown_eq_iff {r r' : RawRecord} :
    r.shown = r'.shown ↔ r.tag = r'.tag ∧ ∀ i < wordCount r.tag, r.word i = r'.word i := by
  rw [shown_eq, shown_eq, Prod.mk.injEq]
  refine and_congr_right fun htag => ⟨fun hbytes i hi => ?_, fun hwords => ?_⟩
  · -- bytes are read back to the words they were written from
    have hselected := congrArg wordsOfBytes hbytes
    rw [wordsOfBytes_flatMap, wordsOfBytes_flatMap] at hselected
    have hget := getElem?_selected r' (htag ▸ hi)
    rw [← hselected, getElem?_selected r hi] at hget
    exact Option.some.inj hget
  · refine congrArg (List.flatMap wordBytes) (List.ext_getElem? fun i => ?_)
    by_cases hi : i < wordCount r.tag
    · rw [getElem?_selected r hi, getElem?_selected r' (htag ▸ hi), hwords i hi]
    · rw [selected, selected, List.getElem?_take_eq_none (by omega),
        List.getElem?_take_eq_none (by rw [← htag]; omega)]

end RawRecord

namespace InbuiltComponent

theorem ofRaw_congr {r r' : RawRecord} (h : r.shown = r'.shown) : ofRaw r = ofRaw r' := by
  obtain ⟨htag, hwords⟩ := RawRecord.shown_eq_iff.mp h
  unfold ofRaw
  rw [← htag]
  split
  · next h0 =>
    have hcount : RawRecord.wordCount r.tag = 2 := by rw [h0]; rfl
    rw [hwords 0 (by omega), hwords 1 (by omega)]
  · next h1 =>
    have hcount : RawRecord.wordCount r.tag = 2 := by rw [h1]; rfl
    rw [hwords 0 (by omega), hwords 1 (by omega)]
  · next h2 =>
    have hcount : RawRecord.wordCount r.tag = 4 := by rw [h2]; rfl
    rw [hwords 0 (by omega), hwords 1 (by omega), hwords 2 (by omega), hwords 3 (by omega)]
  · next h3 =>
    have hcount : RawRecord.wordCount r.tag = 16 := by rw [h3]; rfl
    have hpayload : r.payload = r'.payload := by
      ext i hi
      have hword := hwords i (by omega)
      simpa [RawRecord.word, hi] using congrArg UInt32.toNat hword
    rw [hpayload]
  · rfl

theorem shown_toRaw {r : RawRecord} {c : InbuiltComponent} (h : ofRaw r = .ok c) :
    c.toRaw.shown = r.shown := by
  rw [RawRecord.shown_eq_iff]
  unfold ofRaw at h
  split at h
  · next h0 =>
    obtain rfl := Except.ok.inj h
    refine ⟨h0.symm, fun i hi => ?_⟩
    have hi : i < 2 := hi
    rcases i with _ | _ | i
    · simp [toRaw, RawRecord.word, RawRecord.pad, words]
    · simp [toRaw, RawRecord.word, RawRecord.pad, words]
    · omega
  · next h1 =>
    obtain rfl := Except.ok.inj h
    refine ⟨h1.symm, fun i hi => ?_⟩
    have hi : i < 2 := hi
    rcases i with _ | _ | i
    · simp [toRaw, RawRecord.word, RawRecord.pad, words]
    · simp [toRaw, RawRecord.word, RawRecord.pad, words]
    · omega
  · next h2 =>
    obtain rfl := Except.ok.inj h
    refine ⟨h2.symm, fun i hi => ?_⟩
    have hi : i < 4 := hi
    rcases i with _ | _ | _ | _ | i
    · simp [toRaw, RawRecord.word, RawRecord.pad, words]
    · simp [toRaw, RawRecord.word, RawRecord.pad, words]
    · simp [toRaw, RawRecord.word, RawRecord.pad, words]
    · simp [toRaw, RawRecord.word, RawRecord.pad, words]
    · omega
  · next h3 =>
    obtain rfl := Except.ok.inj h
    refine ⟨h3.symm, fun i hi => ?_⟩
    have hi : i < 16 := hi
    simp [toRaw, RawRecord.word, RawRecord.pad, words, hi]
  · simp at h

end InbuiltComponent

theorem decodeFrom_congr {records records' : List RawRecord}
    (h : records.map RawRecord.shown = records'.map RawRecord.shown) (index : Nat)
    (s : Snapshot InbuiltComponent) : decodeFrom index s records = decodeFrom index s records' := by
  induction records generalizing records' index s with
  | nil =>
    obtain rfl := List.map_eq_nil_iff.mp h.symm
    rfl
  | cons r rs ih =>
    cases records' with
    | nil => simp at h
    | cons r' rs' =>
      obtain ⟨hfirst, hrest⟩ := List.cons.inj h
      have hread : ofRaw (U := InbuiltComponent) r = ofRaw r' := InbuiltComponent.ofRaw_congr hfirst
      have htag : rawTag (U := InbuiltComponent) r = rawTag (U := InbuiltComponent) r' :=
        congrArg Prod.fst hfirst
      have hrests := fun index s => ih hrest index s
      unfold decodeFrom
      rw [hread, htag]
      simp only [hrests]

/-- The records that a decoded buffer is written back as: on the bytes that count they are the
accepted ones, in order of their tags. -/
structure WrittenBack (records back : List RawRecord) : Prop where
  ascending : back.Pairwise fun r r' => r.tag < r'.tag
  mem_iff : ∀ v, v ∈ back.map RawRecord.shown ↔
    ∃ i r, records[i]? = some r ∧ (∃ c : InbuiltComponent, Accepted records i c) ∧ r.shown = v

theorem writtenBack_of_taken {records : List RawRecord} {out : Decoded InbuiltComponent}
    (hsorted : out.snapshot.Sorted) (h : Taken records out) :
    WrittenBack records (encode out.snapshot) := by
  refine ⟨List.pairwise_map.mpr hsorted, fun v => ?_⟩
  rw [encode, List.map_map, List.mem_map]
  constructor
  · rintro ⟨c, hc, rfl⟩
    obtain ⟨i, hi⟩ := (h.accepted c).mp hc
    obtain ⟨r, hr, hread⟩ := Option.map_eq_some_iff.mp hi.1
    exact ⟨i, r, hr, ⟨c, hi⟩, (InbuiltComponent.shown_toRaw hread).symm⟩
  · rintro ⟨i, r, hr, ⟨c, hi⟩, rfl⟩
    have hread := hi.1
    rw [hr] at hread
    exact ⟨c, (h.accepted c).mpr ⟨i, hi⟩, InbuiltComponent.shown_toRaw (Option.some.inj hread)⟩

/-- Over every set of components a buffer decodes to the accepted records and reports the others;
over the built-in set only the bytes that tags select count, and they are written back. -/
theorem buffers_decode :
    (∀ (U : Type) [ComponentSet U] [ReadsByTag U] (records : List (Raw U)),
      Decodes records (decode (U := U) records)) ∧
      (∀ records records' : List RawRecord,
        records.map RawRecord.shown = records'.map RawRecord.shown →
        decode (U := InbuiltComponent) records = decode records') ∧
      ∀ records : List RawRecord, records.length ≤ kindCount InbuiltComponent →
        WrittenBack records (encode (decode (U := InbuiltComponent) records).snapshot) := by
  refine ⟨fun U _ _ records => decodes_decode records, fun records records' h => ?_, ?_⟩
  · have hlength := congrArg List.length h
    rw [List.length_map, List.length_map] at hlength
    unfold decode
    rw [hlength, decodeFrom_congr h]
  · intro records hfits
    have hdecodes := decodes_decode (U := InbuiltComponent) records
    exact writtenBack_of_taken hdecodes.ascending (hdecodes.taken hfits)

/-- A buffer with an unknown tag between two records of one kind, the tags out of order. -/
def mixedBuffer : List RawRecord :=
  [⟨1, RawRecord.pad [3, 4, 5]⟩, ⟨0, RawRecord.pad [7]⟩, ⟨250, RawRecord.pad [8]⟩,
    ⟨0, RawRecord.pad [9]⟩]

theorem mixedBuffer_decodes :
    decode (U := InbuiltComponent) mixedBuffer =
        { snapshot := ⟨[.parent ⟨7⟩, .entity ⟨3, 4⟩]⟩
          errors := [(2, .unknownKind 250), (3, .duplicateKind 0)] } ∧
      Decodes mixedBuffer (decode (U := InbuiltComponent) mixedBuffer) ∧
      WrittenBack mixedBuffer (encode (decode (U := InbuiltComponent) mixedBuffer).snapshot) ∧
      decode (U := InbuiltComponent) mixedBuffer =
        decode (RawRecord.mk 1 (RawRecord.pad [3, 4, 6]) :: mixedBuffer.tail) :=
  ⟨by decide +kernel, buffers_decode.1 InbuiltComponent mixedBuffer,
    buffers_decode.2.2 mixedBuffer (by decide), buffers_decode.2.1 _ _ (by decide +kernel)⟩

end SceneBridge.Wire
