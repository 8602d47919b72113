import SceneBridge.Wire.Inbuilt

/-!
# Snapshots survive the wire

A snapshot is sorted by tag however it was built, so it has at most as many components as there are
kinds, and decoding its encoding gives it back without an error. Records of the built-in set are
read back from their bytes.
-/

namespace SceneBridge.Wire

variable {U : Type} [ComponentSet U]

open ComponentSet (kindCount ofRaw rawTag tag toRaw)

namespace Snapshot

/-- Components stand in strictly ascending order of their tags. -/
def Sorted (s : Snapshot U) : Prop := s.components.Pairwise fun c d => tag c < tag d

theorem sorted_empty : (empty : Snapshot U).Sorted := List.Pairwise.nil

theorem mem_place {c d : U} {ds : List U} (h : d ∈ place c ds) : d = c ∨ d ∈ ds := by
  induction ds with
  | nil => simpa [place] using h
  | cons e ds ih =>
    unfold place at h
    split at h
    · simpa using h
    · split at h
      · rcases List.mem_cons.mp h with h | h
        · exact .inl h
        · exact .inr (List.mem_cons_of_mem e h)
      · rcases List.mem_cons.mp h with h | h
        · exact .inr (h ▸ List.mem_cons_self)
        · exact (ih h).imp_right (List.mem_cons_of_mem e)

theorem pairwise_place (c : U) {ds : List U} (h : ds.Pairwise fun c d => tag c < tag d) :
    (place c ds).Pairwise fun c d => tag c < tag d := by
  induction ds with
  | nil => simp [place]
  | cons d ds ih =>
    obtain ⟨hd, hds⟩ := List.pairwise_cons.mp h
    unfold place
    split
    · next hlt =>
      refine List.pairwise_cons.mpr ⟨fun e he => ?_, h⟩
      rcases List.mem_cons.mp he with rfl | he
      · exact hlt
      · exact UInt8.lt_trans hlt (hd e he)
    · next hge =>
      split
      · next heq => exact List.pairwise_cons.mpr ⟨fun e he => heq ▸ hd e he, hds⟩
      · next hne =>
        refine List.pairwise_cons.mpr ⟨fun e he => ?_, ih hds⟩
        rcases mem_place he with rfl | he
        · exact UInt8.lt_of_le_of_ne (UInt8.not_lt.mp hge) (Ne.symm hne)
        · exact hd e he

theorem Sorted.insert {s : Snapshot U} (hs : s.Sorted) (c : U) : (s.insert c).Sorted :=
  pairwise_place c hs

theorem Sorted.insertAll {s : Snapshot U} (hs : s.Sorted) (cs : List U) :
    (cs.foldl Snapshot.insert s).Sorted := by
  induction cs generalizing s with
  | nil => exact hs
  | cons c cs ih => exact ih (hs.insert c)

/-- What can be done to a snapshot: put a component in, alone or in a chain of such calls, empty it,
or collect another one. -/
inductive Change (U : Type)
  | insert (c : U)
  | clear
  | collect (cs : List U)

def changed (s : Snapshot U) : Change U → Snapshot U
  | .insert c => s.insert c
  | .clear => empty
  | .collect cs => ofList cs

def built (changes : List (Change U)) : Snapshot U := changes.foldl changed empty

theorem Sorted.changed {s : Snapshot U} (hs : s.Sorted) (change : Change U) :
    (s.changed change).Sorted := by
  cases change with
  | insert c => exact hs.insert c
  | clear => exact sorted_empty
  | collect cs => exact sorted_empty.insertAll cs

theorem sorted_built (changes : List (Change U)) : (built changes).Sorted := by
  have h : ∀ {s : Snapshot U}, s.Sorted → (changes.foldl Snapshot.changed s).Sorted := by
    induction changes with
    | nil => exact id
    | cons change changes ih => exact fun hs => ih (hs.changed change)
  exact h sorted_empty

theorem filter_tag {cs : List U} (h : cs.Pairwise fun c d => tag c < tag d) (t : UInt8) :
    (cs.filter fun c => tag c == t) = (cs.find? fun c => tag c == t).toList := by
  induction cs with
  | nil => rfl
  | cons c cs ih =>
    obtain ⟨hc, hcs⟩ := List.pairwise_cons.mp h
    by_cases heq : tag c = t
    · -- all others have greater tags
      have hnone : (cs.filter fun d => tag d == t) = [] := by
        refine List.filter_eq_nil_iff.mpr fun d hd hd' => ?_
        have hlt := hc d hd
        rw [heq, beq_iff_eq.mp hd'] at hlt
        exact UInt8.lt_irrefl t hlt
      simp [heq, hnone]
    · simp [heq, ih hcs]

theorem place_append {c : U} {ds : List U} (h : ∀ d ∈ ds, tag d < tag c) (es : List U) :
    place c (ds ++ es) = ds ++ place c es := by
  induction ds with
  | nil => rfl
  | cons d ds ih =>
    have hd := h d List.mem_cons_self
    have hne : tag c ≠ tag d := fun e => UInt8.lt_irrefl _ (e ▸ hd)
    rw [List.cons_append, place, if_neg (UInt8.lt_asymm hd), if_neg hne,
      ih fun e he => h e (List.mem_cons_of_mem d he), List.cons_append]

theorem contains_eq_false {s : Snapshot U} {t : UInt8} (h : ∀ d ∈ s.components, tag d < t) :
    s.contains t = false := by
  have hnone : s.get? t = none := by
    refine List.find?_eq_none.mpr fun d hd heq => ?_
    have hlt := h d hd
    rw [beq_iff_eq.mp heq] at hlt
    exact UInt8.lt_irrefl t hlt
  simp [contains, hnone]

/-- Tags between `low` and `high` in strictly ascending order are at most `high - low` many. -/
theorem length_add_le {cs : List U} (hcs : cs.Pairwise fun c d => tag c < tag d) {low high : Nat}
    (hlow : ∀ c ∈ cs, low ≤ (tag c).toNat) (hhigh : ∀ c ∈ cs, (tag c).toNat < high)
    (h : low ≤ high) : cs.length + low ≤ high := by
  induction cs generalizing low with
  | nil => simpa using h
  | cons c cs ih =>
    obtain ⟨hc, hcs⟩ := List.pairwise_cons.mp hcs
    have hfirst := hlow c List.mem_cons_self
    have hlast := hhigh c List.mem_cons_self
    have hrest : cs.length + ((tag c).toNat + 1) ≤ high := by
      refine ih hcs (fun d hd => ?_) (fun d hd => hhigh d (List.mem_cons_of_mem c hd)) hlast
      exact UInt8.lt_iff_toNat_lt.mp (hc d hd)
    rw [List.length_cons]
    omega

end Snapshot

theorem sorted_decodeFrom (index : Nat) {s : Snapshot U} (hs : s.Sorted) (records : List (Raw U)) :
    (decodeFrom index s records).snapshot.Sorted := by
  induction records generalizing index s with
  | nil => exact hs
  | cons r rs ih =>
    unfold decodeFrom
    split
    · split
      · exact ih (index + 1) hs
      · exact ih (index + 1) (hs.insert _)
    · exact ih (index + 1) hs

theorem sorted_decode (records : List (Raw U)) : (decode (U := U) records).snapshot.Sorted := by
  unfold decode
  split
  · exact Snapshot.sorted_empty
  · exact sorted_decodeFrom 0 Snapshot.sorted_empty records

variable [LawfulComponentSet U]

theorem Snapshot.Sorted.size_le {s : Snapshot U} (hs : s.Sorted) : s.size ≤ kindCount U :=
  Snapshot.length_add_le hs (fun _ _ => Nat.zero_le _)
    (fun c _ => LawfulComponentSet.tag_lt c) (Nat.zero_le _)

theorem decodeFrom_map_toRaw (cs : List U) (index : Nat) (s : Snapshot U)
    (h : (s.components ++ cs).Pairwise fun c d => tag c < tag d) :
    decodeFrom index s (cs.map toRaw) = { snapshot := ⟨s.components ++ cs⟩ } := by
  induction cs generalizing index s with
  | nil => simp [decodeFrom]
  | cons c cs ih =>
    have hbefore : ∀ d ∈ s.components, tag d < tag c := fun d hd =>
      (List.pairwise_append.mp h).2.2 d hd c List.mem_cons_self
    have hinsert : s.insert c = ⟨s.components ++ [c]⟩ := by
      have hplace := Snapshot.place_append hbefore []
      rw [List.append_nil] at hplace
      rw [Snapshot.insert, hplace]
      rfl
    have happend : s.components ++ [c] ++ cs = s.components ++ c :: cs := by simp
    rw [List.map_cons, decodeFrom, LawfulComponentSet.ofRaw_toRaw]
    simp only [Snapshot.contains_eq_false hbefore, Bool.false_eq_true, if_false, hinsert]
    rw [ih _ _ (happend ▸ h), happend]

theorem decode_encode {s : Snapshot U} (hs : s.Sorted) : decode (encode s) = { snapshot := s } := by
  have hsize : ¬ (encode s).length > kindCount U := by
    rw [length_encode]
    exact Nat.not_lt.mpr hs.size_le
  have hcomponents : ((Snapshot.empty : Snapshot U).components ++ s.components).Pairwise
      fun c d => tag c < tag d := hs
  rw [decode, if_neg hsize, encode, decodeFrom_map_toRaw _ _ _ hcomponents]
  rfl

/-! ## Any snapshot, any encoder -/

/-- What becomes of a snapshot that is encoded and then decoded: one record is sent for each kind
that is there, in ascending order, and it comes back unchanged. -/
structure Survives (e : Encoder U) (s : Snapshot U) : Prop where
  record : ∀ t, ((e.encode s).1.filter fun r => rawTag r == t) = ((s.get? t).map toRaw).toList
  ascending : (e.encode s).1.Pairwise fun r r' => rawTag r < rawTag r'
  length_le : (e.encode s).1.length ≤ kindCount U
  decode : Wire.decode (e.encode s).1 = { snapshot := s }

theorem Snapshot.Sorted.survives {s : Snapshot U} (hs : s.Sorted) (e : Encoder U) :
    Survives e s := by
  refine ⟨fun t => ?_, ?_, ?_, ?_⟩
  · have hmap : ((s.components.map toRaw).filter fun r => rawTag r == t) =
        (s.components.filter fun c => tag c == t).map toRaw := by
      rw [List.filter_map]
      refine congrArg _ (List.filter_congr fun c _ => ?_)
      rw [Function.comp_apply, LawfulComponentSet.rawTag_toRaw]
    rw [Encoder.value_encode, encode, hmap, Snapshot.filter_tag hs, Snapshot.get?,
      Option.toList_map]
  · rw [Encoder.value_encode, encode, List.pairwise_map]
    refine hs.imp fun {c d} hlt => ?_
    rwa [LawfulComponentSet.rawTag_toRaw, LawfulComponentSet.rawTag_toRaw]
  · rw [Encoder.value_encode, length_encode]
    exact hs.size_le
  · rw [Encoder.value_encode, decode_encode hs]

/-! ## Bytes -/

namespace RawRecord

theorem wordOfBytes_wordBytes (w : UInt32) :
    wordOfBytes w.toUInt8 (w >>> 8).toUInt8 (w >>> 16).toUInt8 (w >>> 24).toUInt8 = w := by
  have h8 : UInt32.toBitVec 8 % 32 = 8#32 := rfl
  have h16 : UInt32.toBitVec 16 % 32 = 16#32 := rfl
  have h24 : UInt32.toBitVec 24 % 32 = 24#32 := rfl
  apply UInt32.toBitVec_inj.mp
  apply BitVec.eq_of_getLsbD_eq
  intro i hi
  -- bit `i` is that of the one byte it falls into
  simp only [wordOfBytes, UInt32.toBitVec_or, UInt32.toBitVec_shiftLeft, UInt8.toBitVec_toUInt32,
    UInt32.toBitVec_toUInt8, UInt32.toBitVec_shiftRight, h8, h16, h24, BitVec.shiftLeft_eq',
    BitVec.ushiftRight_eq', BitVec.toNat_ofNat, BitVec.getLsbD_or, BitVec.getLsbD_shiftLeft,
    BitVec.getLsbD_setWidth, BitVec.getLsbD_ushiftRight, hi]
  grind

theorem wordsOfBytes_flatMap (words : List UInt32) :
    wordsOfBytes (words.flatMap wordBytes) = words := by
  induction words with
  | nil => rfl
  | cons w words ih =>
    rw [List.flatMap_cons, wordBytes, List.cons_append, List.cons_append, List.cons_append,
      List.cons_append, List.nil_append, wordsOfBytes, wordOfBytes_wordBytes, ih]

end RawRecord

theorem InbuiltComponent.ofBytes_words (c : InbuiltComponent) :
    RawRecord.ofBytes c.tag (c.words.flatMap RawRecord.wordBytes) = c.toRaw := by
  rw [RawRecord.ofBytes, RawRecord.wordsOfBytes_flatMap, toRaw]

/-- Built-in components are read back from the bytes of their records, and over every set with that
property encoding and decoding is the identity, whatever the encoder held before. -/
theorem snapshots_survive :
    (∀ c : InbuiltComponent,
      RawRecord.ofBytes c.tag (c.words.flatMap RawRecord.wordBytes) = c.toRaw ∧
        InbuiltComponent.ofRaw c.toRaw = .ok c ∧ c.toRaw.tag = c.tag ∧
        c.tag.toNat < kindCount InbuiltComponent) ∧
      ∀ (U : Type) [ComponentSet U] [LawfulComponentSet U] (e : Encoder U)
        (changes : List (Snapshot.Change U)), Survives e (Snapshot.built changes) := by
  refine ⟨fun c => ⟨c.ofBytes_words, c.ofRaw_toRaw, rfl, ?_⟩, ?_⟩
  · exact LawfulComponentSet.tag_lt c
  · intro U _ _ e changes
    exact (Snapshot.sorted_built changes).survives e

theorem refilled_snapshot_survives :
    let used := ((Encoder.mk []).encode
      (Snapshot.ofList [InbuiltComponent.guid #v[1, 2, 3, 4], .parent ⟨5⟩])).2
    let changes : List (Snapshot.Change InbuiltComponent) :=
      [.collect [.parent ⟨1⟩], .clear, .insert (.transform Matrix.identity),
        .insert (.entity ⟨-1, 2⟩), .insert (.parent ⟨7⟩), .insert (.entity ⟨3, 4⟩)]
    used.buffer.map RawRecord.tag = [0, 2] ∧
      (Snapshot.built changes).components =
        [.parent ⟨7⟩, .entity ⟨3, 4⟩, .transform Matrix.identity] ∧
      Survives used (Snapshot.built changes) :=
  ⟨by decide +kernel, by decide +kernel, snapshots_survive.2 InbuiltComponent _ _⟩

end SceneBridge.Wire
