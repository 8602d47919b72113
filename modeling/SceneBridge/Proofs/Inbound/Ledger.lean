import Mathlib.Data.List.Induction
import Mathlib.Data.List.Infix
import SceneBridge.Proofs.Inbound.Demands
import SceneBridge.Proofs.Wire.Decoding

/-!
# What a sequence of callbacks stages

While callbacks are taken in, the table only loses the pairs that they destroy. So the partner that
an item finds is the one its id had at the start, unless an item in front of it destroys the id
(`Correspondence.partner?`), and all that a sequence stages and counts can be written down from the
table at the start and the items alone: `Ledger`.
-/

namespace SceneBridge

open Wire

/-! ## The matrix of a buffer -/

/-- The matrix in the first record that holds one, if the records decode to a snapshot with a
matrix. -/
def firstMatrix? (records : List RawRecord) : Option Matrix :=
  if (decode (U := InbuiltComponent) records).snapshot.contains 3 then
    (records.find? fun r => r.tag == 3).map fun r => r.payload.map Single.mk
  else none

/-- How many records decoding drops; a buffer that is too long counts as one. -/
def faults (records : List RawRecord) : Nat :=
  (decode (U := InbuiltComponent) records).errors.length

namespace Wire.InbuiltComponent

variable {r : RawRecord} {c : InbuiltComponent}

theorem ofRaw_of_tag_eq_three (h : r.tag = 3) :
    ofRaw r = .ok (transform (r.payload.map Single.mk)) := by
  rw [ofRaw, h]
  rfl

theorem tag_eq_of_ofRaw (h : ofRaw r = .ok c) : c.tag = r.tag :=
  congrArg Prod.fst (shown_toRaw h)

end Wire.InbuiltComponent

theorem Wire.Accepted.find?_tag {records : List RawRecord} {i : Nat} {c : InbuiltComponent}
    (h : Accepted records i c) (htag : c.tag = 3) :
    ∃ r, (records.find? fun r => r.tag == 3) = some r ∧
      c = .transform (r.payload.map Single.mk) := by
  obtain ⟨r, hr, hread⟩ := Option.map_eq_some_iff.mp h.1
  have hthree : r.tag = 3 := (InbuiltComponent.tag_eq_of_ofRaw hread).symm.trans htag
  refine ⟨r, ?_, ?_⟩
  · obtain ⟨hi, hget⟩ := List.getElem?_eq_some_iff.mp hr
    refine List.find?_eq_some_iff_getElem.mpr ⟨beq_iff_eq.mpr hthree, i, hi, hget, fun j hj => ?_⟩
    have hlt : j < records.length := by omega
    rw [Bool.not_eq_true', beq_eq_false_iff_ne]
    intro hother
    -- an earlier matrix would be readable, so this one would not be the first of its kind
    refine h.2 j hj (.transform (records[j].payload.map Single.mk)) ?_ htag.symm
    rw [List.getElem?_eq_getElem hlt]
    exact congrArg some (InbuiltComponent.ofRaw_of_tag_eq_three hother)
  · exact Except.ok.inj (hread.symm.trans (InbuiltComponent.ofRaw_of_tag_eq_three hthree))

theorem sentMatrix?_eq_firstMatrix? (records : List RawRecord) :
    sentMatrix? records = firstMatrix? records := by
  have hdecodes := decodes_decode (U := InbuiltComponent) records
  unfold sentMatrix? firstMatrix? Snapshot.contains
  cases hget : (decode (U := InbuiltComponent) records).snapshot.get? 3 with
  | none => rfl
  | some c =>
    have hmem : c ∈ (decode (U := InbuiltComponent) records).snapshot.components :=
      List.mem_of_find?_eq_some hget
    have hthree := List.find?_some hget
    have htag : c.tag = 3 := beq_iff_eq.mp hthree
    have hfits : records.length ≤ 4 := by
      by_contra hlong
      have hempty := hdecodes.overfull (Nat.not_le.mp hlong)
      rw [hempty] at hmem
      simp at hmem
    obtain ⟨i, haccepted⟩ := ((hdecodes.taken hfits).accepted c).mp hmem
    obtain ⟨r, hfind, rfl⟩ := haccepted.find?_tag htag
    rw [hfind]
    rfl

/-! ## Items and those in front of them -/

/-- Each of some demands, with the demands in front of it. -/
def occasions (demands : List Demand) : List (List Demand × Demand) := demands.inits.zip demands

theorem occasions_cons (d : Demand) (rest : List Demand) :
    occasions (d :: rest) = ([], d) :: (occasions rest).map (Prod.map (d :: ·) id) := by
  unfold occasions
  rw [List.inits_cons, List.zip_cons_cons, List.zip_map_left]

theorem occasions_concat (demands : List Demand) (d : Demand) :
    occasions (demands ++ [d]) = occasions demands ++ [(demands, d)] := by
  induction demands with
  | nil => rfl
  | cons first rest ih =>
    rw [List.cons_append, occasions_cons, occasions_cons, ih, List.map_append]
    rfl

theorem filterMap_occasions_concat {α : Type} (f : List Demand × Demand → Option α)
    (demands : List Demand) (d : Demand) :
    (occasions (demands ++ [d])).filterMap f =
      (occasions demands).filterMap f ++ (f (demands, d)).toList := by
  rw [occasions_concat, List.filterMap_append]
  cases h : f (demands, d) with
  | none => simp [h]
  | some a => simp [h]

def Demand.destroys (id : GuestId) : Demand → Bool
  | create _ => false
  | update _ => false
  | destroy other => other == id

def destroyed (demands : List Demand) (id : GuestId) : Bool := demands.any (Demand.destroys id)

namespace Correspondence

/-- The partner that an id has left once some demands are met. -/
def partner? (t : Correspondence) (demands : List Demand) (id : GuestId) : Option Entity :=
  if destroyed demands id then none else t.host? id

variable {t : Correspondence}

theorem partner?_concat (demands : List Demand) (d : Demand) (id : GuestId) :
    t.partner? (demands ++ [d]) id =
      if d.destroys id then none else t.partner? demands id := by
  unfold partner? destroyed
  rw [List.any_append, List.any_cons, List.any_nil, Bool.or_false]
  cases demands.any (Demand.destroys id)
  · simp
  · simp

theorem guest?_iff_of_partner? {t' : Correspondence} {demands : List Demand} (ht : t.Consistent)
    (ht' : t'.Consistent) (h : ∀ id, t'.host? id = t.partner? demands id) (host : Entity)
    (id : GuestId) :
    t'.guest? host = some id ↔ t.guest? host = some id ∧ destroyed demands id = false := by
  rw [ht'.inverse, ht.inverse, h, partner?]
  cases destroyed demands id
  · simp
  · simp

end Correspondence

theorem host?_after (t : Correspondence) (d : Demand) (id : GuestId) :
    (d.after t).host? id = if d.destroys id then none else t.host? id := by
  cases d with
  | create item => rfl
  | update item => rfl
  | destroy other =>
    rw [Demand.after, Demand.destroys]
    cases hhost : t.host? other with
    | none =>
      rw [Correspondence.removeGuest_of_none hhost]
      split
      · next heq => rw [← beq_iff_eq.mp heq, hhost]
      · rfl
    | some host =>
      rw [Correspondence.removeGuest_of_some hhost, Correspondence.host?_dropPair]
      simp

/-! ## What an item asks for -/

instance : Zero InboundReport := ⟨{}⟩

instance : Add InboundReport where
  add a b :=
    { created := a.created + b.created
      updated := a.updated + b.updated
      destroyed := a.destroyed + b.destroyed
      stale := a.stale + b.stale
      rejectedRecords := a.rejectedRecords + b.rejectedRecords
      unknownTemplates := a.unknownTemplates + b.unknownTemplates }

namespace InboundReport

theorem add_def (a b : InboundReport) :
    a + b =
      ⟨a.created + b.created, a.updated + b.updated, a.destroyed + b.destroyed, a.stale + b.stale,
        a.rejectedRecords + b.rejectedRecords, a.unknownTemplates + b.unknownTemplates⟩ :=
  rfl

instance : Std.Associative fun a b : InboundReport => a + b where
  assoc a b c := by simp [add_def, Nat.add_assoc]

instance : Std.LawfulIdentity (fun a b : InboundReport => a + b) 0 where
  left_id a := by
    cases a
    simp [add_def, show (0 : InboundReport) = {} from rfl]
  right_id a := rfl

end InboundReport

namespace Demand

variable (registry : TemplateRegistry) (partner? : GuestId → Option Entity)

def stages? : Demand → Option Edit
  | create item =>
    (registry.resolve item.handle).map fun template =>
      .instantiate template ((firstMatrix? item.records).map LocalTransform.ofMatrix)
  | update item =>
    (partner? item.handle).bind fun host =>
      (firstMatrix? item.records).map fun matrix => .setWorldMatrix host matrix
  | destroy _ => none

def removes? : Demand → Option Entity
  | create _ => none
  | update _ => none
  | destroy id => partner? id

/-- What a demand adds to the counts. Records are decoded only where they are put to use. -/
def tally : Demand → InboundReport
  | create item =>
    if (registry.resolve item.handle).isSome then
      { created := 1, rejectedRecords := faults item.records }
    else { unknownTemplates := 1 }
  | update item =>
    if (partner? item.handle).isSome then { updated := 1, rejectedRecords := faults item.records }
    else { stale := 1 }
  | destroy id => if (partner? id).isSome then { destroyed := 1 } else { stale := 1 }

variable {registry} {t : Correspondence}

theorem edit?_eq_stages? (d : Demand) : d.edit? registry t = d.stages? registry t.host? := by
  cases d with
  | create item => rw [edit?, stages?, sentMatrix?_eq_firstMatrix?]
  | update item => rw [edit?, stages?, sentMatrix?_eq_firstMatrix?]
  | destroy id => rfl

theorem despawn?_eq_removes? (d : Demand) : d.despawn? t = d.removes? t.host? := by
  cases d with
  | create item => rfl
  | update item => rfl
  | destroy id => rfl

end Demand

namespace Inbound

variable {registry : TemplateRegistry} {t : Correspondence} {demands : List Demand} {s : Inbound}

theorem report_meet (s : Inbound) (d : Demand) :
    (meet registry s d).value.report = s.report + d.tally registry s.table.host? := by
  cases d with
  | create item =>
    rw [meet, createItem, Demand.tally]
    cases registry.resolve item.handle with
    | none => rfl
    | some template => rfl
  | update item =>
    rw [meet, updateItem, Demand.tally]
    cases s.table.host? item.handle with
    | none => rfl
    | some host => rfl
  | destroy id =>
    rw [meet, destroyItem, Demand.tally]
    cases hhost : s.table.host? id with
    | none =>
      rw [Correspondence.removeGuest_of_none hhost]
      rfl
    | some host =>
      rw [Correspondence.removeGuest_of_some hhost]
      rfl

/-- What some demands have made of a table and an empty buffer, by that table and the demands
alone. -/
structure Ledger (registry : TemplateRegistry) (t : Correspondence) (demands : List Demand)
    (s : Inbound) : Prop where
  edits : s.commands.edits.toList =
    (occasions demands).filterMap fun p => p.2.stages? registry (t.partner? p.1)
  despawns : s.commands.despawns.toList =
    (occasions demands).filterMap fun p => p.2.removes? (t.partner? p.1)
  report : s.report = ((occasions demands).map fun p => p.2.tally registry (t.partner? p.1)).sum
  consistent : s.table.Consistent
  host? : ∀ id, s.table.host? id = t.partner? demands id
  guest?_iff : ∀ host id, s.table.guest? host = some id ↔
    t.guest? host = some id ∧ destroyed demands id = false

theorem Ledger.nil (ht : t.Consistent) : Ledger registry t [] { table := t } where
  edits := rfl
  despawns := rfl
  report := rfl
  consistent := ht
  host? _ := rfl
  guest?_iff host id := by simp [destroyed]

theorem Ledger.meet (ht : t.Consistent) (h : Ledger registry t demands s) (d : Demand) :
    Ledger registry t (demands ++ [d]) (Inbound.meet registry s d).value := by
  have hmet : Met registry s (Inbound.meet registry s d).value [d] := met_meet s d
  have hnow : s.table.host? = t.partner? demands := funext h.host?
  have htable : (Inbound.meet registry s d).value.table = d.after s.table := hmet.table
  have hconsistent := (shrunk_after h.consistent d).consistent
  have hhost : ∀ id, (d.after s.table).host? id = t.partner? (demands ++ [d]) id := by
    intro id
    rw [host?_after, h.host?, Correspondence.partner?_concat]
  refine ⟨?_, ?_, ?_, ?_, ?_, ?_⟩
  · rw [hmet.edits, h.edits, stagedEdits_singleton, Demand.edit?_eq_stages?, hnow,
      filterMap_occasions_concat]
  · rw [hmet.despawns, h.despawns, stagedDespawns_singleton, Demand.despawn?_eq_removes?, hnow,
      filterMap_occasions_concat]
  · rw [report_meet, h.report, hnow, occasions_concat, List.map_append, List.sum_append,
      List.map_singleton, List.sum_singleton]
  · rw [htable]
    exact hconsistent
  · rw [htable]
    exact hhost
  · rw [htable]
    exact Correspondence.guest?_iff_of_partner? ht hconsistent hhost

theorem ledger_foldl (registry : TemplateRegistry) (ht : t.Consistent) (demands : List Demand) :
    Ledger registry t demands
      (demands.foldl (fun s d => (Inbound.meet registry s d).value) { table := t }) := by
  induction demands using List.reverseRecOn with
  | nil => exact .nil ht
  | append_singleton demands d ih =>
    rw [List.foldl_concat]
    exact ih.meet ht d

theorem value_foldlM_apply (registry : TemplateRegistry) (s : Inbound)
    (callbacks : List Callback) :
    (callbacks.foldlM (apply registry) s).value =
      (callbacks.flatMap Callback.demands).foldl
        (fun s d => (Inbound.meet registry s d).value) s := by
  rw [Logged.value_foldlM, List.foldl_flatMap]
  congr
  funext s batch
  exact value_apply s batch

/-- What a sequence of callbacks leaves behind depends on the table at the start and on its items in
order, however they are batched. -/
theorem ledger_of_callbacks (ht : t.Consistent) (registry : TemplateRegistry)
    (callbacks : List Callback) :
    Ledger registry t (callbacks.flatMap Callback.demands)
      (callbacks.foldlM (apply registry) { table := t }).value := by
  rw [value_foldlM_apply]
  exact ledger_foldl registry ht _

def singleTable : Correspondence :=
  ⟨Std.TreeMap.insert ∅ ⟨0, 0⟩ ⟨5⟩, Std.TreeMap.insert ∅ ⟨5⟩ ⟨0, 0⟩⟩

def pairTable : Correspondence :=
  ⟨singleTable.byHost.insert ⟨1, 0⟩ ⟨6⟩, singleTable.byGuest.insert ⟨6⟩ ⟨1, 0⟩⟩

theorem consistent_pairTable : pairTable.Consistent := by
  have hfirst : Correspondence.empty.insert ⟨0, 0⟩ ⟨5⟩ = .ok singleTable :=
    Correspondence.insert_eq_ok_iff.mpr ⟨by decide, rfl⟩
  have hsecond : singleTable.insert ⟨1, 0⟩ ⟨6⟩ = .ok pairTable :=
    Correspondence.insert_eq_ok_iff.mpr ⟨by decide +kernel, rfl⟩
  exact (Correspondence.consistent_empty.insert hfirst).insert hsecond

def matrixRecord (word : UInt32) : RawRecord := ⟨3, .replicate 16 word⟩

/-- Callbacks that go astray in every way: an id never seen, a kind that is unknown and one that is
repeated, a second destroy, an update after a destroy, a buffer that is too long and a template that
is not registered. -/
def strayCallbacks : List Callback :=
  [.update [⟨⟨77⟩, [⟨42, .replicate 16 0⟩]⟩,
      ⟨⟨5⟩, [⟨42, .replicate 16 0⟩, matrixRecord 1, matrixRecord 2]⟩],
    .destroy [⟨5⟩, ⟨5⟩],
    .create [⟨⟨1, 0⟩, List.replicate 5 (matrixRecord 3)⟩, ⟨⟨1, 3⟩, [matrixRecord 4]⟩],
    .update [⟨⟨5⟩, [matrixRecord 5]⟩, ⟨⟨6⟩, []⟩]]

theorem strayCallbacks_ledger :
    let registry := TemplateRegistry.empty.insert 1 [⟨4, 0⟩]
    let s := (strayCallbacks.foldlM (apply registry) { table := pairTable }).value
    s.commands.edits = #[.setWorldMatrix ⟨0, 0⟩ (.replicate 16 ⟨1⟩), .instantiate ⟨4, 0⟩ none] ∧
      s.commands.despawns = #[⟨0, 0⟩] ∧ s.report = ⟨1, 2, 1, 3, 3, 1⟩ ∧
      Ledger registry pairTable (strayCallbacks.flatMap Callback.demands) s :=
  ⟨by decide +kernel, by decide +kernel, by decide +kernel,
    ledger_of_callbacks consistent_pairTable _ strayCallbacks⟩

end Inbound

end SceneBridge
