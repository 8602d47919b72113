import SceneBridge.Inbound
import SceneBridge.Proofs.Correspondence
import SceneBridge.Proofs.Playback.Effect
import SceneBridge.Proofs.Wire.RoundTrip

/-!
# The demands of a turn

The batches of a turn, taken apart into single items, are its demands. `Inbound.met` says all that
one of them does; `moments` pairs each with the table as it stands when it is taken in, and what a
whole turn stages and counts is read off that list. Pairs only ever leave the table, and a host is
staged to be despawned exactly when its pair leaves (`Inbound.staged_turn`).
-/

namespace SceneBridge

open Wire

/-! ## Demands -/

inductive Demand
  | create (item : Patch TemplateRef)
  | update (item : Patch GuestId)
  | destroy (id : GuestId)

def Callback.demands : Callback → List Demand
  | create items => items.map .create
  | update items => items.map .update
  | destroy ids => ids.map .destroy

def Emission.batch? : Emission → Option Callback
  | callback batch => some batch
  | line _ => none

namespace GuestTurn

variable {γ : Type}

def batches (turn : GuestTurn γ) : List Callback := turn.emissions.filterMap Emission.batch?

def demands (turn : GuestTurn γ) : List Demand := turn.batches.flatMap Callback.demands

end GuestTurn

def sentMatrix? (records : List RawRecord) : Option Matrix :=
  match (decode (U := InbuiltComponent) records).snapshot.get? 3 with
  | some (.transform matrix) => some matrix
  | _ => none

namespace Demand

def isCreate : Demand → Bool
  | create _ => true
  | update _ => false
  | destroy _ => false

def after (t : Correspondence) : Demand → Correspondence
  | create _ => t
  | update _ => t
  | destroy id => (t.removeGuest id).2

/-- The edit that a demand asks for, if it names a template that is registered or an entity that has
a partner, and in the latter case sends a matrix. -/
def edit? (registry : TemplateRegistry) (t : Correspondence) : Demand → Option Edit
  | create item =>
    (registry.resolve item.handle).map fun template =>
      .instantiate template ((sentMatrix? item.records).map LocalTransform.ofMatrix)
  | update item =>
    (t.host? item.handle).bind fun host =>
      (sentMatrix? item.records).map fun matrix => .setWorldMatrix host matrix
  | destroy _ => none

def despawn? (t : Correspondence) : Demand → Option Entity
  | create _ => none
  | update _ => none
  | destroy id => t.host? id

def known? (t : Correspondence) : Demand → Option (Patch GuestId)
  | create _ => none
  | update item => (t.host? item.handle).map fun _ => item
  | destroy _ => none

def matrixFor (e : Entity) (t : Correspondence) : Demand → Option Matrix
  | create _ => none
  | update item => if t.host? item.handle = some e then sentMatrix? item.records else none
  | destroy _ => none

end Demand

/-- Demands, each with the table as it stands when it is taken in. -/
def moments (t : Correspondence) : List Demand → List (Correspondence × Demand)
  | [] => []
  | d :: rest => (t, d) :: moments (d.after t) rest

def stagedEdits (registry : TemplateRegistry) (t : Correspondence) (demands : List Demand) :
    List Edit :=
  (moments t demands).filterMap fun p => p.2.edit? registry p.1

def stagedDespawns (t : Correspondence) (demands : List Demand) : List Entity :=
  (moments t demands).filterMap fun p => p.2.despawn? p.1

def knownUpdates (t : Correspondence) (demands : List Demand) : List (Patch GuestId) :=
  (moments t demands).filterMap fun p => p.2.known? p.1

/-! ### Moments -/

def tableAfter (t : Correspondence) (demands : List Demand) : Correspondence :=
  demands.foldl Demand.after t

@[simp] theorem tableAfter_singleton (t : Correspondence) (d : Demand) :
    tableAfter t [d] = d.after t :=
  rfl

theorem moments_append (t : Correspondence) (demands more : List Demand) :
    moments t (demands ++ more) = moments t demands ++ moments (tableAfter t demands) more := by
  induction demands generalizing t with
  | nil => rfl
  | cons d rest ih => exact congrArg ((t, d) :: ·) (ih (d.after t))

variable {registry : TemplateRegistry} {t : Correspondence}

@[simp] theorem stagedEdits_singleton (d : Demand) :
    stagedEdits registry t [d] = (d.edit? registry t).toList := by
  cases h : d.edit? registry t with
  | none => simp [stagedEdits, moments, h]
  | some edit => simp [stagedEdits, moments, h]

@[simp] theorem stagedDespawns_singleton (d : Demand) :
    stagedDespawns t [d] = (d.despawn? t).toList := by
  cases h : d.despawn? t with
  | none => simp [stagedDespawns, moments, h]
  | some e => simp [stagedDespawns, moments, h]

@[simp] theorem knownUpdates_singleton (d : Demand) :
    knownUpdates t [d] = (d.known? t).toList := by
  cases h : d.known? t with
  | none => simp [knownUpdates, moments, h]
  | some item => simp [knownUpdates, moments, h]

theorem stagedEdits_append (demands more : List Demand) :
    stagedEdits registry t (demands ++ more) =
      stagedEdits registry t demands ++ stagedEdits registry (tableAfter t demands) more := by
  rw [stagedEdits, moments_append, List.filterMap_append]
  rfl

theorem stagedDespawns_append (demands more : List Demand) :
    stagedDespawns t (demands ++ more) =
      stagedDespawns t demands ++ stagedDespawns (tableAfter t demands) more := by
  rw [stagedDespawns, moments_append, List.filterMap_append]
  rfl

theorem knownUpdates_append (demands more : List Demand) :
    knownUpdates t (demands ++ more) =
      knownUpdates t demands ++ knownUpdates (tableAfter t demands) more := by
  rw [knownUpdates, moments_append, List.filterMap_append]
  rfl

theorem matrixFor_edit? (registry : TemplateRegistry) (t : Correspondence) (d : Demand)
    (e : Entity) : (d.edit? registry t).bind (Edit.matrixFor e) = d.matrixFor e t := by
  cases d with
  | create item =>
    cases h : registry.resolve item.handle <;>
      simp [Demand.edit?, Demand.matrixFor, Edit.matrixFor, h]
  | update item =>
    cases hhost : t.host? item.handle with
    | none => simp [Demand.edit?, Demand.matrixFor, hhost]
    | some host =>
      cases hsent : sentMatrix? item.records <;>
        simp [Demand.edit?, Demand.matrixFor, Edit.matrixFor, hhost, hsent]
  | destroy id => rfl

theorem filterMap_matrixFor_stagedEdits (registry : TemplateRegistry) (t : Correspondence)
    (demands : List Demand) (e : Entity) :
    (stagedEdits registry t demands).filterMap (Edit.matrixFor e) =
      (moments t demands).filterMap fun p => p.2.matrixFor e p.1 := by
  rw [stagedEdits, List.filterMap_filterMap]
  congr 1
  funext p
  exact matrixFor_edit? registry p.1 p.2 e

theorem countP_isWrite_stagedEdits (registry : TemplateRegistry) (t : Correspondence)
    (demands : List Demand) :
    (stagedEdits registry t demands).countP Edit.isWrite =
      (knownUpdates t demands).countP fun item => (sentMatrix? item.records).isSome := by
  induction demands generalizing t with
  | nil => rfl
  | cons d rest ih =>
    rw [← List.singleton_append, stagedEdits_append, knownUpdates_append, List.countP_append,
      List.countP_append, ih, stagedEdits_singleton, knownUpdates_singleton]
    congr 1
    cases d with
    | create item =>
      cases h : registry.resolve item.handle <;> simp [Demand.edit?, Demand.known?, h]
    | update item =>
      cases hhost : t.host? item.handle with
      | none => simp [Demand.edit?, Demand.known?, hhost]
      | some host =>
        cases hsent : sentMatrix? item.records <;>
          simp [Demand.edit?, Demand.known?, hhost, hsent]
    | destroy id => rfl

/-! ### The table in the course of a turn -/

theorem shrunk_after (ht : t.Consistent) (d : Demand) :
    t.Shrunk (d.after t) (d.despawn? t).toList := by
  cases d with
  | create item => exact .refl ht
  | update item => exact .refl ht
  | destroy id =>
    cases hhost : t.host? id with
    | none =>
      rw [Demand.after, Demand.despawn?, Correspondence.removeGuest_of_none hhost, hhost]
      exact .refl ht
    | some host =>
      rw [Demand.after, Demand.despawn?, Correspondence.removeGuest_of_some hhost, hhost]
      exact Correspondence.shrunk_dropPair ht ((ht.inverse host id).mpr hhost)

theorem shrunk_tableAfter (ht : t.Consistent) (demands : List Demand) :
    t.Shrunk (tableAfter t demands) (stagedDespawns t demands) := by
  induction demands generalizing t with
  | nil => exact .refl ht
  | cons d rest ih =>
    have hfirst := shrunk_after ht d
    rw [← List.singleton_append, stagedDespawns_append, stagedDespawns_singleton]
    exact hfirst.trans (ih hfirst.consistent)

theorem host?_of_moment (ht : t.Consistent) {demands : List Demand} {t' : Correspondence}
    {d : Demand} (h : (t', d) ∈ moments t demands) {id : GuestId} {host : Entity}
    (hhost : t'.host? id = some host) : t.host? id = some host := by
  induction demands generalizing t with
  | nil => simp [moments] at h
  | cons first rest ih =>
    rcases List.mem_cons.mp h with hnow | hlater
    · obtain ⟨rfl, -⟩ := Prod.mk.inj hnow
      exact hhost
    · have hfirst := shrunk_after ht first
      exact hfirst.host? ht (ih hfirst.consistent hlater)

theorem containsHost_of_write (ht : t.Consistent) {demands : List Demand} {e : Entity}
    {matrix : Matrix} (h : .setWorldMatrix e matrix ∈ stagedEdits registry t demands) :
    t.containsHost e = true := by
  obtain ⟨⟨t', d⟩, hmem, hedit⟩ := List.mem_filterMap.mp h
  cases d with
  | create item => simp [Demand.edit?] at hedit
  | update item =>
    obtain ⟨host, hhost, hwrite⟩ := Option.bind_eq_some_iff.mp hedit
    obtain ⟨sent, -, heq⟩ := Option.map_eq_some_iff.mp hwrite
    obtain ⟨rfl, -⟩ := Edit.setWorldMatrix.inj heq
    exact Correspondence.containsHost_iff.mpr
      ⟨item.handle, (ht.inverse host item.handle).mpr (host?_of_moment ht hmem hhost)⟩
  | destroy id => simp [Demand.edit?] at hedit

/-! ## Single demands -/

theorem value_pickMatrix (purpose : String) {cs : List InbuiltComponent}
    (h : cs.Pairwise fun c d => c.tag < d.tag) :
    (Inbound.pickMatrix purpose cs).value =
      match cs.find? (fun c => c.tag == 3) with
      | some (.transform matrix) => some matrix
      | _ => none := by
  induction cs with
  | nil => rfl
  | cons c cs ih =>
    obtain ⟨hc, hcs⟩ := List.pairwise_cons.mp h
    cases c with
    | transform matrix =>
      -- no second matrix follows the first
      have hnone : cs.find? (fun c => c.tag == 3) = none := by
        refine List.find?_eq_none.mpr fun d hd heq => ?_
        have hlt := hc d hd
        rw [beq_iff_eq.mp heq] at hlt
        exact UInt8.lt_irrefl 3 hlt
      rw [hnone] at ih
      rw [Inbound.pickMatrix, Logged.value_bind, ih hcs]
      rfl
    | parent id => exact ih hcs
    | entity handle => exact ih hcs
    | guid hash => exact ih hcs

namespace Inbound

variable (registry : TemplateRegistry)

def meet (s : Inbound) : Demand → Logged Inbound
  | .create item => createItem registry s item
  | .update item => s.updateItem item
  | .destroy id => s.destroyItem id

theorem value_pickMatrix_decode (purpose : String) (records : List RawRecord) :
    (pickMatrix purpose (decode (U := InbuiltComponent) records).snapshot.components).value =
      sentMatrix? records := by
  have hsorted := sorted_decode (U := InbuiltComponent) records
  exact value_pickMatrix purpose hsorted

/-- What demands do: each is counted once, under its own heading, and stages what it asks for. -/
structure Met (s s' : Inbound) (demands : List Demand) : Prop where
  table : s'.table = tableAfter s.table demands
  edits : s'.commands.edits.toList =
    s.commands.edits.toList ++ stagedEdits registry s.table demands
  despawns : s'.commands.despawns.toList =
    s.commands.despawns.toList ++ stagedDespawns s.table demands
  creates : s'.report.created + s'.report.unknownTemplates =
    s.report.created + s.report.unknownTemplates + demands.countP Demand.isCreate
  others : s'.report.updated + s'.report.destroyed + s'.report.stale =
    s.report.updated + s.report.destroyed + s.report.stale + demands.countP fun d => !d.isCreate
  created : s'.report.created =
    s.report.created + (stagedEdits registry s.table demands).countP fun edit => !edit.isWrite
  updated : s'.report.updated = s.report.updated + (knownUpdates s.table demands).length
  destroyed : s'.report.destroyed = s.report.destroyed + (stagedDespawns s.table demands).length

variable {registry} {s s' s'' : Inbound}

theorem met_create (s : Inbound) (item : Patch TemplateRef) :
    Met registry s (createItem registry s item).value [.create item] := by
  cases hresolve : registry.resolve item.handle with
  | none =>
    constructor <;>
      simp [createItem, hresolve, Demand.after, Demand.edit?, Demand.despawn?, Demand.known?,
        Demand.isCreate, Nat.add_assoc]
  | some template =>
    constructor <;>
      simp [createItem, hresolve, decodeItem, value_pickMatrix_decode, CommandBuffer.record,
        Demand.after, Demand.edit?, Demand.despawn?, Demand.known?, Demand.isCreate,
        Nat.add_right_comm]

theorem met_update (s : Inbound) (item : Patch GuestId) :
    Met registry s (s.updateItem item).value [.update item] := by
  cases hhost : s.table.host? item.handle with
  | none =>
    constructor <;>
      simp [updateItem, countStale, hhost, Demand.after, Demand.edit?, Demand.despawn?,
        Demand.known?, Demand.isCreate, Nat.add_assoc]
  | some host =>
    cases hsent : sentMatrix? item.records with
    | none =>
      constructor <;>
        simp [updateItem, hhost, decodeItem, value_pickMatrix_decode, hsent, Demand.after,
          Demand.edit?, Demand.despawn?, Demand.known?, Demand.isCreate, Nat.add_right_comm]
    | some matrix =>
      constructor <;>
        simp [updateItem, hhost, decodeItem, value_pickMatrix_decode, hsent, CommandBuffer.record,
          Demand.after, Demand.edit?, Demand.despawn?, Demand.known?, Demand.isCreate,
          Nat.add_right_comm]

theorem met_destroy (s : Inbound) (id : GuestId) :
    Met registry s (s.destroyItem id).value [.destroy id] := by
  cases hhost : s.table.host? id with
  | none =>
    have hremove := Correspondence.removeGuest_of_none hhost
    constructor <;>
      simp [destroyItem, countStale, hremove, hhost, Demand.after, Demand.edit?, Demand.despawn?,
        Demand.known?, Demand.isCreate, Nat.add_assoc]
  | some host =>
    have hremove := Correspondence.removeGuest_of_some hhost
    constructor <;>
      simp [destroyItem, hremove, hhost, CommandBuffer.recordDespawn, Demand.after, Demand.edit?,
        Demand.despawn?, Demand.known?, Demand.isCreate]
    omega

theorem met_meet (s : Inbound) (d : Demand) : Met registry s (meet registry s d).value [d] := by
  cases d with
  | create item => exact met_create s item
  | update item => exact met_update s item
  | destroy id => exact met_destroy s id

/-! ## Whole turns -/

theorem Met.refl (s : Inbound) : Met registry s s [] := by
  constructor <;> simp [tableAfter, stagedEdits, stagedDespawns, knownUpdates, moments]

theorem Met.trans {demands more : List Demand} (h : Met registry s s' demands)
    (h' : Met registry s' s'' more) : Met registry s s'' (demands ++ more) := by
  refine ⟨?_, ?_, ?_, ?_, ?_, ?_, ?_, ?_⟩
  · rw [h'.table, h.table, tableAfter, tableAfter, tableAfter, List.foldl_append]
  · rw [h'.edits, h.edits, stagedEdits_append, List.append_assoc, h.table]
  · rw [h'.despawns, h.despawns, stagedDespawns_append, List.append_assoc, h.table]
  · rw [h'.creates, h.creates, List.countP_append, Nat.add_assoc]
  · rw [h'.others, h.others, List.countP_append, Nat.add_assoc]
  · rw [h'.created, h.created, stagedEdits_append, List.countP_append, Nat.add_assoc, h.table]
  · rw [h'.updated, h.updated, knownUpdates_append, List.length_append, Nat.add_assoc, h.table]
  · rw [h'.destroyed, h.destroyed, stagedDespawns_append, List.length_append, Nat.add_assoc,
      h.table]

theorem met_foldl (demands : List Demand) (s : Inbound) :
    Met registry s (demands.foldl (fun s d => (meet registry s d).value) s) demands := by
  induction demands generalizing s with
  | nil => exact .refl s
  | cons d rest ih => exact (met_meet s d).trans (ih (meet registry s d).value)

theorem value_apply (s : Inbound) (batch : Callback) :
    (s.apply registry batch).value =
      batch.demands.foldl (fun s d => (meet registry s d).value) s := by
  cases batch with
  | create items => rw [apply, Logged.value_foldlM, Callback.demands, List.foldl_map]; rfl
  | update items => rw [apply, Logged.value_foldlM, Callback.demands, List.foldl_map]; rfl
  | destroy ids => rw [apply, Logged.value_foldlM, Callback.demands, List.foldl_map]; rfl

theorem value_foldlM_take (s : Inbound) (emissions : List Emission) :
    (emissions.foldlM (take registry) s).value =
      ((emissions.filterMap Emission.batch?).flatMap Callback.demands).foldl
        (fun s d => (meet registry s d).value) s := by
  rw [Logged.value_foldlM]
  induction emissions generalizing s with
  | nil => rfl
  | cons emission rest ih =>
    cases emission with
    | line text => exact ih s
    | callback batch =>
      have htake : (s.take registry (.callback batch)).value =
          batch.demands.foldl (fun s d => (meet registry s d).value) s := value_apply s batch
      rw [List.foldl_cons, ih, htake, ← List.foldl_append]
      rfl

theorem met_turn {γ : Type} (turn : GuestTurn γ) (s : Inbound) :
    Met registry s (turn.emissions.foldlM (take registry) s).value turn.demands := by
  rw [value_foldlM_take]
  exact met_foldl turn.demands s

/-- Since the start of the turn the table has lost pairs at most, and whoever is staged to be
despawned was in it then and is not any more. -/
structure Staged (before : Correspondence) (s : Inbound) : Prop where
  consistent : s.table.Consistent
  shrunk : ∀ host guest, s.table.guest? host = some guest → before.guest? host = some guest
  staged : ∀ d ∈ s.commands.despawns.toList,
    before.containsHost d = true ∧ s.table.containsHost d = false

theorem staged_turn {table : Correspondence} (h : table.Consistent) (registry : TemplateRegistry)
    (emissions : List Emission) :
    Staged table (emissions.foldlM (take registry) { table }).value := by
  rw [value_foldlM_take]
  generalize (emissions.filterMap Emission.batch?).flatMap Callback.demands = demands
  have hmet : Met registry { table } _ demands := met_foldl demands { table }
  generalize demands.foldl (fun s d => (meet registry s d).value) { table } = s at hmet ⊢
  have hdespawns : s.commands.despawns.toList = stagedDespawns table demands := hmet.despawns
  have hshrunk := shrunk_tableAfter h demands
  rw [← hmet.table, ← hdespawns] at hshrunk
  refine ⟨hshrunk.consistent, fun host guest hguest => ?_, fun d hd => ⟨hshrunk.mapped d hd, ?_⟩⟩
  · rw [hshrunk.guest?] at hguest
    split at hguest
    · simp at hguest
    · exact hguest
  · rw [Correspondence.containsHost_eq_false_iff, hshrunk.guest?, if_pos hd]

end Inbound

end SceneBridge
