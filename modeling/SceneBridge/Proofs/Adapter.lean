import Mathlib.Data.List.Forall2
import SceneBridge.Adapter
import SceneBridge.Gameplay
import SceneBridge.Proofs.Wire.RoundTrip

/-!
# What adapters tell of an entity

Of the adapters that apply to an entity the last one of each kind counts, and those that do not
apply might as well yield anything (`AdapterSet.LastCounts`). A set at work sends the snapshot of
the entity at hand, whatever its buffer was filled with before (`Intake.ingest_after`), so two sets
keep apart from each other and from their own past (`Intake.adapters_keep_apart`).
-/

namespace SceneBridge

open Wire

variable {κ U V : Type} [ProjectKind κ]

def Adapter.yield? (a : Adapter κ U) (w : World κ) (e : Entity) : Option U :=
  if a.applies w e then a.yield w e else none

/-- Two adapters apply alike to an entity and, where they do, yield the same. -/
def Adapter.Agrees (w : World κ) (e : Entity) (a b : Adapter κ U) : Prop :=
  a.applies w e = b.applies w e ∧ (a.applies w e = true → a.yield w e = b.yield w e)

theorem Adapter.yield?_eq_some_iff {a : Adapter κ U} {w : World κ} {e : Entity} {c : U} :
    a.yield? w e = some c ↔ a.applies w e = true ∧ a.yield w e = some c := by
  simp [yield?]

theorem Adapter.Agrees.yield? {a b : Adapter κ U} {w : World κ} {e : Entity}
    (h : Agrees w e a b) : a.yield? w e = b.yield? w e := by
  unfold Adapter.yield?
  rw [← h.1]
  by_cases ha : a.applies w e = true
  · rw [if_pos ha, if_pos ha, h.2 ha]
  · rw [if_neg ha, if_neg ha]

namespace AdapterSet

def registerAll (registered : List (Adapter κ U)) : AdapterSet κ U :=
  registered.foldl register empty

theorem adapters_foldl_register (s : AdapterSet κ U) (registered : List (Adapter κ U)) :
    (registered.foldl register s).adapters = s.adapters ++ registered := by
  induction registered generalizing s with
  | nil => exact (List.append_nil _).symm
  | cons a rest ih => rw [List.foldl_cons, ih, register, List.append_assoc, List.singleton_append]

theorem adapters_registerAll (registered : List (Adapter κ U)) :
    (registerAll registered).adapters = registered :=
  adapters_foldl_register empty registered

variable [ComponentSet U]

open ComponentSet (tag)

theorem snapshot_eq_ofList (s : AdapterSet κ U) (w : World κ) (e : Entity) :
    s.snapshot w e = .ofList (s.adapters.filterMap fun a => a.yield? w e) := by
  rw [snapshot, Snapshot.ofList]
  generalize Snapshot.empty = start
  induction s.adapters generalizing start with
  | nil => rfl
  | cons a rest ih =>
    rw [List.foldl_cons, ih, List.filterMap_cons, Adapter.yield?]
    by_cases ha : a.applies w e = true
    · rw [if_pos ha, if_pos ha]
      cases a.yield w e with
      | none => rfl
      | some c => rfl
    · rw [if_neg ha, if_neg ha]

theorem sorted_snapshot (s : AdapterSet κ U) (w : World κ) (e : Entity) :
    (s.snapshot w e).Sorted := by
  rw [snapshot_eq_ofList]
  exact Snapshot.sorted_empty.insertAll _

/-- What registered adapters tell of an entity: of each kind, what the last of them says. -/
structure LastCounts (registered : List (Adapter κ U)) (w : World κ) (e : Entity) : Prop where
  contains_iff : ∀ t, ((registerAll registered).snapshot w e).contains t = true ↔
    ∃ a ∈ registered, a.applies w e = true ∧ ∃ c, a.yield w e = some c ∧ tag c = t
  last : ∀ before a after c, registered = before ++ a :: after →
    a.applies w e = true → a.yield w e = some c →
    (∀ b ∈ after, b.applies w e = true → ∀ d, b.yield w e = some d → tag d ≠ tag c) →
      ((registerAll registered).snapshot w e).get? (tag c) = some c
  /-- An adapter that does not apply might as well yield anything. -/
  unheard : ∀ others, List.Forall₂ (Adapter.Agrees w e) registered others →
    (registerAll others).snapshot w e = (registerAll registered).snapshot w e

theorem lastCounts (registered : List (Adapter κ U)) (w : World κ) (e : Entity) :
    LastCounts registered w e := by
  refine ⟨fun t => ?_, fun before a after c hsplit happlies hyield hlater => ?_,
    fun others hagree => ?_⟩
  · rw [snapshot_eq_ofList, adapters_registerAll, Snapshot.contains_ofList_iff]
    constructor
    · rintro ⟨c, hc, htag⟩
      obtain ⟨a, ha, hyield⟩ := List.mem_filterMap.mp hc
      obtain ⟨happlies, hyield⟩ := Adapter.yield?_eq_some_iff.mp hyield
      exact ⟨a, ha, happlies, c, hyield, htag⟩
    · rintro ⟨a, ha, happlies, c, hyield, htag⟩
      have hyield := Adapter.yield?_eq_some_iff.mpr ⟨happlies, hyield⟩
      exact ⟨c, List.mem_filterMap.mpr ⟨a, ha, hyield⟩, htag⟩
  · have hnone : ((after.filterMap fun b => b.yield? w e).filter fun d => tag d == tag c) = [] := by
      refine List.filter_eq_nil_iff.mpr fun d hd heq => ?_
      obtain ⟨b, hb, hyield⟩ := List.mem_filterMap.mp hd
      obtain ⟨happlies, hyield⟩ := Adapter.yield?_eq_some_iff.mp hyield
      exact hlater b hb happlies d hyield (beq_iff_eq.mp heq)
    have hhere := Adapter.yield?_eq_some_iff.mpr ⟨happlies, hyield⟩
    rw [snapshot_eq_ofList, adapters_registerAll, Snapshot.get?_ofList, hsplit,
      List.filterMap_append, List.filterMap_cons, hhere, List.filter_append]
    simp [hnone]
  · rw [snapshot_eq_ofList, snapshot_eq_ofList, adapters_registerAll, adapters_registerAll]
    have hsame : (others.filterMap fun a => a.yield? w e) =
        registered.filterMap fun a => a.yield? w e := by
      induction hagree with
      | nil => rfl
      | cons hfirst _ ih => rw [List.filterMap_cons, List.filterMap_cons, hfirst.yield?, ih]
    rw [hsame]

end AdapterSet

/-! ## Sets at work -/

theorem Ingester.view_ingest [ComponentSet U] (i : Ingester κ U) (w : World κ) (e : Entity) :
    (i.ingest w e).view = i.adapters.records w e :=
  i.encoder.value_encode _

namespace Intake

variable [ComponentSet U] [ComponentSet V]

def sets (i : Intake κ U V) : Ingestion κ U V where
  custom := i.custom.map Ingester.adapters
  customState := i.customState.map Ingester.adapters

def after (i : Intake κ U V) (history : List (World κ × Entity)) : Intake κ U V :=
  history.foldl (fun i x => i.ingest x.1 x.2) i

theorem sets_start (i : Ingestion κ U V) : i.start.sets = i := by
  simp [sets, Ingestion.start, Function.comp_def]

theorem sets_ingest (i : Intake κ U V) (w : World κ) (e : Entity) :
    (i.ingest w e).sets = i.sets := by
  simp [sets, ingest, Function.comp_def, Ingester.ingest]

theorem sets_after (i : Intake κ U V) (history : List (World κ × Entity)) :
    (i.after history).sets = i.sets := by
  induction history generalizing i with
  | nil => rfl
  | cons x history ih => exact (ih (i.ingest x.1 x.2)).trans (i.sets_ingest x.1 x.2)

theorem views_ingest (i : Intake κ U V) (w : World κ) (e : Entity) :
    (i.ingest w e).views = i.sets.records w e := by
  simp [views, ingest, sets, Ingestion.records, Function.comp_def, Ingester.view_ingest]

theorem ingest_after (i : Ingestion κ U V) (history : List (World κ × Entity)) (w : World κ)
    (e : Entity) : ((i.start.after history).ingest w e).views = i.records w e := by
  rw [views_ingest, sets_after, sets_start]

/-- A view holds one record for each kind of a snapshot, in ascending order, and decodes to it. -/
structure Carries (records : List (Raw U)) (s : Snapshot U) : Prop where
  record : ∀ t, (records.filter fun r => ComponentSet.rawTag r == t) =
    ((s.get? t).map ComponentSet.toRaw).toList
  ascending : records.Pairwise fun r r' => ComponentSet.rawTag r < ComponentSet.rawTag r'
  decode : Wire.decode records = { snapshot := s }

structure Sends (adapters : Option (AdapterSet κ U)) (w : World κ) (e : Entity)
    (view : Option (List (Raw U))) : Prop where
  missing : adapters = none → view = none
  installed : ∀ s, adapters = some s → ∃ records, view = some records ∧
    Carries records (s.snapshot w e)
  /-- A set with nothing to say is not taken for a missing one. -/
  silent : ∀ s, adapters = some s → (∀ a ∈ s.adapters, a.yield? w e = none) → view = some []

theorem sends_records [LawfulComponentSet U] (adapters : Option (AdapterSet κ U)) (w : World κ)
    (e : Entity) : Sends adapters w e (adapters.map fun s => s.records w e) := by
  refine ⟨?_, ?_, ?_⟩
  · rintro rfl
    rfl
  · rintro s rfl
    have hsurvives := (s.sorted_snapshot w e).survives {}
    exact ⟨_, rfl, hsurvives.record, hsurvives.ascending, hsurvives.decode⟩
  · rintro s rfl hsilent
    have hempty : (s.adapters.filterMap fun a => a.yield? w e) = [] :=
      List.filterMap_eq_nil_iff.mpr hsilent
    rw [Option.map_some, AdapterSet.records, AdapterSet.snapshot_eq_ofList, hempty]
    rfl

/-- Of the adapters of a kind the last that applies counts. Two sets at work send the snapshots of
the entity at hand, each its own, whatever entities of whatever worlds came before. -/
theorem adapters_keep_apart [LawfulComponentSet U] [LawfulComponentSet V] (i : Ingestion κ U V)
    (history : List (World κ × Entity)) (w : World κ) (e : Entity) :
    (∀ registered : List (Adapter κ U), AdapterSet.LastCounts registered w e) ∧
      Sends i.custom w e ((i.start.after history).ingest w e).views.1 ∧
      Sends i.customState w e ((i.start.after history).ingest w e).views.2 := by
  rw [ingest_after]
  exact ⟨fun registered => AdapterSet.lastCounts registered w e, sends_records i.custom w e,
    sends_records i.customState w e⟩

/-- Everyone is in team 1 that has no team of its own; a health is told where there is one, a flag
of what is to be shared. The last adapter never applies. -/
def overlappingAdapters : List (Adapter GameplayKind Gameplay) :=
  [{ applies := fun _ _ => true, yield := fun _ _ => some (.team 1) },
    { applies := fun w e => w.has e (.project .health)
      yield := fun w e => (w.get e (.project GameplayKind.health)).map .health },
    { applies := fun w e => w.has e (.project .team)
      yield := fun w e => (w.get e (.project GameplayKind.team)).map .team },
    { applies := fun w e => w.has e .shareRequest, yield := fun _ _ => some .flag },
    { applies := fun _ _ => false, yield := fun _ _ => some (.team 9) }]

def teamWorld : World GameplayKind :=
  let w := (World.empty.spawnWith
    [⟨.shareRequest, ()⟩, ⟨.project GameplayKind.health, (⟨7⟩ : Single)⟩]).2
  (w.spawnWith [⟨.project GameplayKind.team, (2 : Int32)⟩]).2

def teamIngestion : Ingestion GameplayKind Gameplay Gameplay where
  custom := some (AdapterSet.registerAll overlappingAdapters)
  customState := some (AdapterSet.registerAll (overlappingAdapters.drop 4))

/-- After the flagged entity the buffer holds nothing of it: the team of the second one counts. -/
theorem teamWorld_adapters_keep_apart :
    ((AdapterSet.registerAll overlappingAdapters).snapshot teamWorld ⟨1, 0⟩).get? 1 =
        some (.team 2) ∧
      (∃ records, ((teamIngestion.start.after [(teamWorld, ⟨0, 0⟩)]).ingest teamWorld
          ⟨1, 0⟩).views.1 = some records ∧
        (records.filter fun r => ComponentSet.rawTag r == 1) = [⟨1, 2⟩] ∧
        (records.filter fun r => ComponentSet.rawTag r == 2) = []) ∧
      ((teamIngestion.start.after [(teamWorld, ⟨0, 0⟩)]).ingest teamWorld ⟨1, 0⟩).views.2 =
        some [] := by
  obtain ⟨hcounts, hcustom, hstate⟩ :=
    adapters_keep_apart teamIngestion [(teamWorld, ⟨0, 0⟩)] teamWorld ⟨1, 0⟩
  have hteam := (hcounts overlappingAdapters).last (overlappingAdapters.take 2) _
    (overlappingAdapters.drop 3) (.team 2) rfl (by decide +kernel) (by decide +kernel)
    (by decide +kernel)
  have hflag : ((AdapterSet.registerAll overlappingAdapters).snapshot teamWorld ⟨1, 0⟩).get? 2 =
      none := by
    decide +kernel
  obtain ⟨records, hview, hcarries⟩ := hcustom.installed _ rfl
  refine ⟨hteam, ⟨records, hview, ?_, ?_⟩, hstate.silent _ rfl (by decide +kernel)⟩
  · rw [hcarries.record, show (1 : UInt8) = ComponentSet.tag (Gameplay.team 2) from rfl, hteam]
    rfl
  · rw [hcarries.record, hflag]
    rfl

end Intake

end SceneBridge
