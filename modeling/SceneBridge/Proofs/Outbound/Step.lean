import SceneBridge.Proofs.Outbound.Course
import SceneBridge.Proofs.World

/-!
# One step of sharing

A step starts from the candidates, those that waited already in front, and its result is what the
sweeps over that queue leave. `Outbound.swept` is that, and the lemmas about `resolve` read the
result of a step off it.
-/

namespace SceneBridge

/-- The wait has not been reported and lasts for `limit` ticks or more; none is due for a limit of
zero. -/
def Waiting.isDue (limit tick : Nat) (p : Waiting) : Bool :=
  !p.warned && 0 < limit && limit ≤ tick - p.since

namespace Outbound

open Wire

variable {κ : Type} [ProjectKind κ]

/-! ## The queue of a step -/

theorem value_retainCandidates (w : World κ) (table : Correspondence) (queue : List Waiting) :
    (retainCandidates w table queue).value =
      queue.filter fun p => isCandidate w table p.entity := by
  induction queue with
  | nil => rfl
  | cons p rest ih =>
    rw [retainCandidates, List.filter_cons]
    split
    · rw [Logged.value_bind, ih]
      rfl
    · rw [Logged.value_bind, ih]

theorem newCandidates_eq (w : World κ) (table : Correspondence) (queue : List Waiting)
    (tick : Nat) :
    newCandidates w table queue tick =
      ((w.query .shareRequest).filter fun e =>
        !(queue.any fun p => p.entity == e) && isCandidate w table e).map
          fun e => { entity := e, since := tick } := by
  rw [newCandidates, ← List.filterMap_eq_map, List.filterMap_filter]
  rfl

theorem map_entity_newCandidates (w : World κ) (table : Correspondence) (queue : List Waiting)
    (tick : Nat) :
    (newCandidates w table queue tick).map Waiting.entity =
      (w.query .shareRequest).filter fun e =>
        !(queue.any fun p => p.entity == e) && isCandidate w table e := by
  rw [newCandidates_eq, List.map_map]
  exact List.map_id _

theorem value_queue (o : Outbound) (w : World κ) (table : Correspondence) (tick : Nat) :
    (o.queue w table tick).value =
      let kept := o.pending.filter fun p => isCandidate w table p.entity
      kept ++ newCandidates w table kept tick := by
  rw [queue, Logged.value_bind, value_retainCandidates]
  rfl

theorem any_entity_iff {queue : List Waiting} {e : Entity} :
    (queue.any fun p => p.entity == e) = true ↔ e ∈ queue.map Waiting.entity := by
  simp

theorem mem_queue_iff (o : Outbound) (w : World κ) (table : Correspondence) (tick : Nat)
    {e : Entity} :
    e ∈ (o.queue w table tick).value.map Waiting.entity ↔ isCandidate w table e = true := by
  simp only [value_queue, List.map_append, List.mem_append, map_entity_newCandidates,
    List.mem_filter, Bool.and_eq_true, Bool.not_eq_true', ← Bool.not_eq_true, any_entity_iff]
  constructor
  · rintro (hkept | ⟨-, -, hnew⟩)
    · obtain ⟨p, hp, rfl⟩ := List.mem_map.mp hkept
      exact (List.mem_filter.mp hp).2
    · exact hnew
  · intro he
    by_cases hkept : e ∈ (o.pending.filter fun p => isCandidate w table p.entity).map Waiting.entity
    · exact .inl hkept
    · exact .inr ⟨World.mem_query_of_has (isCandidate_iff.mp he).1.2.1, hkept, he⟩

theorem ready_queue {o : Outbound} (hpending : (o.pending.map Waiting.entity).Nodup) (w : World κ)
    (table : Correspondence) (tick : Nat) : Ready w table (o.queue w table tick).value := by
  refine ⟨?_, fun p hp => (mem_queue_iff o w table tick).mp (List.mem_map_of_mem hp)⟩
  simp only [value_queue, List.map_append, map_entity_newCandidates]
  refine List.nodup_append.mpr ⟨?_, (World.nodup_query w _).filter _, ?_⟩
  · exact hpending.sublist (List.filter_sublist.map Waiting.entity)
  · rintro e hkept e' hnew rfl
    have hfresh := (Bool.and_eq_true _ _ ▸ (List.mem_filter.mp hnew).2).1
    rw [any_entity_iff.mpr hkept] at hfresh
    simp at hfresh

/-! ## The result of a step -/

theorem value_reportWaits (limit tick : Nat) (queue : List Waiting) :
    (reportWaits limit tick queue).value =
      queue.map fun p => { p with warned := p.warned || p.isDue limit tick } := by
  induction queue with
  | nil => rfl
  | cons p rest ih =>
    rw [reportWaits, List.map_cons, ← ih]
    split
    · next hdue =>
      rw [show p.isDue limit tick = true from hdue, Bool.or_true]
      rfl
    · next hdue =>
      rw [show p.isDue limit tick = false from eq_false_of_ne_true hdue, Bool.or_false]
      rfl

theorem map_reportWaits {α : Type} {f : Waiting → α}
    (hf : ∀ p : Waiting, f { p with warned := true } = f p) (limit tick : Nat)
    (queue : List Waiting) : (reportWaits limit tick queue).value.map f = queue.map f := by
  rw [value_reportWaits, List.map_map]
  refine List.map_congr_left fun p _ => ?_
  cases hdue : p.isDue limit tick with
  | true => simp [hdue, hf]
  | false => simp [hdue]

variable {U V γ : Type} [ComponentSet U] [ComponentSet V] [Guest γ (Raw U) (Raw V)]

def swept (o : Outbound) (w : World κ) (ingestion : Ingestion κ U V) (link : Link γ)
    (tick : Nat) : Swept γ :=
  let queue := (o.queue w link.table tick).value
  (settle w ingestion queue.length link queue).value.2

def passes (o : Outbound) (w : World κ) (ingestion : Ingestion κ U V) (link : Link γ)
    (tick : Nat) : Nat :=
  let queue := (o.queue w link.table tick).value
  (settle w ingestion queue.length link queue).value.1

variable (o : Outbound) (w : World κ) (ingestion : Ingestion κ U V) (link : Link γ) (tick : Nat)

theorem settles_swept :
    ∃ passes, Settles w ingestion link (o.queue w link.table tick).value
      (o.exchanges w ingestion link tick) passes (o.swept w ingestion link tick) :=
  ⟨_, settles_settle w ingestion link (Nat.le_refl _)⟩

theorem course_swept :
    Course w ingestion link (o.queue w link.table tick).value
      (o.exchanges w ingestion link tick) (o.swept w ingestion link tick) := by
  obtain ⟨passes, h⟩ := o.settles_swept w ingestion link tick
  exact h.course

variable {o w ingestion link tick}

theorem resolve_of_fault {err : BridgeError}
    (h : (o.swept w ingestion link tick).fault = some err) :
    (o.resolve w ingestion link tick).value =
      (.error err, { o with pending := (o.swept w ingestion link tick).waiting },
        (o.swept w ingestion link tick).link) := by
  rw [swept] at h
  simp only [resolve, Logged.value_bind, h]
  rfl

theorem value_resolve_of_clean (h : (o.swept w ingestion link tick).fault = none) :
    (o.resolve w ingestion link tick).value =
      (.ok { spawned := (o.swept w ingestion link tick).spawned
             passes := o.passes w ingestion link tick
             pending := (o.swept w ingestion link tick).waiting.length },
        { o with
          pending := (reportWaits o.warnAfter tick (o.swept w ingestion link tick).waiting).value },
        (o.swept w ingestion link tick).link) := by
  have hlength : ∀ queue : List Waiting,
      (reportWaits o.warnAfter tick queue).value.length = queue.length := by
    intro queue
    have hmap := congrArg List.length (map_reportWaits (fun _ => rfl) o.warnAfter tick queue
      (f := Waiting.entity))
    simpa using hmap
  rw [← hlength]
  rw [swept] at h
  simp only [resolve, Logged.value_bind, h]
  split
  · rfl
  · rfl

theorem resolve_of_clean (h : (o.swept w ingestion link tick).fault = none) :
    ∃ report pending, (o.resolve w ingestion link tick).value =
        (.ok report, { o with pending }, (o.swept w ingestion link tick).link) ∧
      report.spawned = (o.swept w ingestion link tick).spawned ∧
      report.pending = pending.length ∧
      pending.map Waiting.entity =
        (o.swept w ingestion link tick).waiting.map Waiting.entity := by
  have hmap := map_reportWaits (f := Waiting.entity) (fun _ => rfl) o.warnAfter tick
    (o.swept w ingestion link tick).waiting
  refine ⟨_, _, value_resolve_of_clean h, rfl, ?_, hmap⟩
  simpa using (congrArg List.length hmap).symm

theorem link_resolve (o : Outbound) (w : World κ) (ingestion : Ingestion κ U V) (link : Link γ)
    (tick : Nat) :
    (o.resolve w ingestion link tick).value.2.2 = (o.swept w ingestion link tick).link := by
  cases h : (o.swept w ingestion link tick).fault with
  | some err => rw [resolve_of_fault h]
  | none =>
    obtain ⟨report, pending, heq, -⟩ := resolve_of_clean h
    rw [heq]

theorem map_entity_pending_resolve (o : Outbound) (w : World κ) (ingestion : Ingestion κ U V)
    (link : Link γ) (tick : Nat) :
    (o.resolve w ingestion link tick).value.2.1.pending.map Waiting.entity =
      (o.swept w ingestion link tick).waiting.map Waiting.entity := by
  cases h : (o.swept w ingestion link tick).fault with
  | some err => rw [resolve_of_fault h]
  | none =>
    obtain ⟨report, pending, heq, -, -, hmap⟩ := resolve_of_clean h
    rw [heq]
    exact hmap

end Outbound

end SceneBridge
