import SceneBridge.Proofs.Bridge.Run
import SceneBridge.Proofs.Outbound.Fault

/-!
# Ticks that fail while they share

A request that fails ends its tick at once. `Bridge.Aborts` says what is left then: all that was
acknowledged before is in the table, whoever else was in the queue waits, and the world and the
guest's turn are untouched. The entity that failed is in the queue of the next tick, at its end, so
a request in front of it may fail before its turn comes.
-/

namespace SceneBridge.Bridge

open Wire

variable {γ κ U V : Type} [ProjectKind κ]

def queue (b : Bridge γ κ U V) (w : World κ) : List Waiting :=
  let kept := b.outbound.pending.filter fun p => Outbound.isCandidate w (b.link w).table p.entity
  kept ++ Outbound.newCandidates w (b.link w).table kept (b.tickCount + 1)

theorem value_queue (b : Bridge γ κ U V) (w : World κ) :
    (b.outbound.queue w (b.link w).table (b.tickCount + 1)).value = b.queue w :=
  Outbound.value_queue ..

theorem mem_queue_iff {b : Bridge γ κ U V} {w : World κ} {e : Entity} :
    e ∈ (b.queue w).map Waiting.entity ↔ Outbound.isCandidate w (b.link w).table e = true := by
  rw [← value_queue]
  exact Outbound.mem_queue_iff ..

variable [ComponentSet U] [ComponentSet V] [Guest γ (Raw U) (Raw V)]
variable {b : Bridge γ κ U V} {w : World κ} {err : BridgeError}
variable {before : List (Outbound.Exchange γ (Raw U) (Raw V))}
variable {x : Outbound.Exchange γ (Raw U) (Raw V)}

def attempted (b : Bridge γ κ U V) (w : World κ) : List Entity :=
  Outbound.attempted w b.ingestion (b.link w) (b.queue w)

/-- The next tick fails at a request for somebody in front of an entity, which goes on waiting. -/
def FailsBefore (b : Bridge γ κ U V) (w : World κ) (e : Entity) : Prop :=
  ∃ front p rest before x,
    b.queue w = front ++ p :: rest ∧ p.entity = e ∧
      b.exchanges w = before ++ [x] ∧ x.taken = false ∧
      x.request.host ∈ front.map Waiting.entity ∧
      p ∈ (b.tick w).value.2.1.outbound.pending

/-! ## The fault -/

theorem share_of_fault (h : (b.swept w).fault = some err) :
    (b.share w).value.1.2 = .error err ∧
      (b.share w).value.2.outbound.pending = (b.swept w).waiting := by
  rw [value_share, Outbound.resolve_of_fault h]
  exact ⟨rfl, rfl⟩

theorem fault_of_share (h : (b.share w).value.1.2 = .error err) :
    (b.swept w).fault = some err := by
  cases hfault : (b.swept w).fault with
  | some err' =>
    rw [(share_of_fault hfault).1] at h
    rw [Except.error.inj h]
  | none =>
    obtain ⟨report, pending, hresolve, -⟩ := Outbound.resolve_of_clean hfault
    rw [value_share, hresolve] at h
    simp at h

theorem attempted_or_failsBefore {e : Entity} (he : e ∈ (b.queue w).map Waiting.entity) :
    e ∈ b.attempted w ∨ b.FailsBefore w e := by
  obtain ⟨p, hp, rfl⟩ := List.mem_map.mp he
  obtain ⟨front, rest, hqueue⟩ := List.append_of_mem hp
  refine (Outbound.mem_attempted_or_waiting w b.ingestion (b.link w) front p rest).imp ?_ ?_
  · rw [attempted, hqueue]
    exact id
  · -- the sweep that fails in front of it is the step's only one
    rintro ⟨⟨q, hq, before, x, hxs, hrefused, hhost⟩, hfault, hwaiting⟩
    have hstep := Outbound.settle_of_fault (Nat.le_refl (front ++ p :: rest).length) hfault
    rw [← hqueue, ← value_queue] at hstep hfault hwaiting hxs
    have hswept : b.swept w = _ := hstep.2
    rw [← hswept] at hfault hwaiting
    obtain ⟨err, herr⟩ := Option.ne_none_iff_exists'.mp hfault
    obtain ⟨hresult, hpending⟩ := share_of_fault herr
    refine ⟨front, p, rest, before, x, hqueue, rfl, hstep.1.trans hxs, hrefused,
      hhost ▸ List.mem_map_of_mem hq, ?_⟩
    rw [tick_of_fault hresult, hpending]
    exact hwaiting

/-- What a tick leaves that fails at a request, the ones before which are given. -/
structure Aborts (b : Bridge γ κ U V) (w : World κ)
    (before : List (Outbound.Exchange γ (Raw U) (Raw V)))
    (x : Outbound.Exchange γ (Raw U) (Raw V)) (err : BridgeError) : Prop where
  exchanges : b.exchanges w = before ++ [x]
  acknowledged : ∀ y ∈ before, y.acknowledged = true
  fault : x.FailsWith err
  table : (b.tick w).value.2.1.table = x.table
  grown : (b.link w).table.Grown x.table (before.map Outbound.Exchange.pair)
  consistent : x.table.Consistent
  unmapped : x.table.containsHost x.request.host = false
  nodup : ((b.queue w).map Waiting.entity).Nodup
  /-- The queue falls into those newly shared, the one that failed and those that wait. -/
  partition : (before.map (fun y => y.request.host) ++ x.request.host ::
    (b.tick w).value.2.1.outbound.pending.map Waiting.entity).Perm
      ((b.queue w).map Waiting.entity)
  kept : (b.tick w).value.2.1.outbound.pending.Sublist (b.queue w)
  result : (b.tick w).value.1 = .error err
  world : (b.tick w).value.2.2 = w
  guest : (b.tick w).value.2.1.guest = x.guestAfter
  /-- Nothing is logged after sharing. -/
  log : (b.tick w).log = (b.share w).log
  /-- Whatever guest and world are like in the next tick, a candidate is in its queue again, and
  only a failure in front of it keeps it from being attempted. -/
  again : ∀ w' guest, let next := (b.tick w).value.2.1.withGuest guest
    Outbound.isCandidate w' (next.link w').table x.request.host = true →
      x.request.host ∈ (next.queue w').map Waiting.entity ∧
        (x.request.host ∈ next.attempted w' ∨ next.FailsBefore w' x.request.host)

theorem log_of_fault (h : (b.share w).value.1.2 = .error err) :
    (b.tick w).log = (b.share w).log := by
  rw [tick, Logged.log_bind]
  simp only [h]
  exact List.append_nil _

theorem endsWith_of_fault (h : (b.swept w).fault = some err) :
    ∃ before x, Outbound.EndsWith (b.exchanges w) before x err := by
  obtain ⟨passes, hsettles⟩ := b.outbound.settles_swept w b.ingestion (b.link w) (b.tickCount + 1)
  exact hsettles.last_of_fault h

theorem Sound.failing_exchange (h : b.Sound w) (hfail : (b.share w).value.1.2 = .error err) :
    ∃ before x, b.exchanges w = before ++ [x] ∧ (∀ y ∈ before, y.acknowledged = true) ∧
      x.FailsWith err := by
  have hcourse := b.course_swept w
  obtain ⟨before, x, hend⟩ := endsWith_of_fault (fault_of_share hfail)
  have hx : x ∈ b.exchanges w := hend.exchanges ▸ List.mem_append_right before List.mem_cons_self
  have hconsistent := (hcourse.conversation.consistent h.link).2 x hx
  have hunmapped := (Outbound.isCandidate_iff.mp (hcourse.asked h.ready x hx).1).2
  have hfails := x.failsWith_fault hend.refused hunmapped hconsistent
  rw [hend.fault] at hfails
  exact ⟨before, x, hend.exchanges, fun y hy => (Outbound.Exchange.taken_iff.mp
    (hend.taken y hy)).1, hfails⟩

theorem acknowledged_of_shared {sharing : OutboundReport}
    (h : (b.share w).value.1.2 = .ok sharing) : ∀ x ∈ b.exchanges w, x.acknowledged = true :=
  fun x hx => (Outbound.Exchange.taken_iff.mp
    ((b.course_swept w).all_taken (clean_of_shared h) x hx)).1

/-- A tick that fails while it shares loses nothing. -/
theorem Reachable.aborts (hb : b.Reachable) (hw : w.Reachable)
    (hfail : (b.share w).value.1.2 = .error err) : ∃ before x, b.Aborts w before x err := by
  have h := hb.sound hw
  have hready := h.ready
  have hcourse := b.course_swept w
  rw [value_queue] at hready hcourse
  have hfault := fault_of_share hfail
  obtain ⟨before, x, hend⟩ := endsWith_of_fault hfault
  have hx : x ∈ b.exchanges w := hend.exchanges ▸ List.mem_append_right before List.mem_cons_self
  have hasked := hcourse.asked hready
  have hconsistent := (hcourse.conversation.consistent h.link).2 x hx
  have hunmapped := (Outbound.isCandidate_iff.mp (hasked x hx).1).2
  have hlink : (b.share w).value.2.table = x.table := by
    rw [table_share, hcourse.link_eq_next hend, Outbound.Exchange.table_next hend.refused]
  have hguest : (b.share w).value.2.guest = x.guestAfter := by
    have hresolve : (b.share w).value.2.guest = (b.swept w).link.guest :=
      congrArg Outbound.Link.guest (Outbound.link_resolve ..)
    rw [hresolve, hcourse.link_eq_next hend, x.guest_next]
  have hpending := (share_of_fault hfault).2
  have hfails := x.failsWith_fault hend.refused hunmapped hconsistent
  rw [hend.fault] at hfails
  refine ⟨before, x, hend.exchanges, fun y hy => ?_, hfails, ?_, hcourse.grown_before hend,
    hconsistent, hunmapped, hready.nodup, ?_, ?_, ?_, ?_, ?_, log_of_fault hfail, ?_⟩
  · exact (Outbound.Exchange.taken_iff.mp (hend.taken y hy)).1
  · rw [tick_of_fault hfail]
    exact hlink
  · rw [tick_of_fault hfail, hpending]
    exact hcourse.partition_queue hend
  · rw [tick_of_fault hfail, hpending]
    exact hcourse.waiting
  · rw [tick_of_fault hfail]
  · rw [tick_of_fault hfail]
  · rw [tick_of_fault hfail]
    exact hguest
  · intro w' guest next hcandidate
    have hqueue := mem_queue_iff.mpr hcandidate
    exact ⟨hqueue, attempted_or_failsBefore hqueue⟩

/-! ## Refusals -/

open Outbound (slotEntity)

/-- A child is refused after its parent was shared in the sweep before. -/
theorem refused_child_aborts :
    (refusedBridge.share Outbound.tangledWorld).value.1.2 =
        .error (.transportFault "guest refused to spawn Entity(0v0)") ∧
      ∃ before x, refusedBridge.Aborts Outbound.tangledWorld before x
        (.transportFault "guest refused to spawn Entity(0v0)") := by
  have hfail : (refusedBridge.share Outbound.tangledWorld).value.1.2 =
      .error (.transportFault "guest refused to spawn Entity(0v0)") := by decide +kernel
  exact ⟨hfail, Reachable.aborts (.new ..) (World.Reachable.spawnAll .refl _) hfail⟩

def twoRoots : World Empty :=
  [[⟨.shareRequest, ()⟩], [⟨.shareRequest, ()⟩]].foldl
    (fun w components => (w.spawnWith components).2) .empty

def stubbornBridge : Bridge (ScriptedGuest Empty Empty) Empty Empty Empty :=
  .new { replies := [GuestId.invalid.raw, GuestId.invalid.raw] } 8 0

/-- The first root is refused and is still a candidate in the next tick, which fails at the second
root and does not get to the first. -/
theorem refused_root_not_attempted_next :
    let next := (stubbornBridge.tick twoRoots).value.2.1
    (stubbornBridge.exchanges twoRoots).map (fun x => (x.request.host, x.taken)) =
        [(slotEntity 0, false)] ∧
      Outbound.isCandidate twoRoots (next.link twoRoots).table (slotEntity 0) = true ∧
      (next.exchanges twoRoots).map (fun x => (x.request.host, x.taken)) =
        [(slotEntity 1, false)] ∧
      slotEntity 0 ∉ next.attempted twoRoots := by
  decide +kernel

end SceneBridge.Bridge
