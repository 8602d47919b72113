import SceneBridge.Proofs.Bridge.Run
import SceneBridge.Proofs.Outbound.Requests

/-!
# The requests of a run

`Bridge.exchanges` are the requests of the next tick, each with the table and the guest's state at
its moment. Whatever run led to that tick, they are all that the guest is asked, they are well
formed and for distinct hosts, and no child is asked for before its parent was acknowledged.
-/

namespace SceneBridge.Bridge

open Wire

variable {γ κ U V : Type} [ProjectKind κ] [ComponentSet U] [ComponentSet V]
variable [Guest γ (Raw U) (Raw V)] {b : Bridge γ κ U V} {w : World κ}
variable {history : List (Outbound.Exchange γ (Raw U) (Raw V))}

theorem conversation_share (b : Bridge γ κ U V) (w : World κ) :
    Outbound.Conversation (b.link w) (b.exchanges w)
      { table := (b.share w).value.2.table, guest := (b.share w).value.2.guest } := by
  have hlink := Outbound.link_resolve b.outbound w b.ingestion (b.link w) (b.tickCount + 1)
  have hconversation := (b.course_swept w).conversation
  rw [swept, ← hlink] at hconversation
  exact hconversation

theorem Sound.guest?_tick (h : b.Sound w) {host : Entity} {id : GuestId}
    (hid : (b.tick w).value.2.1.table.guest? host = some id) :
    (b.share w).value.2.table.guest? host = some id := by
  cases hshare : (b.share w).value.1.2 with
  | error err =>
    rw [tick_of_fault hshare] at hid
    exact hid
  | ok report =>
    rw [tick_of_shared hshare, value_guestTurn] at hid
    exact (Inbound.staged_turn h.settled_share.consistent _ _).shrunk host id hid

theorem Run.brought_in (h : Run b w history) {host : Entity} {id : GuestId}
    (hid : b.table.guest? host = some id) :
    ∃ y ∈ history, y.acknowledged = true ∧ y.pair = (host, id) := by
  induction h with
  | new guest warnPasses warnAfter ingestion =>
    have hnone : (Correspondence.empty).guest? host = some id := hid
    simp at hnone
  | @start b w history _ ih =>
    rw [(b.start_keeps w).1] at hid
    exact ih hid
  | @tick b w history hrun ih =>
    rcases (b.conversation_share w).known_after (hrun.sound.guest?_tick hid) with hold | hnew
    · obtain ⟨y, hy, hack, hpair⟩ := ih (guest?_of_link hold)
      exact ⟨y, List.mem_append_left _ hy, hack, hpair⟩
    · obtain ⟨y, hy, hack, hpair⟩ := hnew
      exact ⟨y, List.mem_append_right _ hy, hack, hpair⟩
  | edit _ _ ih => exact ih hid
  | swap _ _ ih => exact ih hid

structure RequestsInOrder (b : Bridge γ κ U V) (w : World κ)
    (history : List (Outbound.Exchange γ (Raw U) (Raw V))) : Prop where
  /-- From the table and the guest of the tick's start to those its first half leaves. -/
  conversation : Outbound.Conversation (b.link w) (b.exchanges w)
    { table := (b.share w).value.2.table, guest := (b.share w).value.2.guest }
  /-- A guest that notes down what it is asked has noted down these requests and no others. -/
  heard : ∀ notes : γ → List (SpawnRequest (Raw U) (Raw V)),
    (∀ guest request, notes (Guest.spawn guest request).value.2 = notes guest ++ [request]) →
      notes (b.share w).value.2.guest =
        notes b.guest ++ (b.exchanges w).map Outbound.Exchange.request
  once : ((b.exchanges w).map fun x => x.request.host).Nodup
  wellFormed : ∀ x ∈ b.exchanges w, Outbound.WellFormed w b.ingestion x
  /-- The id of a parent was acknowledged by an earlier request, of this tick or of the run. -/
  parents_first : ∀ before x after, b.exchanges w = before ++ x :: after →
    ∀ parent, w.get x.request.host .parent = some parent →
      ∃ y ∈ history ++ before, y.acknowledged = true ∧ y.request.host = parent ∧
        x.table.guest? parent = some y.answer

/-- Every request of every run is in order. -/
theorem Run.requests_in_order (h : Run b w history) : b.RequestsInOrder w history := by
  have hcourse := b.course_swept w
  have hformed := hcourse.wellFormed h.sound.link h.sound.ready
  refine ⟨b.conversation_share w, ?_, hcourse.nodup_hosts h.sound.ready, hformed, ?_⟩
  · intro notes hnotes
    exact (b.conversation_share w).heard hnotes
  · intro before x after hxs parent hparent
    have hx : x ∈ b.exchanges w := hxs ▸ List.mem_append_right before List.mem_cons_self
    obtain ⟨s, -, hdescribes⟩ := (hformed x hx).components
    obtain ⟨id, hid, -, -⟩ := hdescribes.child parent hparent
    rcases (hcourse.conversation.leading hxs).known_after hid with hold | ⟨y, hy, hack, hpair⟩
    · obtain ⟨y, hy, hack, hpair⟩ := h.brought_in (guest?_of_link hold)
      obtain ⟨hhost, hanswer⟩ := Prod.mk.inj hpair
      exact ⟨y, List.mem_append_left _ hy, hack, hhost, hanswer ▸ hid⟩
    · obtain ⟨hhost, hanswer⟩ := Prod.mk.inj hpair
      exact ⟨y, List.mem_append_right _ hy, hack, hhost, hanswer ▸ hid⟩

/-- The child that was refused is requested again, with the id its parent got a tick before. -/
theorem request_after_refusal_in_order :
    let b := (refusedBridge.tick Outbound.tangledWorld).value.2.1
    ((b.exchanges Outbound.tangledWorld).map fun x =>
        (x.request.host, (decode (U := InbuiltComponent) x.request.components).snapshot.get? 0)) =
      [(Outbound.slotEntity 0, some (InbuiltComponent.parent ⟨5⟩))] ∧
    b.RequestsInOrder Outbound.tangledWorld
      ([] ++ refusedBridge.exchanges Outbound.tangledWorld) :=
  ⟨by decide, Run.requests_in_order (.tick (.spawnAll (.new ..) _))⟩

end SceneBridge.Bridge
