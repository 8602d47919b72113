import SceneBridge.Proofs.Adapter
import SceneBridge.Proofs.Outbound.Course
import SceneBridge.Proofs.Wire.RoundTrip

/-!
# What a request tells the guest

The components of a request decode without an error to a snapshot that `Describes` its entity, and
the records of the project's sets are theirs for that entity. A request that is made in buffers is
the same, whatever they held before (`Buffers.request_eq`). Through a conversation a pair becomes
known only by a request that was acknowledged.
-/

namespace SceneBridge.Outbound

open Wire

variable {κ : Type} [ProjectKind κ]

/-! ## The components of a request -/

/-- A snapshot holds what the guest is to know of an entity: under tag 0 its parent by guest id,
under 1 its own handle, under 2 its asset hash and under 3 its matrix. -/
structure Describes (w : World κ) (table : Correspondence) (e : Entity)
    (s : Snapshot InbuiltComponent) : Prop where
  handle : ∃ handle : SignedHandle, s.get? 1 = some (.entity handle) ∧ handle.toEntity = e
  orphan : w.get e .parent = none → s.get? 0 = none
  child : ∀ parent, w.get e .parent = some parent →
    ∃ id, table.guest? parent = some id ∧ id ≠ GuestId.invalid ∧ s.get? 0 = some (.parent id)
  guid : s.get? 2 = (w.get e .guid).map fun guid => .guid guid.hash
  transform : s.get? 3 =
    some (.transform ((w.get e .localTransform).getD LocalTransform.identity).toMatrix)

variable {w : World κ} {table : Correspondence} {e : Entity}

/-- Completing a snapshot leaves its parent alone and sets all else. -/
theorem get?_complete (w : World κ) (e : Entity) (s : Snapshot InbuiltComponent) :
    (complete w e s).get? 0 = s.get? 0 ∧
      (complete w e s).get? 1 = some (.entity e.toSigned) ∧
      (complete w e s).get? 2 = ((w.get e .guid).map fun guid => .guid guid.hash).or (s.get? 2) ∧
      (complete w e s).get? 3 =
        some (.transform ((w.get e .localTransform).getD LocalTransform.identity).toMatrix) := by
  cases hguid : w.get e .guid with
  | none => simp [complete, hguid, Snapshot.get?_insert, ComponentSet.tag, InbuiltComponent.tag]
  | some guid =>
    simp [complete, hguid, Snapshot.get?_insert, ComponentSet.tag, InbuiltComponent.tag]

theorem sorted_complete {s : Snapshot InbuiltComponent} (hs : s.Sorted) :
    (complete w e s).Sorted := by
  cases hguid : w.get e .guid with
  | none =>
    simp only [complete, hguid]
    exact (hs.insert _).insert _
  | some guid =>
    simp only [complete, hguid]
    exact ((hs.insert _).insert _).insert _

theorem describes_complete {s : Snapshot InbuiltComponent} (hguid : s.get? 2 = none)
    (orphan : w.get e .parent = none → s.get? 0 = none)
    (child : ∀ parent, w.get e .parent = some parent →
      ∃ id, table.guest? parent = some id ∧ id ≠ GuestId.invalid ∧ s.get? 0 = some (.parent id)) :
    Describes w table e (complete w e s) := by
  obtain ⟨hparent, hentity, hg, htransform⟩ := get?_complete w e s
  refine ⟨⟨e.toSigned, hentity, SignedHandle.toEntity_toSigned e⟩, ?_, ?_, ?_, htransform⟩
  · rw [hparent]
    exact orphan
  · rw [hparent]
    exact child
  · rw [hg, hguid, Option.or_none]

theorem snapshot_describes (htable : table.Consistent) {s : Snapshot InbuiltComponent}
    (h : snapshot w table e = .ok s) : s.Sorted ∧ Describes w table e s := by
  cases hparent : w.get e .parent with
  | none =>
    rw [snapshot_of_no_parent hparent] at h
    obtain rfl := Except.ok.inj h
    refine ⟨sorted_complete Snapshot.sorted_empty, describes_complete rfl (fun _ => rfl) ?_⟩
    intro parent hchild
    simp [hparent] at hchild
  | some parent =>
    cases hid : table.guest? parent with
    | none => simp [snapshot_of_unknown_parent hparent hid] at h
    | some id =>
      rw [snapshot_of_known_parent hparent hid] at h
      obtain rfl := Except.ok.inj h
      -- so far the snapshot holds the parent and nothing else
      have hget : ∀ tag, (Snapshot.empty.insert (InbuiltComponent.parent id)).get? tag =
          if tag = 0 then some (.parent id) else none := fun tag => Snapshot.get?_insert _ _ tag
      refine ⟨sorted_complete (Snapshot.sorted_empty.insert _), describes_complete (hget 2) ?_ ?_⟩
      · simp [hparent]
      · intro parent' hchild
        obtain rfl := Option.some.inj (hparent.symm.trans hchild)
        have hvalid := htable.valid parent id hid
        exact ⟨id, hid, by simpa [GuestId.isValid] using hvalid, hget 0⟩

/-! ## Whole requests -/

variable {U V γ : Type} [ComponentSet U] [ComponentSet V]

/-- Nothing of earlier requests is left in one that is made in their buffers. -/
theorem Buffers.request_eq (b : Buffers κ U V) (w : World κ) (table : Correspondence) (e : Entity) :
    b.request w table e = (Outbound.request w b.intake.sets table e).map fun request =>
      (request, { encoder := ⟨request.components⟩, intake := b.intake.ingest w e }) := by
  rw [Buffers.request, Outbound.request, ← b.intake.views_ingest w e]
  cases snapshot w table e with
  | error parent => rfl
  | ok s => rfl

/-- A request that is in order in the world and against the table of the moment it is sent. -/
structure WellFormed (w : World κ) (ingestion : Ingestion κ U V)
    (x : Exchange γ (Raw U) (Raw V)) : Prop where
  alive : w.isAlive x.request.host = true
  asks : w.has x.request.host .shareRequest = true
  no_template : w.has x.request.host .prefab = false
  unshared : x.table.guest? x.request.host = none
  components : ∃ s, decode x.request.components = { snapshot := s } ∧
    Describes w x.table x.request.host s
  custom : x.request.custom =
    ingestion.custom.map fun adapters => encode (adapters.snapshot w x.request.host)
  customState : x.request.customState =
    ingestion.customState.map fun adapters => encode (adapters.snapshot w x.request.host)
  /-- Buffers of the same sets, whatever is in them, are filled with the very request. -/
  buffered : ∀ b : Buffers κ U V, b.intake.sets = ingestion →
    ∃ filled, b.request w x.table x.request.host = .ok (x.request, filled) ∧
      filled.intake.sets = ingestion

variable {ingestion : Ingestion κ U V}

theorem wellFormed_of_request {x : Exchange γ (Raw U) (Raw V)} (htable : x.table.Consistent)
    (candidate : isCandidate w x.table x.request.host = true)
    (h : request w ingestion x.table x.request.host = .ok x.request) :
    WellFormed w ingestion x := by
  obtain ⟨components, hsnapshot, heq⟩ := request_eq_ok h
  obtain ⟨⟨alive, asks, no_template⟩, unshared⟩ := isCandidate_iff.mp candidate
  obtain ⟨hsorted, hdescribes⟩ := snapshot_describes htable hsnapshot
  refine ⟨alive, asks, no_template, Correspondence.containsHost_eq_false_iff.mp unshared,
    ⟨components, ?_, hdescribes⟩, congrArg SpawnRequest.custom heq,
    congrArg SpawnRequest.customState heq, fun b hsets => ?_⟩
  · rw [congrArg SpawnRequest.components heq]
    exact decode_encode hsorted
  · have hrequest := b.request_eq w x.table x.request.host
    rw [hsets, h] at hrequest
    exact ⟨_, hrequest, (b.intake.sets_ingest w x.request.host).trans hsets⟩

variable [Guest γ (Raw U) (Raw V)] {link link' : Link γ} {queue : List Waiting}
variable {xs : List (Exchange γ (Raw U) (Raw V))} {s : Swept γ}

theorem Course.wellFormed (h : Course w ingestion link queue xs s) (hlink : link.table.Consistent)
    (hready : Ready w link.table queue) : ∀ x ∈ xs, WellFormed w ingestion x := by
  intro x hx
  obtain ⟨candidate, hrequest⟩ := h.asked hready x hx
  exact wellFormed_of_request ((h.conversation.consistent hlink).2 x hx) candidate hrequest

/-! ## The order of requests -/

theorem Exchange.guest_next (x : Exchange γ (Raw U) (Raw V)) : x.next.guest = x.guestAfter := by
  unfold next
  split
  · rfl
  · rfl

theorem Exchange.guest?_next {x : Exchange γ (Raw U) (Raw V)} {host : Entity} {id : GuestId}
    (h : x.next.table.guest? host = some id) :
    x.table.guest? host = some id ∨ x.acknowledged = true ∧ x.pair = (host, id) := by
  rcases (x.grown_next host id).mp h with hold | hnew
  · exact .inl hold
  · obtain ⟨htaken, hpair⟩ := mem_gain.mp hnew
    exact .inr ⟨(taken_iff.mp htaken).1, hpair.symm⟩

theorem Conversation.known_after (h : Conversation link xs link') {host : Entity} {id : GuestId}
    (hid : link'.table.guest? host = some id) :
    link.table.guest? host = some id ∨ ∃ y ∈ xs, y.acknowledged = true ∧ y.pair = (host, id) := by
  induction h with
  | nil => exact .inl hid
  | @cons x xs link' _ ih =>
    rcases ih hid with hnext | ⟨y, hy, hack, hpair⟩
    · rcases Exchange.guest?_next hnext with hold | ⟨hack, hpair⟩
      · exact .inl hold
      · exact .inr ⟨x, List.mem_cons_self, hack, hpair⟩
    · exact .inr ⟨y, List.mem_cons_of_mem x hy, hack, hpair⟩

theorem Conversation.leading (h : Conversation link xs link')
    {before after : List (Exchange γ (Raw U) (Raw V))} {x : Exchange γ (Raw U) (Raw V)}
    (hxs : xs = before ++ x :: after) : Conversation link before x.toLink := by
  induction h generalizing before with
  | nil => simp at hxs
  | @cons y ys link' _ ih =>
    cases before with
    | nil =>
      obtain ⟨rfl, -⟩ := List.cons.inj hxs
      exact .nil _
    | cons z before =>
      obtain ⟨rfl, hys⟩ := List.cons.inj hxs
      exact .cons (ih hys)

theorem Conversation.noted {α : Type} (h : Conversation link xs link') {notes : γ → List α}
    {note : Exchange γ (Raw U) (Raw V) → α}
    (hnotes : ∀ x : Exchange γ (Raw U) (Raw V), notes x.guestAfter = notes x.guest ++ [note x]) :
    notes link'.guest = notes link.guest ++ xs.map note := by
  induction h with
  | nil => simp
  | @cons x xs link' _ ih =>
    rw [ih, x.guest_next, hnotes x, List.append_assoc, List.map_cons, List.singleton_append]

theorem Conversation.heard (h : Conversation link xs link')
    {notes : γ → List (SpawnRequest (Raw U) (Raw V))}
    (hnotes : ∀ guest request,
      notes (Guest.spawn guest request).value.2 = notes guest ++ [request]) :
    notes link'.guest = notes link.guest ++ xs.map Exchange.request :=
  h.noted fun x => hnotes x.guest x.request

end SceneBridge.Outbound
