import SceneBridge.Proofs.Outbound.Progress
import SceneBridge.Proofs.Outbound.Requests

/-!
# Steps that fail

A step ends with the first answer that it cannot take, so a fault belongs to the last of its
exchanges (`Settles.last_of_fault`). Which entities a step gets to before that is `attempted`;
`mem_attempted_or_waiting` says that whoever it does not get to is left waiting.
-/

namespace SceneBridge.Outbound

open Wire

variable {κ : Type} [ProjectKind κ]
variable {U V γ : Type} [ComponentSet U] [ComponentSet V] [Guest γ (Raw U) (Raw V)]

variable {w : World κ} {ingestion : Ingestion κ U V} {link link' : Link γ} {queue : List Waiting}
variable {xs before : List (Exchange γ (Raw U) (Raw V))} {x : Exchange γ (Raw U) (Raw V)}
variable {s : Swept γ} {err : BridgeError}

/-! ## The last exchange -/

/-- Exchanges that end with the first whose answer cannot be taken. -/
structure EndsWith (xs before : List (Exchange γ (Raw U) (Raw V)))
    (x : Exchange γ (Raw U) (Raw V)) (err : BridgeError) : Prop where
  exchanges : xs = before ++ [x]
  taken : ∀ y ∈ before, y.taken = true
  refused : x.taken = false
  fault : x.fault = err

theorem Sweeps.last_of_fault (h : Sweeps w ingestion link queue xs s)
    (hfault : s.fault = some err) : ∃ before x, EndsWith xs before x err := by
  induction h with
  | done link => simp at hfault
  | deferred _ _ ih => exact ih hfault
  | @accepted y p rest xs s table asked taken _ ih =>
    obtain ⟨before, x, rfl, hbefore, hrefused, hx⟩ := ih hfault
    have htaken : y.taken = true := by rw [Exchange.taken, host_of_request asked, taken]; rfl
    exact ⟨y :: before, x, rfl, List.forall_mem_cons.mpr ⟨htaken, hbefore⟩, hrefused, hx⟩
  | @failed y p rest err' asked refused =>
    have hrefused : y.taken = false := by rw [Exchange.taken, host_of_request asked, refused]; rfl
    exact ⟨[], y, rfl, by simp, hrefused, Option.some.inj hfault⟩

theorem Settles.last_of_fault {passes : Nat} (h : Settles w ingestion link queue xs passes s)
    (hfault : s.fault = some err) : ∃ before x, EndsWith xs before x err := by
  induction h with
  | empty link => simp at hfault
  | last sweep _ => exact sweep.last_of_fault hfault
  | @more link p rest xs ys s t passes sweep clean _ _ ih =>
    -- a sweep that another one follows had no fault, so all its answers were taken
    obtain ⟨before, x, rfl, hbefore, hrefused, hx⟩ := ih hfault
    refine ⟨xs ++ before, x, (List.append_assoc ..).symm, fun y hy => ?_, hrefused, hx⟩
    rcases List.mem_append.mp hy with hy | hy
    · exact sweep.course.all_taken clean y hy
    · exact hbefore y hy

theorem Conversation.eq_of_nil (h : Conversation (U := U) (V := V) link [] link') :
    link' = link := by
  cases h
  rfl

theorem Conversation.eq_next (h : Conversation link (before ++ [x]) link') : link' = x.next := by
  generalize hxs : before ++ [x] = xs at h
  induction h generalizing before with
  | nil => simp at hxs
  | @cons y ys link' rest ih =>
    cases before with
    | nil =>
      obtain ⟨rfl, rfl⟩ := List.cons.inj hxs
      exact rest.eq_of_nil
    | cons z before => exact ih (List.cons.inj hxs).2

theorem Exchange.table_next (h : x.taken = false) : x.next.table = x.table := by
  cases hins : x.table.insert x.request.host x.answer with
  | ok table => simp [taken, hins, Except.isOk, Except.toBool] at h
  | error err => rw [next_of_error hins]

theorem Exchange.fault_cases (refused : x.taken = false)
    (unshared : x.table.containsHost x.request.host = false) :
    x.answer = GuestId.invalid ∧
        x.fault = .transportFault s!"guest refused to spawn {x.request.host.describe}" ∨
      x.answer ≠ GuestId.invalid ∧ x.table.containsGuest x.answer = true ∧
        x.fault = .duplicateMapping x.request.host x.answer := by
  have hnot : ¬ x.acknowledged = true := by
    intro hack
    rw [taken_iff.mpr ⟨hack, unshared⟩] at refused
    simp at refused
  by_cases hinvalid : x.answer = GuestId.invalid
  · exact .inl ⟨hinvalid, by simp [fault, GuestId.isValid, hinvalid]⟩
  · have hvalid : x.answer.isValid = true := by simpa [GuestId.isValid] using hinvalid
    refine .inr ⟨hinvalid, ?_, by rw [fault, if_pos hvalid]⟩
    simpa [acknowledged, hvalid] using hnot

/-- A fault says why an answer cannot be taken: it is the reserved id, or one that is in the table.
Either ends the tick. -/
structure Exchange.FailsWith (x : Exchange γ (Raw U) (Raw V)) (err : BridgeError) : Prop where
  refused_or_duplicate : x.answer = GuestId.invalid ∨ x.table.containsGuest x.answer = true
  refused_iff : err = .transportFault s!"guest refused to spawn {x.request.host.describe}" ↔
    x.answer = GuestId.invalid
  duplicate_iff : err = .duplicateMapping x.request.host x.answer ↔
    x.table.containsGuest x.answer = true
  abortsTick : err.abortsTick = true

theorem Exchange.failsWith_fault (refused : x.taken = false)
    (unshared : x.table.containsHost x.request.host = false) (consistent : x.table.Consistent) :
    x.FailsWith x.fault := by
  rcases x.fault_cases refused unshared with ⟨hinvalid, hfault⟩ | ⟨hvalid, hcontains, hfault⟩
  · -- no table holds the reserved id, so the two reasons exclude each other
    have hreserved : x.table.containsGuest x.answer = false := by
      rw [hinvalid]
      exact Correspondence.containsGuest_eq_false_iff.mpr consistent.host?_invalid
    rw [hfault]
    exact ⟨.inl hinvalid, by simp [hinvalid], by simp [hreserved], rfl⟩
  · rw [hfault]
    exact ⟨.inr hcontains, by simp [hvalid], by simp [hcontains], rfl⟩

namespace Course

variable (h : Course w ingestion link queue xs s) (hend : EndsWith xs before x err)

include h hend

theorem link_eq_next : s.link = x.next := by
  have hconversation := h.conversation
  rw [hend.exchanges] at hconversation
  exact hconversation.eq_next

theorem grown_before : link.table.Grown x.table (before.map Exchange.pair) := by
  have hgrown := h.grown
  have hrefused : ¬ x.taken = true := by simp [hend.refused]
  rwa [h.link_eq_next hend, Exchange.table_next hend.refused, h.spawned, hend.exchanges,
    List.filter_append, List.filter_eq_self.mpr hend.taken, List.filter_cons_of_neg hrefused,
    List.filter_nil, List.append_nil] at hgrown

theorem partition_queue :
    (before.map (fun y => y.request.host) ++
      x.request.host :: s.waiting.map Waiting.entity).Perm (queue.map Waiting.entity) := by
  have hperm := h.perm
  rwa [hend.exchanges, List.map_append, List.append_assoc] at hperm

end Course

/-! ## Who is attempted -/

/-- The entities that a sweep gets to: all up to the first whose request fails. -/
def attempted (w : World κ) (ingestion : Ingestion κ U V) (link : Link γ) :
    List Waiting → List Entity
  | [] => []
  | p :: rest =>
    match (attempt w ingestion link p.entity).value with
    | (.failed _, _) => [p.entity]
    | (_, link) => p.entity :: attempted w ingestion link rest

theorem mem_attempted_or_waiting (w : World κ) (ingestion : Ingestion κ U V) (link : Link γ)
    (front : List Waiting) (p : Waiting) (rest : List Waiting) :
    p.entity ∈ attempted w ingestion link (front ++ p :: rest) ∨
      (∃ q ∈ front, ∃ before x,
        sweepExchanges w ingestion link (front ++ p :: rest) = before ++ [x] ∧
          x.taken = false ∧ x.request.host = q.entity) ∧
      (sweep w ingestion link (front ++ p :: rest)).value.fault ≠ none ∧
      p ∈ (sweep w ingestion link (front ++ p :: rest)).value.waiting := by
  induction front generalizing link with
  | nil =>
    rw [List.nil_append, attempted]
    split
    · exact .inl List.mem_cons_self
    · exact .inl List.mem_cons_self
  | cons q front ih =>
    rw [List.cons_append, attempted, sweepExchanges, sweep, Logged.value_bind]
    cases hask : request w ingestion link.table q.entity with
    | error parent =>
      -- put off without an exchange, and the sweep goes on
      rw [value_attempt_of_error hask]
      refine (ih link).imp (List.mem_cons_of_mem q.entity) ?_
      rintro ⟨⟨r, hr, hfails⟩, hfault, hwaiting⟩
      exact ⟨⟨r, List.mem_cons_of_mem q hr, hfails⟩, hfault, List.mem_cons_of_mem q hwaiting⟩
    | ok request =>
      let x : Exchange γ (Raw U) (Raw V) := ⟨link, request⟩
      have hhost := host_of_request hask
      rw [value_attempt_of_ok hask]
      cases hins : link.table.insert q.entity x.answer with
      | ok table =>
        simp only [x, hins]
        refine (ih x.next).imp (List.mem_cons_of_mem q.entity) ?_
        rintro ⟨⟨r, hr, before, y, hxs, hfails⟩, hfault, hwaiting⟩
        exact ⟨⟨r, List.mem_cons_of_mem q hr, x :: before, y, congrArg (x :: ·) hxs, hfails⟩,
          hfault, hwaiting⟩
      | error err =>
        -- the sweep ends here, and whoever is behind waits
        simp only [x, hins]
        have hrefused : x.taken = false := by rw [Exchange.taken, hhost, hins]; rfl
        exact .inr ⟨⟨q, List.mem_cons_self, [], x, rfl, hrefused, hhost⟩, by simp,
          List.mem_append_right front List.mem_cons_self⟩

theorem settle_of_fault {fuel : Nat} (hfuel : queue.length ≤ fuel)
    (h : (sweep w ingestion link queue).value.fault ≠ none) :
    settleExchanges w ingestion fuel link queue = sweepExchanges w ingestion link queue ∧
      (settle w ingestion fuel link queue).value.2 = (sweep w ingestion link queue).value := by
  cases queue with
  | nil => exact absurd rfl h
  | cons p rest =>
    cases fuel with
    | zero => simp at hfuel
    | succ fuel =>
      have hstop : ((sweep w ingestion link (p :: rest)).value.fault.isSome ||
          (sweep w ingestion link (p :: rest)).value.spawned.isEmpty) = true := by
        simp [Option.isSome_iff_ne_none, h]
      simp only [settleExchanges, settle, Logged.value_bind]
      rw [if_pos hstop, if_pos hstop, List.append_nil]
      exact ⟨rfl, rfl⟩

end SceneBridge.Outbound
