import Mathlib.Data.List.Basic
import SceneBridge.Proofs.Outbound.Exchange

/-!
# The course of a step

What a sweep, and then a whole step, makes of its queue. `Course` collects it: the exchanges follow
each other, the pairs taken in are the table's growth, and those asked and those left waiting
together are the queue. A `Ready` queue holds candidates only, none of them twice.
-/

namespace SceneBridge.Outbound

open Wire

variable {κ : Type} [ProjectKind κ]
variable {U V γ : Type} [ComponentSet U] [ComponentSet V] [Guest γ (Raw U) (Raw V)]

/-! ## What can happen -/

inductive Sweeps (w : World κ) (ingestion : Ingestion κ U V) :
    Link γ → List Waiting → List (Exchange γ (Raw U) (Raw V)) → Swept γ → Prop
  | done (link : Link γ) : Sweeps w ingestion link [] [] { link }
  | deferred {link : Link γ} {p : Waiting} {rest : List Waiting}
      {xs : List (Exchange γ (Raw U) (Raw V))} {s : Swept γ} {parent : Entity}
      (blocked : request w ingestion link.table p.entity = .error parent)
      (tail : Sweeps w ingestion link rest xs s) :
      Sweeps w ingestion link (p :: rest) xs { s with waiting := p :: s.waiting }
  | accepted {x : Exchange γ (Raw U) (Raw V)} {p : Waiting} {rest : List Waiting}
      {xs : List (Exchange γ (Raw U) (Raw V))} {s : Swept γ} {table : Correspondence}
      (asked : request w ingestion x.table p.entity = .ok x.request)
      (taken : x.table.insert p.entity x.answer = .ok table)
      (tail : Sweeps w ingestion x.next rest xs s) :
      Sweeps w ingestion x.toLink (p :: rest) (x :: xs)
        { s with spawned := (p.entity, x.answer) :: s.spawned }
  | failed {x : Exchange γ (Raw U) (Raw V)} {p : Waiting} {rest : List Waiting} {err : BridgeError}
      (asked : request w ingestion x.table p.entity = .ok x.request)
      (refused : x.table.insert p.entity x.answer = .error err) :
      Sweeps w ingestion x.toLink (p :: rest) [x]
        { link := x.next, waiting := rest, fault := some x.fault }

inductive Settles (w : World κ) (ingestion : Ingestion κ U V) :
    Link γ → List Waiting → List (Exchange γ (Raw U) (Raw V)) → Nat → Swept γ → Prop
  | empty (link : Link γ) : Settles w ingestion link [] [] 0 { link }
  | last {link : Link γ} {p : Waiting} {rest : List Waiting}
      {xs : List (Exchange γ (Raw U) (Raw V))} {s : Swept γ}
      (sweep : Sweeps w ingestion link (p :: rest) xs s)
      (stop : s.fault ≠ none ∨ s.spawned = []) : Settles w ingestion link (p :: rest) xs 1 s
  | more {link : Link γ} {p : Waiting} {rest : List Waiting}
      {xs ys : List (Exchange γ (Raw U) (Raw V))} {s t : Swept γ} {passes : Nat}
      (sweep : Sweeps w ingestion link (p :: rest) xs s)
      (clean : s.fault = none) (progress : s.spawned ≠ [])
      (tail : Settles w ingestion s.link s.waiting ys passes t) :
      Settles w ingestion link (p :: rest) (xs ++ ys) (passes + 1)
        { t with spawned := s.spawned ++ t.spawned }

theorem sweeps_sweep (w : World κ) (ingestion : Ingestion κ U V) (link : Link γ)
    (queue : List Waiting) :
    Sweeps w ingestion link queue (sweepExchanges w ingestion link queue)
      (sweep w ingestion link queue).value := by
  induction queue generalizing link with
  | nil => exact .done link
  | cons p rest ih =>
    rw [sweepExchanges, sweep, Logged.value_bind]
    cases hask : request w ingestion link.table p.entity with
    | error parent =>
      rw [value_attempt_of_error hask]
      exact .deferred hask (ih link)
    | ok request =>
      let x : Exchange γ (Raw U) (Raw V) := ⟨link, request⟩
      rw [value_attempt_of_ok hask]
      cases hins : link.table.insert p.entity x.answer with
      | ok table =>
        simp only [x, hins]
        exact .accepted (x := x) hask hins (ih x.next)
      | error err =>
        simp only [x, hins]
        exact .failed (x := x) hask hins

/-! ## Consistency -/

theorem Conversation.consistent {link link' : Link γ} {xs : List (Exchange γ (Raw U) (Raw V))}
    (h : Conversation link xs link') (hlink : link.table.Consistent) :
    link'.table.Consistent ∧ ∀ x ∈ xs, x.table.Consistent := by
  induction h with
  | nil => exact ⟨hlink, fun x hx => by simp at hx⟩
  | @cons x xs link' _ ih =>
    have hnext : x.next.table.Consistent := by
      cases hins : x.table.insert x.request.host x.answer with
      | ok table =>
        rw [Exchange.next_of_ok hins]
        exact hlink.insert hins
      | error err =>
        rw [Exchange.next_of_error hins]
        exact hlink
    obtain ⟨hlast, hrest⟩ := ih hnext
    exact ⟨hlast, List.forall_mem_cons.mpr ⟨hlink, hrest⟩⟩

theorem Conversation.size {link link' : Link γ} {xs : List (Exchange γ (Raw U) (Raw V))}
    (h : Conversation link xs link') :
    link'.table.size = link.table.size + (xs.filter Exchange.taken).length := by
  induction h with
  | nil => rfl
  | @cons x xs link' _ ih =>
    cases hins : x.table.insert x.request.host x.answer with
    | ok table =>
      have htaken : x.taken = true := by rw [Exchange.taken, hins]; rfl
      rw [ih, Exchange.next_of_ok hins, Correspondence.size_insert hins,
        List.filter_cons_of_pos htaken, List.length_cons, Nat.add_right_comm, Nat.add_assoc]
    | error err =>
      have htaken : x.taken = false := by rw [Exchange.taken, hins]; rfl
      rw [ih, Exchange.next_of_error hins, List.filter_cons_of_neg (by simp [htaken])]

/-! ## Ready queues -/

theorem isCandidate_iff {w : World κ} {table : Correspondence} {e : Entity} :
    isCandidate w table e = true ↔
      (w.isAlive e = true ∧ w.has e .shareRequest = true ∧ w.has e .prefab = false) ∧
        table.containsHost e = false := by
  simp [isCandidate, and_assoc]

theorem isCandidate_of_grown {w : World κ} {t t' : Correspondence}
    {pairs : List (Entity × GuestId)} (h : t.Grown t' pairs) {e : Entity} :
    isCandidate w t' e = true ↔ isCandidate w t e = true ∧ e ∉ pairs.map Prod.fst := by
  rw [isCandidate_iff, isCandidate_iff, ← Bool.not_eq_true (t'.containsHost e),
    ← Bool.not_eq_true (t.containsHost e), h.containsHost_iff, not_or]
  exact and_assoc.symm

/-- Every entry is a candidate, and none occurs twice. -/
structure Ready (w : World κ) (table : Correspondence) (queue : List Waiting) : Prop where
  nodup : (queue.map Waiting.entity).Nodup
  candidates : ∀ p ∈ queue, isCandidate w table p.entity = true

theorem Ready.tail {w : World κ} {table : Correspondence} {p : Waiting} {rest : List Waiting}
    (h : Ready w table (p :: rest)) : Ready w table rest :=
  ⟨(List.nodup_cons.mp h.nodup).2, fun q hq => h.candidates q (List.mem_cons_of_mem p hq)⟩

theorem Ready.rest {w : World κ} {t t' : Correspondence} {queue rest : List Waiting}
    (h : Ready w t queue) {pairs : List (Entity × GuestId)} (hgrown : t.Grown t' pairs)
    (hsub : rest.Sublist queue)
    (hdisjoint : ∀ p ∈ rest, p.entity ∉ pairs.map Prod.fst) : Ready w t' rest :=
  ⟨h.nodup.sublist (hsub.map Waiting.entity), fun p hp =>
    (isCandidate_of_grown hgrown).mpr ⟨h.candidates p (hsub.subset hp), hdisjoint p hp⟩⟩

theorem Ready.accepted {w : World κ} {t t' : Correspondence} {p : Waiting} {rest : List Waiting}
    (h : Ready w t (p :: rest)) {id : GuestId} (hins : t.insert p.entity id = .ok t') :
    Ready w t' rest := by
  refine h.rest (Correspondence.grown_insert hins) (List.sublist_cons_self p rest) ?_
  intro q hq hmem
  have hne := (List.nodup_cons.mp h.nodup).1
  rw [List.map_cons, List.map_nil, List.mem_singleton] at hmem
  exact hne (List.mem_map.mpr ⟨q, hq, hmem⟩)

/-! ## The course -/

/-- What becomes of a queue. -/
structure Course (w : World κ) (ingestion : Ingestion κ U V) (link : Link γ) (queue : List Waiting)
    (xs : List (Exchange γ (Raw U) (Raw V))) (s : Swept γ) : Prop where
  conversation : Conversation link xs s.link
  grown : link.table.Grown s.link.table s.spawned
  spawned : s.spawned = (xs.filter Exchange.taken).map Exchange.pair
  fault : s.fault = (xs.find? fun x => !x.taken).map Exchange.fault
  perm : (xs.map (fun x => x.request.host) ++ s.waiting.map Waiting.entity).Perm
    (queue.map Waiting.entity)
  waiting : s.waiting.Sublist queue
  asked : Ready w link.table queue → ∀ x ∈ xs, isCandidate w x.table x.request.host = true ∧
    request w ingestion x.table x.request.host = .ok x.request

namespace Course

variable {w : World κ} {ingestion : Ingestion κ U V} {link : Link γ} {queue rest : List Waiting}
variable {xs ys : List (Exchange γ (Raw U) (Raw V))} {s t : Swept γ} {p : Waiting}

theorem done (w : World κ) (ingestion : Ingestion κ U V) (link : Link γ) :
    Course w ingestion link [] [] { link } where
  conversation := .nil link
  grown := .refl link.table
  spawned := rfl
  fault := rfl
  perm := .refl _
  waiting := .refl _
  asked _ x hx := by simp at hx

theorem deferred (h : Course w ingestion link rest xs s) :
    Course w ingestion link (p :: rest) xs { s with waiting := p :: s.waiting } where
  conversation := h.conversation
  grown := h.grown
  spawned := h.spawned
  fault := h.fault
  perm := List.perm_middle.trans (h.perm.cons p.entity)
  waiting := h.waiting.cons_cons p
  asked hready := h.asked hready.tail

theorem accepted {x : Exchange γ (Raw U) (Raw V)} {table : Correspondence}
    (asked : request w ingestion x.table p.entity = .ok x.request)
    (taken : x.table.insert p.entity x.answer = .ok table)
    (h : Course w ingestion x.next rest xs s) :
    Course w ingestion x.toLink (p :: rest) (x :: xs)
      { s with spawned := (p.entity, x.answer) :: s.spawned } := by
  have hhost := host_of_request asked
  rw [← hhost] at taken
  have hnext := Exchange.next_of_ok taken
  have htaken : x.taken = true := by rw [Exchange.taken, taken]; rfl
  refine ⟨.cons h.conversation, ?_, ?_, ?_, ?_, h.waiting.cons p, ?_⟩
  · have hgrown := (Correspondence.grown_insert taken).trans (hnext ▸ h.grown)
    rwa [hhost] at hgrown
  · simp [htaken, h.spawned, Exchange.pair, hhost]
  · simp [htaken, h.fault]
  · simpa [hhost] using h.perm
  · intro hready y hy
    rcases List.mem_cons.mp hy with rfl | hy
    · rw [hhost]
      exact ⟨hready.candidates p List.mem_cons_self, asked⟩
    · refine h.asked ?_ y hy
      rw [hnext]
      exact hready.accepted (hhost ▸ taken)

theorem failed {x : Exchange γ (Raw U) (Raw V)} {err : BridgeError}
    (asked : request w ingestion x.table p.entity = .ok x.request)
    (refused : x.table.insert p.entity x.answer = .error err) :
    Course w ingestion x.toLink (p :: rest) [x]
      { link := x.next, waiting := rest, fault := some x.fault } := by
  have hhost := host_of_request asked
  rw [← hhost] at refused
  have hnext := Exchange.next_of_error refused
  have htaken : x.taken = false := by rw [Exchange.taken, refused]; rfl
  refine ⟨.cons (.nil _), ?_, ?_, ?_, ?_, List.sublist_cons_self p rest, ?_⟩
  · rw [hnext]
    exact .refl _
  · simp [htaken]
  · simp [htaken]
  · simp [hhost]
  · intro hready y hy
    obtain rfl := List.mem_singleton.mp hy
    rw [hhost]
    exact ⟨hready.candidates p List.mem_cons_self, asked⟩

theorem size (h : Course w ingestion link queue xs s) :
    s.link.table.size = link.table.size + s.spawned.length := by
  rw [h.conversation.size, h.spawned, List.length_map]

theorem all_taken (h : Course w ingestion link queue xs s) (clean : s.fault = none) :
    ∀ x ∈ xs, x.taken = true := by
  intro x hx
  have hfind := h.fault
  rw [clean, eq_comm, Option.map_eq_none_iff, List.find?_eq_none] at hfind
  simpa using hfind x hx

theorem hosts_spawned_subset (h : Course w ingestion link queue xs s) {e : Entity}
    (he : e ∈ s.spawned.map Prod.fst) : e ∈ xs.map fun x => x.request.host := by
  rw [h.spawned] at he
  obtain ⟨pair, hpair, rfl⟩ := List.mem_map.mp he
  obtain ⟨x, hx, rfl⟩ := List.mem_map.mp hpair
  exact List.mem_map.mpr ⟨x, (List.mem_filter.mp hx).1, rfl⟩

theorem nodup_hosts (h : Course w ingestion link queue xs s) (hready : Ready w link.table queue) :
    (xs.map fun x => x.request.host).Nodup :=
  (List.nodup_append.mp (h.perm.nodup_iff.mpr hready.nodup)).1

theorem nodup_spawned (h : Course w ingestion link queue xs s) (hready : Ready w link.table queue) :
    (s.spawned.map Prod.fst).Nodup := by
  rw [h.spawned, List.map_map]
  exact (h.nodup_hosts hready).sublist (List.filter_sublist.map (Prod.fst ∘ Exchange.pair))

theorem ready (h : Course w ingestion link queue xs s) (hready : Ready w link.table queue) :
    Ready w s.link.table s.waiting := by
  refine hready.rest h.grown h.waiting ?_
  intro p hp hmem
  have hnodup := h.perm.nodup_iff.mpr hready.nodup
  have hdisjoint := (List.nodup_append.mp hnodup).2.2
  exact hdisjoint p.entity (h.hosts_spawned_subset hmem) p.entity
    (List.mem_map_of_mem hp) rfl

theorem trans (h : Course w ingestion link queue xs s) (clean : s.fault = none)
    (h' : Course w ingestion s.link s.waiting ys t) :
    Course w ingestion link queue (xs ++ ys) { t with spawned := s.spawned ++ t.spawned } where
  conversation := h.conversation.append h'.conversation
  grown := h.grown.trans h'.grown
  spawned := by rw [List.filter_append, List.map_append, ← h.spawned, ← h'.spawned]
  fault := by
    have hnone : (xs.find? fun x => !x.taken) = none :=
      List.find?_eq_none.mpr fun x hx => by simp [h.all_taken clean x hx]
    rw [List.find?_append, hnone, Option.none_or, ← h'.fault]
  perm := by
    rw [List.map_append, List.append_assoc]
    exact (h'.perm.append_left _).trans h.perm
  waiting := h'.waiting.trans h.waiting
  asked hready x hx := by
    rcases List.mem_append.mp hx with hx | hx
    · exact h.asked hready x hx
    · exact h'.asked (h.ready hready) x hx

end Course

variable {w : World κ} {ingestion : Ingestion κ U V} {link : Link γ} {queue : List Waiting}
variable {xs : List (Exchange γ (Raw U) (Raw V))} {s : Swept γ}

theorem Sweeps.course (h : Sweeps w ingestion link queue xs s) :
    Course w ingestion link queue xs s := by
  induction h with
  | done link => exact .done w ingestion link
  | deferred _ _ ih => exact ih.deferred
  | accepted asked taken _ ih => exact .accepted asked taken ih
  | failed asked refused => exact .failed asked refused

theorem Settles.course {passes : Nat} (h : Settles w ingestion link queue xs passes s) :
    Course w ingestion link queue xs s := by
  induction h with
  | empty link => exact .done w ingestion link
  | last sweep _ => exact sweep.course
  | more sweep clean _ _ ih => exact sweep.course.trans clean ih

theorem Sweeps.waiting_length_lt (h : Sweeps w ingestion link queue xs s)
    (progress : s.spawned ≠ []) : s.waiting.length < queue.length := by
  have hcourse := h.course
  have hlength := hcourse.perm.length_eq
  simp only [List.length_append, List.length_map] at hlength
  have hxs : xs ≠ [] := by
    rintro rfl
    exact progress hcourse.spawned
  have hpos := List.length_pos_of_ne_nil hxs
  omega

theorem settles_settle (w : World κ) (ingestion : Ingestion κ U V) {fuel : Nat} (link : Link γ)
    {queue : List Waiting} (hfuel : queue.length ≤ fuel) :
    Settles w ingestion link queue (settleExchanges w ingestion fuel link queue)
      (settle w ingestion fuel link queue).value.1
      (settle w ingestion fuel link queue).value.2 := by
  induction fuel generalizing link queue with
  | zero =>
    obtain rfl := List.length_eq_zero_iff.mp (Nat.le_zero.mp hfuel)
    exact .empty link
  | succ fuel ih =>
    cases queue with
    | nil => exact .empty link
    | cons p rest =>
      have hsweep := sweeps_sweep w ingestion link (p :: rest)
      simp only [settleExchanges, settle, Logged.value_bind]
      by_cases hstop : ((sweep w ingestion link (p :: rest)).value.fault.isSome ||
          (sweep w ingestion link (p :: rest)).value.spawned.isEmpty) = true
      · rw [if_pos hstop, if_pos hstop, List.append_nil]
        refine .last hsweep ?_
        simpa [Option.isSome_iff_ne_none] using hstop
      · rw [if_neg hstop, if_neg hstop]
        simp only [Bool.or_eq_true, not_or, Option.isSome_iff_ne_none, ne_eq, not_not,
          List.isEmpty_iff] at hstop
        -- the sweep took something in, so the fuel left covers the shorter queue
        have hlt := hsweep.waiting_length_lt hstop.2
        refine .more hsweep hstop.1 hstop.2 (ih _ ?_)
        rw [List.length_cons] at hfuel hlt
        omega

end SceneBridge.Outbound
