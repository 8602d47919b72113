import SceneBridge.Proofs.Outbound.Fault

/-!
# The first sweep of a step

An entity that nothing keeps waiting is asked for in the first sweep already, unless that sweep
fails in front of it (`requested_or_fails`). If everybody in the queue has to wait, the first sweep
asks for nobody, and no other follows (`settle_of_blocked`).
-/

namespace SceneBridge.Outbound

open Wire

variable {κ : Type} [ProjectKind κ]
variable {U V γ : Type} [ComponentSet U] [ComponentSet V] [Guest γ (Raw U) (Raw V)]

variable {w : World κ} {ingestion : Ingestion κ U V} {link : Link γ} {queue : List Waiting}

theorem sweepExchanges_prefix (w : World κ) (ingestion : Ingestion κ U V) (link : Link γ)
    {fuel : Nat} (hfuel : queue.length ≤ fuel) :
    sweepExchanges w ingestion link queue <+: settleExchanges w ingestion fuel link queue := by
  cases queue with
  | nil => exact List.nil_prefix
  | cons p rest =>
    cases fuel with
    | zero => simp at hfuel
    | succ fuel => exact List.prefix_append ..

/-! ## Nobody has to wait for -/

theorem request_of_free {table : Correspondence} {e : Entity}
    (hfree : ∀ parent, ¬ WaitsFor w table e parent) :
    ∃ r, request w ingestion table e = .ok r := by
  cases hask : request w ingestion table e with
  | ok r => exact ⟨r, rfl⟩
  | error parent =>
    obtain ⟨hparent, hunknown⟩ := request_eq_error_iff.mp hask
    exact absurd ⟨hparent, Correspondence.containsHost_eq_false_iff.mpr hunknown⟩ (hfree parent)

theorem free_of_grown {t t' : Correspondence} {pairs : List (Entity × GuestId)}
    (hgrown : t.Grown t' pairs) {e : Entity} (hfree : ∀ parent, ¬ WaitsFor w t e parent) :
    ∀ parent, ¬ WaitsFor w t' e parent := by
  intro parent hwait
  exact hfree parent (hwait.of_grown hgrown)

theorem mem_sweepExchanges_of_attempted {e : Entity} (h : e ∈ attempted w ingestion link queue)
    (hfree : ∀ parent, ¬ WaitsFor w link.table e parent) :
    ∃ x ∈ sweepExchanges w ingestion link queue, x.request.host = e := by
  induction queue generalizing link with
  | nil => simp [attempted] at h
  | cons p rest ih =>
    rw [attempted] at h
    rw [sweepExchanges]
    cases hask : request w ingestion link.table p.entity with
    | error parent =>
      rw [value_attempt_of_error hask] at h
      rcases List.mem_cons.mp h with rfl | hrest
      · obtain ⟨r, hr⟩ : ∃ r, request w ingestion link.table p.entity = .ok r :=
          request_of_free hfree
        rw [hask] at hr
        simp at hr
      · exact ih hrest hfree
    | ok request =>
      let x : Exchange γ (Raw U) (Raw V) := ⟨link, request⟩
      have hhost : x.request.host = p.entity := host_of_request hask
      rw [value_attempt_of_ok hask] at h
      cases hins : link.table.insert p.entity x.answer with
      | ok table =>
        simp only [x, hins] at h ⊢
        rcases List.mem_cons.mp h with rfl | hrest
        · exact ⟨x, List.mem_cons_self, hhost⟩
        · obtain ⟨y, hy, heq⟩ := ih hrest (free_of_grown x.grown_next hfree)
          exact ⟨y, List.mem_cons_of_mem x hy, heq⟩
      | error err =>
        simp only [x, hins] at h ⊢
        rw [List.mem_singleton.mp h]
        exact ⟨x, List.mem_cons_self, hhost⟩

/-- An entity that waits for nobody is asked for, unless a request in front of it fails. -/
theorem requested_or_fails {front rest : List Waiting} {p : Waiting}
    (hqueue : queue = front ++ p :: rest)
    (hfree : ∀ parent, ¬ WaitsFor w link.table p.entity parent) :
    (∃ x ∈ sweepExchanges w ingestion link queue, x.request.host = p.entity) ∨
      ∃ before x, sweepExchanges w ingestion link queue = before ++ [x] ∧
        x.request.host ∈ front.map Waiting.entity ∧
        (sweep w ingestion link queue).value.fault = some x.fault := by
  subst hqueue
  rcases mem_attempted_or_waiting w ingestion link front p rest with
    hreached | ⟨⟨q, hq, before, x, hxs, -, hhost⟩, hfault, -⟩
  · exact .inl (mem_sweepExchanges_of_attempted hreached hfree)
  · -- the fault is that of the last exchange, and there is one last exchange only
    obtain ⟨err, herr⟩ := Option.ne_none_iff_exists'.mp hfault
    obtain ⟨before', x', hend⟩ := (sweeps_sweep w ingestion link _).last_of_fault herr
    obtain ⟨rfl, hx⟩ := List.append_inj' (hxs.symm.trans hend.exchanges) rfl
    obtain rfl := (List.cons.inj hx).1
    exact .inr ⟨before, x, hxs, hhost ▸ List.mem_map_of_mem hq, hend.fault ▸ herr⟩

/-! ## Everybody has to wait -/

theorem request_of_waits (ingestion : Ingestion κ U V) {table : Correspondence}
    {e parent : Entity} (h : WaitsFor w table e parent) :
    request w ingestion table e = .error parent :=
  request_eq_error_iff.mpr ⟨h.1, Correspondence.containsHost_eq_false_iff.mp h.2⟩

theorem sweepExchanges_of_blocked
    (h : ∀ p ∈ queue, ∃ parent, WaitsFor w link.table p.entity parent) :
    sweepExchanges w ingestion link queue = [] := by
  induction queue with
  | nil => rfl
  | cons p rest ih =>
    obtain ⟨hp, hrest⟩ := List.forall_mem_cons.mp h
    obtain ⟨parent, hparent⟩ := hp
    rw [sweepExchanges, request_of_waits ingestion hparent]
    exact ih hrest

theorem value_sweep_of_blocked
    (h : ∀ p ∈ queue, ∃ parent, WaitsFor w link.table p.entity parent) :
    (sweep w ingestion link queue).value = { link, waiting := queue } := by
  induction queue with
  | nil => rfl
  | cons p rest ih =>
    obtain ⟨hp, hrest⟩ := List.forall_mem_cons.mp h
    obtain ⟨parent, hparent⟩ := hp
    rw [sweep, Logged.value_bind, value_attempt_of_error (request_of_waits ingestion hparent)]
    simp only [Logged.value_bind, ih hrest]
    rfl

theorem settle_of_blocked (ingestion : Ingestion κ U V) {fuel : Nat} (hfuel : queue.length ≤ fuel)
    (h : ∀ p ∈ queue, ∃ parent, WaitsFor w link.table p.entity parent) :
    settleExchanges w ingestion fuel link queue = [] ∧
      (settle w ingestion fuel link queue).value =
        (if queue = [] then 0 else 1, { link, waiting := queue }) := by
  cases queue with
  | nil =>
    cases fuel with
    | zero => exact ⟨rfl, rfl⟩
    | succ fuel => exact ⟨rfl, rfl⟩
  | cons p rest =>
    cases fuel with
    | zero => simp at hfuel
    | succ fuel =>
      simp [settleExchanges, settle, sweepExchanges_of_blocked h, value_sweep_of_blocked h]

end SceneBridge.Outbound
