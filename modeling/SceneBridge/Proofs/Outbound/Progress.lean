import SceneBridge.Proofs.Outbound.FixedPoint

/-!
# Progress over several steps

What the exchanges of one or several steps on one world do to a table, faults included: each pair
that was acknowledged is taken in, for a candidate that could be shared, and its host is not asked
for again. Progress of that kind changes neither who is shared in the end nor who has to wait.
-/

namespace SceneBridge.Outbound

open Wire

variable {κ : Type} [ProjectKind κ]
variable {U V γ : Type} [ComponentSet U] [ComponentSet V] [Guest γ (Raw U) (Raw V)]

def acknowledgedPairs (xs : List (Exchange γ (Raw U) (Raw V))) : List (Entity × GuestId) :=
  (xs.filter Exchange.acknowledged).map Exchange.pair

structure Progress (w : World κ) (t : Correspondence) (xs : List (Exchange γ (Raw U) (Raw V)))
    (t' : Correspondence) : Prop where
  grown : t.Grown t' (acknowledgedPairs xs)
  resolvable : ∀ x ∈ xs, Resolvable w t x.request.host
  once : xs.Pairwise fun x y => x.acknowledged = true → x.request.host ≠ y.request.host

variable {w : World κ} {t t' t'' : Correspondence} {xs ys : List (Exchange γ (Raw U) (Raw V))}

theorem mem_hosts_acknowledged {e : Entity} :
    e ∈ (acknowledgedPairs xs).map Prod.fst ↔
      ∃ x ∈ xs, x.acknowledged = true ∧ x.request.host = e := by
  simp [acknowledgedPairs, Exchange.pair, and_assoc]

namespace Progress

theorem refl (w : World κ) (t : Correspondence) :
    Progress w t ([] : List (Exchange γ (Raw U) (Raw V))) t :=
  ⟨.refl t, fun x hx => by simp at hx, .nil⟩

theorem resolvable_acknowledged (h : Progress w t xs t') :
    ∀ e ∈ (acknowledgedPairs xs).map Prod.fst, Resolvable w t e := by
  intro e he
  obtain ⟨x, hx, -, rfl⟩ := mem_hosts_acknowledged.mp he
  exact h.resolvable x hx

theorem trans (h : Progress w t xs t') (h' : Progress w t' ys t'') :
    Progress w t (xs ++ ys) t'' := by
  refine ⟨?_, fun z hz => ?_, List.pairwise_append.mpr ⟨h.once, h'.once, ?_⟩⟩
  · rw [acknowledgedPairs, List.filter_append, List.map_append]
    exact h.grown.trans h'.grown
  · rcases List.mem_append.mp hz with hx | hy
    · exact h.resolvable z hx
    · exact (h'.resolvable z hy).of_grown h.grown h.resolvable_acknowledged
  · -- whoever was acknowledged is shared by now, and those that are shared are no candidates
    intro x hx y hy hack heq
    have hshared := (h.grown.containsHost_iff x.request.host).mpr
      (.inr (mem_hosts_acknowledged.mpr ⟨x, hx, hack, rfl⟩))
    have hunshared := (isCandidate_iff.mp (h'.resolvable y hy).candidate).2
    rw [← heq, hshared] at hunshared
    simp at hunshared

theorem shared_iff (h : Progress w t xs t') {e : Entity} :
    t.containsHost e = true ∨ Resolvable w t e ↔
      t'.containsHost e = true ∨ Resolvable w t' e := by
  rw [resolvable_iff_of_grown h.grown h.resolvable_acknowledged, h.grown.containsHost_iff, or_assoc]

theorem waiting_iff (h : Progress w t xs t') {e : Entity} :
    isCandidate w t e = true ∧ ¬ Resolvable w t e ↔
      isCandidate w t' e = true ∧ ¬ Resolvable w t' e := by
  rw [resolvable_iff_of_grown h.grown h.resolvable_acknowledged, isCandidate_of_grown h.grown,
    not_or, and_assoc]

/-- Where nobody is left to be shared, everybody who could be was acknowledged. -/
theorem mem_hosts_iff (h : Progress w t xs t') {e : Entity} (hend : ¬ Resolvable w t' e) :
    e ∈ (acknowledgedPairs xs).map Prod.fst ↔ Resolvable w t e := by
  rw [resolvable_iff_of_grown h.grown h.resolvable_acknowledged, or_iff_left hend]

theorem nodup_hosts (h : Progress w t xs t') : ((acknowledgedPairs xs).map Prod.fst).Nodup := by
  rw [acknowledgedPairs, List.map_map]
  refine List.pairwise_map.mpr ?_
  refine (h.once.sublist List.filter_sublist).imp_of_mem ?_
  intro x y hx _ honce
  exact honce (List.mem_filter.mp hx).2

end Progress

theorem Exchange.taken_eq_acknowledged {x : Exchange γ (Raw U) (Raw V)}
    (candidate : isCandidate w x.table x.request.host = true) : x.taken = x.acknowledged := by
  rw [Bool.eq_iff_iff, taken_iff, and_iff_left (isCandidate_iff.mp candidate).2]

variable {ingestion : Ingestion κ U V} {link : Link γ} {queue : List Waiting} {s : Swept γ}

theorem Course.progress (h : Course w ingestion link queue xs s)
    (hready : Ready w link.table queue) : Progress w link.table xs s.link.table := by
  have hasked := h.asked hready
  refine ⟨?_, h.conversation.resolvable hasked, ?_⟩
  · have hfilter : xs.filter Exchange.acknowledged = xs.filter Exchange.taken :=
      List.filter_congr fun x hx => (Exchange.taken_eq_acknowledged (hasked x hx).1).symm
    rw [acknowledgedPairs, hfilter, ← h.spawned]
    exact h.grown
  · refine (List.pairwise_map.mp (h.nodup_hosts hready)).imp ?_
    intro x y hne _
    exact hne

end SceneBridge.Outbound
