import SceneBridge.Proofs.World
import SceneBridge.TemplateRegistry

/-!
# What is announced to a guest

A registry holds, for each id, the first family that the world declares under it
(`TemplateRegistry.family?_collect`). `TemplateRegistry.announcements` are its families as they
reach a guest. A call that the guest interrupts leaves no trace in the registry, so the next one
begins again with the first family; `Retries` are the call histories that come of that. What the
guest took is not announced again as long as no call loses it (`Retries.announcedOnce`).
-/

namespace SceneBridge

variable {κ : Type} [ProjectKind κ]

def World.familyOf (w : World κ) (e : Entity) : Option TemplateFamily := w.get e .templateFamily

/-- The families that a world declares, holders taken in slot order. -/
def World.declared (w : World κ) : List TemplateFamily :=
  (w.query .templateFamily).filterMap w.familyOf

theorem World.mem_declared {w : World κ} {f : TemplateFamily} :
    f ∈ w.declared ↔ ∃ e, w.familyOf e = some f := by
  refine List.mem_filterMap.trans ⟨fun ⟨e, _, h⟩ => ⟨e, h⟩, fun ⟨e, h⟩ => ⟨e, ?_, h⟩⟩
  exact World.mem_query_of_has (Option.isSome_iff_exists.mpr ⟨f, h⟩)

private theorem exists_first_of_find? {α β : Type} {R : α → α → Prop} {g : α → Option β}
    {p : β → Bool} {l : List α} (hl : l.Pairwise R) {y : β} (h : (l.filterMap g).find? p = some y) :
    ∃ x ∈ l, g x = some y ∧
      ∀ x' ∈ l, ∀ y', g x' = some y' → p y' = true → x' = x ∨ R x x' := by
  obtain ⟨-, passed, later, hsplit, hpassed⟩ := List.find?_eq_some_iff_append.mp h
  obtain ⟨front, tail, rfl, hfront, htail⟩ := List.filterMap_eq_append_iff.mp hsplit
  obtain ⟨skipped, x, back, rfl, hskipped, hx, -⟩ := List.filterMap_eq_cons_iff.mp htail
  refine ⟨x, by simp, hx, fun x' hx' y' hy' hp => ?_⟩
  rcases List.mem_append.mp hx' with hmem | hmem
  · have hy : y' ∈ passed := hfront ▸ List.mem_filterMap.mpr ⟨x', hmem, hy'⟩
    have hnot := hpassed y' hy
    simp [hp] at hnot
  · rcases List.mem_append.mp hmem with hmem | hmem
    · have hnone := hskipped x' hmem
      simp [hnone] at hy'
    · have hback := (List.pairwise_append.mp (List.pairwise_append.mp hl).2.1).2.1
      rcases List.mem_cons.mp hmem with rfl | hmem
      · exact .inl rfl
      · exact .inr (List.rel_of_pairwise_cons hback hmem)

theorem World.holder_of_find? {w : World κ} {id : Int32} {f : TemplateFamily}
    (h : (w.declared.find? fun f => f.familyId == id) = some f) :
    ∃ holder, w.familyOf holder = some f ∧ f.familyId = id ∧
      ∀ other g, w.familyOf other = some g → g.familyId = id →
        other = holder ∨ holder.index < other.index := by
  have hid : f.familyId = id := by simpa using List.find?_some h
  obtain ⟨holder, -, hholder, hfirst⟩ := exists_first_of_find? (w.pairwise_query _) h
  refine ⟨holder, hholder, hid, fun other g hother hg => ?_⟩
  have hquery : other ∈ w.query .templateFamily :=
    World.mem_query_of_has (Option.isSome_iff_exists.mpr ⟨g, hother⟩)
  exact hfirst other hquery g hother (by simpa using hg)

namespace TemplateRegistry

/-! ## Collecting -/

theorem gather_of_none {w : World κ} {holder : Entity} (h : w.familyOf holder = none)
    (r : TemplateRegistry) : (gather w r holder).value = r := by
  rw [World.familyOf] at h
  rw [gather, h]
  rfl

theorem family?_gather {w : World κ} {holder : Entity} {f : TemplateFamily}
    (h : w.familyOf holder = some f) (r : TemplateRegistry) (id : Int32) :
    (gather w r holder).value.family? id =
      (r.family? id).or (if f.familyId = id then some f.templates else none) := by
  rw [World.familyOf] at h
  simp only [gather, h]
  cases hold : r.families[f.familyId]? with
  | some templates =>
    have hcontains : r.families.contains f.familyId = true := by
      rw [Std.TreeMap.contains_eq_isSome_getElem?, hold]
      rfl
    rw [if_pos hcontains]
    by_cases hid : f.familyId = id
    · subst hid
      simp [family?, hold]
    · simp [hid]
  | none =>
    have hcontains : ¬ r.families.contains f.familyId = true := by
      rw [Std.TreeMap.contains_eq_isSome_getElem?, hold]
      simp
    rw [if_neg hcontains]
    by_cases hid : f.familyId = id
    · subst hid
      simp [family?, hold]
    · simp [family?, Std.TreeMap.getElem?_insert, hid]

/-- Of several families with one id the first counts. -/
theorem family?_collect (w : World κ) (id : Int32) :
    (collect w).value.family? id =
      (w.declared.find? fun f => f.familyId == id).map TemplateFamily.templates := by
  have h : ∀ (holders : List Entity) (r : TemplateRegistry),
      (holders.foldl (fun r holder => (gather w r holder).value) r).family? id =
        (r.family? id).or (((holders.filterMap w.familyOf).find? fun f => f.familyId == id).map
          TemplateFamily.templates) := by
    intro holders
    induction holders with
    | nil => simp
    | cons holder holders ih =>
      intro r
      rw [List.foldl_cons, ih]
      cases hfamily : w.familyOf holder with
      | none => rw [gather_of_none hfamily, List.filterMap_cons_none hfamily]
      | some f =>
        rw [family?_gather hfamily, List.filterMap_cons_some hfamily, List.find?_cons,
          Option.or_assoc]
        by_cases hid : f.familyId = id
        · simp [hid]
        · have hne : (f.familyId == id) = false := by simpa using hid
          rw [if_neg hid, hne, Option.none_or]
  rw [collect, Logged.value_foldlM, h]
  rfl

theorem mem_families_collect {w : World κ} {id : Int32} :
    id ∈ (collect w).value.families.toList.map Prod.fst ↔
      ∃ f ∈ w.declared, f.familyId = id := by
  have hfamily : id ∈ (collect w).value.families.toList.map Prod.fst ↔
      ((collect w).value.family? id).isSome = true := by
    simp [family?]
  rw [hfamily, family?_collect, Option.isSome_map, List.find?_isSome]
  simp

theorem pushed_gather (w : World κ) (r : TemplateRegistry) (holder : Entity) :
    (gather w r holder).value.pushed = r.pushed := by
  unfold gather
  split
  · rfl
  · split
    · rfl
    · rfl

theorem pushed_collect (w : World κ) : (collect w).value.pushed = false := by
  rw [collect, Logged.value_foldlM]
  refine List.foldlRecOn (motive := fun r : TemplateRegistry => r.pushed = false) _ _ rfl ?_
  intro r hr holder _
  rw [pushed_gather]
  exact hr

theorem ascending_families (r : TemplateRegistry) :
    (r.families.toList.map Prod.fst).Pairwise fun id id' => id < id' := by
  refine List.pairwise_map.mpr (Std.TreeMap.ordered_keys_toList.imp ?_)
  intro a b h
  exact Std.compare_eq_lt.mp h

/-! ## Announcing -/

/-- A family as it reaches the guest, and whether the guest takes it. -/
structure Announcement where
  familyId : Int32
  templates : List Entity
  taken : Bool
deriving DecidableEq

variable {γ ρ σ : Type} [Guest γ ρ σ]

def announcements (guest : γ) : List (Int32 × List Entity) → List Announcement
  | [] => []
  | (familyId, templates) :: rest =>
    match (Guest.register guest familyId templates).value with
    | (.error _, _) => [⟨familyId, templates, false⟩]
    | (.ok (), guest) => ⟨familyId, templates, true⟩ :: announcements guest rest

theorem heard_send {α : Type} (notes : γ → List α) (entry : Int32 → List Entity → α)
    (hnotes : ∀ guest familyId templates,
      notes (Guest.register guest familyId templates).value.2 =
        notes guest ++ [entry familyId templates])
    (guest : γ) (families : List (Int32 × List Entity)) :
    notes (send guest families).value.2 =
      notes guest ++ (announcements guest families).map fun a => entry a.familyId a.templates := by
  induction families generalizing guest with
  | nil => simp [send, announcements]
  | cons family rest ih =>
    obtain ⟨familyId, templates⟩ := family
    have hfirst := hnotes guest familyId templates
    rw [send, announcements, Logged.value_bind]
    generalize (Guest.register guest familyId templates).value = answer at hfirst ⊢
    obtain ⟨result, next⟩ := answer
    cases result with
    | error err => simpa using hfirst
    | ok done =>
      simp only [Logged.value_bind]
      rw [ih, hfirst, List.append_assoc]
      rfl

def taken (family : Int32 × List Entity) : Announcement := ⟨family.1, family.2, true⟩

theorem send_cases (guest : γ) (families : List (Int32 × List Entity)) :
    (send guest families).value.1 = .ok () ∧ announcements guest families = families.map taken ∨
      ∃ err before family after, families = before ++ family :: after ∧
        (send guest families).value.1 = .error err ∧
        announcements guest families = before.map taken ++ [⟨family.1, family.2, false⟩] := by
  induction families generalizing guest with
  | nil => exact .inl ⟨rfl, rfl⟩
  | cons family rest ih =>
    obtain ⟨familyId, templates⟩ := family
    rw [send, announcements, Logged.value_bind]
    generalize (Guest.register guest familyId templates).value = answer
    obtain ⟨result, next⟩ := answer
    cases result with
    | error err => exact .inr ⟨err, [], (familyId, templates), rest, rfl, rfl, rfl⟩
    | ok done =>
      simp only [Logged.value_bind]
      rcases ih next with ⟨hok, hall⟩ | ⟨err, before, family, after, rfl, herr, hsome⟩
      · exact .inl ⟨hok, by rw [hall]; rfl⟩
      · exact .inr ⟨err, (familyId, templates) :: before, family, after, rfl, herr,
          by rw [hsome]; rfl⟩

theorem send_of_obliging
    (hregister : ∀ (guest : γ) familyId templates,
      (Guest.register guest familyId templates).value.1 = .ok ())
    (guest : γ) (families : List (Int32 × List Entity)) :
    (send guest families).value.1 = .ok () ∧
      announcements guest families = families.map taken := by
  have hok : (send guest families).value.1 = .ok () := by
    induction families generalizing guest with
    | nil => rfl
    | cons family rest ih =>
      obtain ⟨familyId, templates⟩ := family
      have hfirst := hregister guest familyId templates
      rw [send, Logged.value_bind]
      generalize (Guest.register guest familyId templates).value = answer at hfirst ⊢
      obtain ⟨result, next⟩ := answer
      obtain rfl : result = .ok () := hfirst
      exact ih next
  rcases send_cases guest families with hcompleted | ⟨err, -, -, -, -, herr, -⟩
  · exact hcompleted
  · rw [hok] at herr
    simp at herr

theorem pushAll_of_unpushed {r : TemplateRegistry} (h : r.pushed = false) (guest : γ) :
    (r.pushAll guest).value =
      let sent := (send guest r.families.toList).value
      (sent.1, { r with pushed := sent.1.isOk }, sent.2) := by
  rw [pushAll, if_neg (by simp [h])]
  simp only [Logged.value_bind]
  generalize (send guest r.families.toList).value = sent
  obtain ⟨result, next⟩ := sent
  cases result with
  | error err => exact congrArg (fun pushed => (_, { r with pushed }, _)) h
  | ok done => rfl

/-! ## Histories of calls -/

/-- A call that is to announce families, what it announces of them, and how it ends. -/
structure Push where
  families : List (Int32 × List Entity)
  announced : List Announcement
  result : Except BridgeError Unit

structure Push.Completed (p : Push) : Prop where
  ascending : (p.families.map Prod.fst).Pairwise fun id id' => id < id'
  announced : p.announced = p.families.map taken
  result : p.result = .ok ()

structure Push.Interrupted (p : Push) : Prop where
  ascending : (p.families.map Prod.fst).Pairwise fun id id' => id < id'
  announced : ∃ before family after, p.families = before ++ family :: after ∧
    p.announced = before.map taken ++ [⟨family.1, family.2, false⟩]
  result : ∃ err, p.result = .error err

structure Push.Silent (p : Push) : Prop where
  announced : p.announced = []
  result : p.result = .ok ()

/-- The histories of calls on a registry, which has been pushed before or not: calls that are
interrupted, each of which starts afresh, at most one that completes, and silence. -/
inductive Retries : Bool → List Push → Prop
  | nil (pushed : Bool) : Retries pushed []
  | interrupted {p : Push} {later : List Push} (h : p.Interrupted) (rest : Retries false later) :
    Retries false (p :: later)
  | completed {p : Push} {later : List Push} (h : p.Completed) (rest : Retries true later) :
    Retries false (p :: later)
  | silent {p : Push} {later : List Push} (h : p.Silent) (rest : Retries true later) :
    Retries true (p :: later)

/-- No family that the guest took in one call is announced in a later one. -/
def AnnouncedOnce (history : List Push) : Prop :=
  history.Pairwise fun p q => ∀ a ∈ p.announced, a.taken = true →
    ∀ a' ∈ q.announced, a'.familyId ≠ a.familyId

instance (history : List Push) : Decidable (AnnouncedOnce history) :=
  inferInstanceAs (Decidable (history.Pairwise _))

theorem Retries.announced_of_pushed {history : List Push} (h : Retries true history) :
    ∀ p ∈ history, p.announced = [] := by
  generalize hpushed : true = pushed at h
  induction h with
  | nil => simp
  | interrupted _ _ _ => simp at hpushed
  | completed _ _ _ => simp at hpushed
  | silent h _ ih => exact List.forall_mem_cons.mpr ⟨h.announced, ih rfl⟩

/-- No call but the last was interrupted after the guest had taken a family. -/
def LosesNothing (history : List Push) : Prop :=
  ∀ p ∈ history.dropLast, p.Interrupted → ∀ a ∈ p.announced, a.taken = false

theorem losesNothing_cons {p : Push} {later : List Push} :
    LosesNothing (p :: later) ↔
      (later ≠ [] → p.Interrupted → ∀ a ∈ p.announced, a.taken = false) ∧ LosesNothing later := by
  cases later with
  | nil => simp [LosesNothing]
  | cons q later => simp [LosesNothing]

/-- A call that ends well has nothing to lose. -/
theorem losesNothing_cons_of_ok {p : Push} (h : p.result = .ok ()) {later : List Push} :
    LosesNothing (p :: later) ↔ LosesNothing later := by
  refine losesNothing_cons.trans (and_iff_right fun _ hinterrupted => ?_)
  obtain ⟨err, herr⟩ := hinterrupted.result
  simp [h] at herr

theorem Retries.announcedOnce {pushed : Bool} {history : List Push} (h : Retries pushed history)
    (hloses : LosesNothing history) : AnnouncedOnce history := by
  induction h with
  | nil => exact .nil
  | interrupted hp _ ih =>
    obtain ⟨hnone, hlater⟩ := losesNothing_cons.mp hloses
    refine .cons (fun q hq a ha htaken => ?_) (ih hlater)
    rw [hnone (List.ne_nil_of_mem hq) hp a ha] at htaken
    simp at htaken
  | completed hp rest ih =>
    refine .cons (fun q hq a _ _ a' ha' => ?_) (ih ((losesNothing_cons_of_ok hp.result).mp hloses))
    rw [rest.announced_of_pushed q hq] at ha'
    simp at ha'
  | silent hp _ ih =>
    refine .cons (fun q _ a ha => ?_) (ih ((losesNothing_cons_of_ok hp.result).mp hloses))
    rw [hp.announced] at ha
    simp at ha

section

variable {p : Push} {family : Int32 × List Entity} {rest : List (Int32 × List Entity)}

theorem Push.Interrupted.first_announced (h : p.Interrupted)
    (hfamilies : p.families = family :: rest) : ∃ a ∈ p.announced, a.familyId = family.1 := by
  obtain ⟨before, refused, after, hsplit, hannounced⟩ := h.announced
  rw [hannounced]
  rw [hfamilies] at hsplit
  cases before with
  | nil =>
    obtain ⟨rfl, -⟩ := List.cons.inj hsplit
    exact ⟨_, List.mem_cons_self, rfl⟩
  | cons first before =>
    obtain ⟨rfl, -⟩ := List.cons.inj hsplit
    exact ⟨taken family, List.mem_cons_self, rfl⟩

/-- If the guest took any family before it interrupted a call, it took the first. -/
theorem Push.Interrupted.first_taken (h : p.Interrupted) {a : Announcement} (ha : a ∈ p.announced)
    (htaken : a.taken = true) :
    ∃ family rest, p.families = family :: rest ∧ taken family ∈ p.announced := by
  obtain ⟨before, refused, after, hsplit, hannounced⟩ := h.announced
  cases before with
  | nil =>
    rw [hannounced] at ha
    obtain rfl := List.mem_singleton.mp ha
    simp at htaken
  | cons family before =>
    exact ⟨family, before ++ refused :: after, hsplit, hannounced ▸ List.mem_cons_self⟩

theorem Retries.first_announced {later : List Push} (h : Retries false (p :: later))
    (hfamilies : p.families = family :: rest) : ∃ a ∈ p.announced, a.familyId = family.1 := by
  cases h with
  | interrupted hp _ => exact hp.first_announced hfamilies
  | completed hp _ =>
    rw [hp.announced, hfamilies]
    exact ⟨taken family, List.mem_cons_self, rfl⟩

end

/-- Calls with the same families announce what was taken again if any of them loses it. -/
theorem Retries.losesNothing {pushed : Bool} {history : List Push} (h : Retries pushed history)
    {families : List (Int32 × List Entity)} (hsame : ∀ p ∈ history, p.families = families)
    (honce : AnnouncedOnce history) : LosesNothing history := by
  induction h with
  | nil pushed => simp [LosesNothing]
  | @interrupted p later hp rest ih =>
    obtain ⟨hfamilies, hlater⟩ := List.forall_mem_cons.mp hsame
    obtain ⟨hapart, honce⟩ := List.pairwise_cons.mp honce
    refine losesNothing_cons.mpr ⟨fun hne _ a ha => ?_, ih hlater honce⟩
    rw [← Bool.not_eq_true]
    intro htaken
    obtain ⟨family, others, hsplit, hfirst⟩ := hp.first_taken ha htaken
    obtain ⟨q, later, rfl⟩ := List.exists_cons_of_ne_nil hne
    -- the next call begins with the family that this one began with
    have hnext : q.families = family :: others :=
      (hlater q List.mem_cons_self).trans (hfamilies.symm.trans hsplit)
    obtain ⟨a', ha', hid⟩ := rest.first_announced hnext
    exact hapart q List.mem_cons_self (taken family) hfirst rfl a' ha' hid
  | completed hp _ ih =>
    exact (losesNothing_cons_of_ok hp.result).mpr
      (ih (List.forall_mem_cons.mp hsame).2 (List.pairwise_cons.mp honce).2)
  | silent hp _ ih =>
    exact (losesNothing_cons_of_ok hp.result).mpr
      (ih (List.forall_mem_cons.mp hsame).2 (List.pairwise_cons.mp honce).2)

def push (r : TemplateRegistry) (guest : γ) : Push where
  families := r.families.toList
  announced := if r.pushed then [] else announcements guest r.families.toList
  result := (r.pushAll guest).value.1

theorem push_of_pushed {r : TemplateRegistry} (h : r.pushed = true) (guest : γ) :
    (r.push guest).Silent ∧ (r.pushAll guest).value = (.ok (), r, guest) := by
  have hpush : (r.pushAll guest).value = (.ok (), r, guest) := by
    rw [pushAll, if_pos h]
    rfl
  exact ⟨⟨by rw [push, if_pos h], by rw [push, hpush]⟩, hpush⟩

theorem push_cases {r : TemplateRegistry} (h : r.pushed = false) (guest : γ) :
    (r.push guest).Completed ∧ (r.pushAll guest).value.2.1 = { r with pushed := true } ∨
      (r.push guest).Interrupted ∧ (r.pushAll guest).value.2.1 = r := by
  have hannounced : (r.push guest).announced = announcements guest r.families.toList :=
    if_neg (by simp [h])
  have hresult : (r.push guest).result = (send guest r.families.toList).value.1 := by
    rw [push, pushAll_of_unpushed h]
  have hnext : (r.pushAll guest).value.2.1 =
      { r with pushed := (send guest r.families.toList).value.1.isOk } := by
    rw [pushAll_of_unpushed h]
  rcases send_cases guest r.families.toList with ⟨hok, hall⟩ | ⟨err, before, family, after, hsplit,
    herr, hsome⟩
  · refine .inl ⟨⟨ascending_families r, hannounced.trans hall, hresult.trans hok⟩, ?_⟩
    rw [hnext, hok]
    rfl
  · refine .inr ⟨⟨ascending_families r, ⟨before, family, after, hsplit, hannounced.trans hsome⟩,
      err, hresult.trans herr⟩, ?_⟩
    rw [hnext, herr]
    exact congrArg (fun pushed => { r with pushed }) h.symm

def pushes (r : TemplateRegistry) (guest : γ) : Nat → List Push
  | 0 => []
  | n + 1 =>
    let next := (r.pushAll guest).value.2
    r.push guest :: next.1.pushes next.2 n

theorem retries_pushes (r : TemplateRegistry) (guest : γ) (n : Nat) :
    Retries r.pushed (r.pushes guest n) := by
  induction n generalizing r guest with
  | zero => exact .nil _
  | succ n ih =>
    have hrest := ih (r.pushAll guest).value.2.1 (r.pushAll guest).value.2.2
    rw [pushes]
    cases h : r.pushed with
    | true =>
      obtain ⟨hsilent, hsame⟩ := push_of_pushed h guest
      have hpushed : (r.pushAll guest).value.2.1.pushed = true := by rw [hsame]; exact h
      exact .silent hsilent (hpushed ▸ hrest)
    | false =>
      rcases push_cases h guest with ⟨hcompleted, hnext⟩ | ⟨hinterrupted, hnext⟩
      · have hpushed : (r.pushAll guest).value.2.1.pushed = true := by rw [hnext]
        exact .completed hcompleted (hpushed ▸ hrest)
      · have hpushed : (r.pushAll guest).value.2.1.pushed = false := by rw [hnext]; exact h
        exact .interrupted hinterrupted (hpushed ▸ hrest)

theorem families_pushAll (r : TemplateRegistry) (guest : γ) :
    (r.pushAll guest).value.2.1.families = r.families := by
  cases h : r.pushed with
  | true => rw [(push_of_pushed h guest).2]
  | false =>
    rcases push_cases h guest with ⟨-, hnext⟩ | ⟨-, hnext⟩
    · rw [hnext]
    · rw [hnext]

theorem families_pushes (r : TemplateRegistry) (guest : γ) (n : Nat) :
    ∀ p ∈ r.pushes guest n, p.families = r.families.toList := by
  induction n generalizing r guest with
  | zero => simp [pushes]
  | succ n ih =>
    have hrest := ih (r.pushAll guest).value.2.1 (r.pushAll guest).value.2.2
    rw [families_pushAll] at hrest
    exact List.forall_mem_cons.mpr ⟨rfl, hrest⟩

theorem announcedOnce_pushes_iff (r : TemplateRegistry) (guest : γ) (n : Nat) :
    AnnouncedOnce (r.pushes guest n) ↔ LosesNothing (r.pushes guest n) :=
  ⟨(r.retries_pushes guest n).losesNothing (r.families_pushes guest n),
    (r.retries_pushes guest n).announcedOnce⟩

end TemplateRegistry

end SceneBridge
