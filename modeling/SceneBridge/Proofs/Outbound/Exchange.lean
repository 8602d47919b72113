import SceneBridge.Outbound
import SceneBridge.Proofs.Correspondence

/-!
# The exchanges of a step

An exchange is one request as it reaches the guest, with the table and the guest's state at that
moment. `Outbound.exchanges` lists those of a step. `Sweeps` and `Settles` say once what a sweep and
a whole step can do, candidate by candidate; what is proved of steps is proved by induction on them.
-/

namespace SceneBridge.Outbound

open Wire

/-- A request on its way, together with both sides as they are when it is sent. -/
structure Exchange (γ ρ σ : Type) extends Link γ where
  request : SpawnRequest ρ σ

namespace Exchange

variable {γ ρ σ : Type} [Guest γ ρ σ]

def answer (x : Exchange γ ρ σ) : GuestId := (Guest.spawn x.guest x.request).value.1

def guestAfter (x : Exchange γ ρ σ) : γ := (Guest.spawn x.guest x.request).value.2

def pair (x : Exchange γ ρ σ) : Entity × GuestId := (x.request.host, x.answer)

/-- The guest answers with a proper id that the table does not hold yet. -/
def acknowledged (x : Exchange γ ρ σ) : Bool :=
  x.answer.isValid && !x.table.containsGuest x.answer

def fault (x : Exchange γ ρ σ) : BridgeError :=
  if x.answer.isValid then .duplicateMapping x.request.host x.answer
  else .transportFault s!"guest refused to spawn {x.request.host.describe}"

def next (x : Exchange γ ρ σ) : Link γ :=
  match x.table.insert x.request.host x.answer with
  | .ok table => { table, guest := x.guestAfter }
  | .error _ => { table := x.table, guest := x.guestAfter }

def taken (x : Exchange γ ρ σ) : Bool := (x.table.insert x.request.host x.answer).isOk

def gain (x : Exchange γ ρ σ) : List (Entity × GuestId) := if x.taken then [x.pair] else []

theorem next_of_ok {x : Exchange γ ρ σ} {table : Correspondence}
    (h : x.table.insert x.request.host x.answer = .ok table) :
    x.next = { table, guest := x.guestAfter } := by
  rw [next, h]

theorem next_of_error {x : Exchange γ ρ σ} {err : BridgeError}
    (h : x.table.insert x.request.host x.answer = .error err) :
    x.next = { table := x.table, guest := x.guestAfter } := by
  rw [next, h]

theorem taken_iff {x : Exchange γ ρ σ} :
    x.taken = true ↔ x.acknowledged = true ∧ x.table.containsHost x.request.host = false := by
  constructor
  · intro h
    cases hins : x.table.insert x.request.host x.answer with
    | ok table =>
      obtain ⟨⟨hvalid, hhost, hguest⟩, -⟩ := Correspondence.insert_eq_ok_iff.mp hins
      exact ⟨by simp [acknowledged, hvalid, hguest], hhost⟩
    | error err => simp [taken, hins, Except.isOk, Except.toBool] at h
  · rintro ⟨hack, hhost⟩
    rw [acknowledged, Bool.and_eq_true, Bool.not_eq_true'] at hack
    have hins := Correspondence.insert_eq_ok_iff.mpr ⟨⟨hack.1, hhost, hack.2⟩, rfl⟩
    rw [taken, hins]
    rfl

theorem mem_gain {x : Exchange γ ρ σ} {pair : Entity × GuestId} :
    pair ∈ x.gain ↔ x.taken = true ∧ pair = x.pair := by
  unfold gain
  split
  · next h => simp [h]
  · next h => simp [h]

theorem grown_next (x : Exchange γ ρ σ) : x.table.Grown x.next.table x.gain := by
  cases hins : x.table.insert x.request.host x.answer with
  | ok table =>
    have htaken : x.taken = true := by rw [taken, hins]; rfl
    rw [next_of_ok hins, gain, if_pos htaken]
    exact Correspondence.grown_insert hins
  | error err =>
    have htaken : x.taken = false := by rw [taken, hins]; rfl
    rw [next_of_error hins, gain, htaken]
    exact .refl _

end Exchange

variable {κ : Type} [ProjectKind κ]
variable {U V γ : Type} [ComponentSet U] [ComponentSet V] [Guest γ (Raw U) (Raw V)]

/-- The exchanges of one sweep. One whose pair cannot be recorded is the last. -/
def sweepExchanges (w : World κ) (ingestion : Ingestion κ U V) (link : Link γ) :
    List Waiting → List (Exchange γ (Raw U) (Raw V))
  | [] => []
  | p :: rest =>
    match request w ingestion link.table p.entity with
    | .error _ => sweepExchanges w ingestion link rest
    | .ok request =>
      let x : Exchange γ (Raw U) (Raw V) := ⟨link, request⟩
      match link.table.insert p.entity x.answer with
      | .ok _ => x :: sweepExchanges w ingestion x.next rest
      | .error _ => [x]

/-- The exchanges of sweeps until nothing waits, a sweep accepts nothing, or a request fails. -/
def settleExchanges (w : World κ) (ingestion : Ingestion κ U V) :
    Nat → Link γ → List Waiting → List (Exchange γ (Raw U) (Raw V))
  | 0, _, _ => []
  | _ + 1, _, [] => []
  | fuel + 1, link, p :: queue =>
    let first := (sweep w ingestion link (p :: queue)).value
    sweepExchanges w ingestion link (p :: queue) ++
      if first.fault.isSome || first.spawned.isEmpty then []
      else settleExchanges w ingestion fuel first.link first.waiting

def exchanges (o : Outbound) (w : World κ) (ingestion : Ingestion κ U V) (link : Link γ)
    (tick : Nat) : List (Exchange γ (Raw U) (Raw V)) :=
  let queue := (o.queue w link.table tick).value
  settleExchanges w ingestion queue.length link queue

/-- Exchanges that follow each other: each starts where the one before it left both sides. -/
inductive Conversation : Link γ → List (Exchange γ (Raw U) (Raw V)) → Link γ → Prop
  | nil (link : Link γ) : Conversation link [] link
  | cons {x : Exchange γ (Raw U) (Raw V)} {xs : List (Exchange γ (Raw U) (Raw V))} {link : Link γ}
      (rest : Conversation x.next xs link) : Conversation x.toLink (x :: xs) link

theorem Conversation.append {first second third : Link γ}
    {xs ys : List (Exchange γ (Raw U) (Raw V))} (h : Conversation first xs second)
    (h' : Conversation second ys third) : Conversation first (xs ++ ys) third := by
  induction h with
  | nil => exact h'
  | cons _ ih => exact .cons (ih h')

/-! ## Requests -/

variable {w : World κ} {ingestion : Ingestion κ U V}

/-- A snapshot with all but the parent added to it. -/
def complete (w : World κ) (e : Entity) (s : Snapshot InbuiltComponent) :
    Snapshot InbuiltComponent :=
  let s := s.insert (.entity e.toSigned)
  let s :=
    match w.get e .guid with
    | some guid => s.insert (.guid guid.hash)
    | none => s
  s.insert (.transform ((w.get e .localTransform).getD LocalTransform.identity).toMatrix)

theorem snapshot_of_no_parent {table : Correspondence} {e : Entity}
    (h : w.get e .parent = none) : snapshot w table e = .ok (complete w e .empty) := by
  rw [snapshot, h]
  rfl

theorem snapshot_of_known_parent {table : Correspondence} {e parent : Entity} {id : GuestId}
    (h : w.get e .parent = some parent) (hid : table.guest? parent = some id) :
    snapshot w table e = .ok (complete w e (Snapshot.empty.insert (.parent id))) := by
  simp only [snapshot, h, hid]
  rfl

theorem snapshot_of_unknown_parent {table : Correspondence} {e parent : Entity}
    (h : w.get e .parent = some parent) (hid : table.guest? parent = none) :
    snapshot w table e = .error parent := by
  simp only [snapshot, h, hid]
  rfl

theorem snapshot_eq_error_iff {table : Correspondence} {e parent : Entity} :
    snapshot w table e = .error parent ↔
      w.get e .parent = some parent ∧ table.guest? parent = none := by
  refine ⟨fun h => ?_, fun h => snapshot_of_unknown_parent h.1 h.2⟩
  cases hparent : w.get e .parent with
  | none => simp [snapshot_of_no_parent hparent] at h
  | some q =>
    cases hid : table.guest? q with
    | some id => simp [snapshot_of_known_parent hparent hid] at h
    | none =>
      rw [snapshot_of_unknown_parent hparent hid] at h
      obtain rfl := Except.error.inj h
      exact ⟨rfl, hid⟩

theorem request_of_error {table : Correspondence} {e parent : Entity}
    (h : snapshot w table e = .error parent) :
    request w ingestion table e = .error parent := by
  rw [request, h]
  rfl

theorem request_of_ok {table : Correspondence} {e : Entity} {components : Snapshot InbuiltComponent}
    (h : snapshot w table e = .ok components) :
    request w ingestion table e =
      .ok { host := e, components := encode components,
            custom := (ingestion.records w e).1, customState := (ingestion.records w e).2 } := by
  rw [request, h]
  rfl

theorem request_eq_error_iff {table : Correspondence} {e parent : Entity} :
    request w ingestion table e = .error parent ↔
      w.get e .parent = some parent ∧ table.guest? parent = none := by
  rw [← snapshot_eq_error_iff]
  refine ⟨fun h => ?_, request_of_error⟩
  cases hs : snapshot w table e with
  | error q =>
    rw [request_of_error hs] at h
    rw [Except.error.inj h]
  | ok components => simp [request_of_ok hs] at h

theorem request_eq_ok {table : Correspondence} {e : Entity} {r : SpawnRequest (Raw U) (Raw V)}
    (h : request w ingestion table e = .ok r) :
    ∃ components, snapshot w table e = .ok components ∧
      r = { host := e, components := encode components,
            custom := (ingestion.records w e).1, customState := (ingestion.records w e).2 } := by
  cases hs : snapshot w table e with
  | error q => simp [request_of_error hs] at h
  | ok components =>
    rw [request_of_ok hs] at h
    exact ⟨components, rfl, (Except.ok.inj h).symm⟩

theorem host_of_request {table : Correspondence} {e : Entity} {r : SpawnRequest (Raw U) (Raw V)}
    (h : request w ingestion table e = .ok r) : r.host = e := by
  obtain ⟨components, -, rfl⟩ := request_eq_ok h
  rfl

theorem parent_of_request {table : Correspondence} {e : Entity}
    {r : SpawnRequest (Raw U) (Raw V)} (h : request w ingestion table e = .ok r) :
    w.get e .parent = none ∨
      ∃ parent, w.get e .parent = some parent ∧ table.containsHost parent = true := by
  cases hparent : w.get e .parent with
  | none => exact .inl rfl
  | some parent =>
    cases hid : table.guest? parent with
    | some id => exact .inr ⟨parent, rfl, Correspondence.containsHost_iff.mpr ⟨id, hid⟩⟩
    | none =>
      rw [request_eq_error_iff.mpr ⟨hparent, hid⟩] at h
      simp at h

theorem value_attempt_of_error {link : Link γ} {e parent : Entity}
    (h : request w ingestion link.table e = .error parent) :
    (attempt w ingestion link e).value = (.deferred parent, link) := by
  rw [attempt, h]
  rfl

theorem value_attempt_of_ok {link : Link γ} {e : Entity} {r : SpawnRequest (Raw U) (Raw V)}
    (h : request w ingestion link.table e = .ok r) :
    let x : Exchange γ (Raw U) (Raw V) := ⟨link, r⟩
    (attempt w ingestion link e).value =
      match link.table.insert e x.answer with
      | .ok _ => (.accepted x.answer, x.next)
      | .error _ => (.failed x.fault, x.next) := by
  intro x
  obtain rfl := host_of_request h
  rw [attempt, h]
  have hanswer : (Guest.spawn link.guest r).value.1 = x.answer := rfl
  simp only [Logged.value_bind, hanswer]
  by_cases hvalid : x.answer.isValid = true
  · simp only [hvalid, Bool.not_true, Bool.false_eq_true, if_false]
    cases hins : link.table.insert r.host x.answer with
    | ok table =>
      rw [Exchange.next_of_ok (x := x) hins]
      rfl
    | error err =>
      rw [Exchange.next_of_error (x := x) hins, Exchange.fault, if_pos hvalid,
        Correspondence.insert_eq_error hins]
      rfl
  · -- the reserved id is refused by the table too
    cases hins : link.table.insert r.host x.answer with
    | ok table => exact absurd (Correspondence.insert_eq_ok_iff.mp hins).1.1 hvalid
    | error err =>
      rw [Exchange.next_of_error (x := x) hins, Exchange.fault, if_neg hvalid]
      simp only [hvalid, Bool.not_false, if_true]
      rfl

end SceneBridge.Outbound
