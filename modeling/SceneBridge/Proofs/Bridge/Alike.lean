import SceneBridge.Proofs.Bridge.Turn

/-!
# Bridges to guests that are alike

Two guests, of whatever kinds, are alike under a relation of their states if related states answer
alike, send the same batches in their turns and stay related. A bridge cannot tell them apart: table,
queue and world are the same step by step (`Bridge.Alike.tick`), and so are the results as long as
the turns end alike (`Bridge.Alike.result_tick`).
-/

namespace SceneBridge

open Wire

variable {γ δ : Type} {R : γ → δ → Prop}

def Paired {α : Type} (R : γ → δ → Prop) (x : α × γ) (y : α × δ) : Prop :=
  x.1 = y.1 ∧ R x.2 y.2

structure Guest.Alike {ρ σ : Type} [Guest γ ρ σ] [Guest δ ρ σ] (R : γ → δ → Prop) : Prop where
  register : ∀ {g d}, R g d → ∀ familyId templates,
    Paired R (Guest.register g familyId templates).value (Guest.register d familyId templates).value
  spawn : ∀ {g d}, R g d → ∀ request,
    Paired R (Guest.spawn g request).value (Guest.spawn d request).value
  batches : ∀ {g d}, R g d → (Guest.turn g).batches = (Guest.turn d).batches
  guest : ∀ {g d}, R g d → R (Guest.turn g).guest (Guest.turn d).guest

variable {κ U V : Type} [ProjectKind κ] [ComponentSet U] [ComponentSet V]
variable [Guest γ (Raw U) (Raw V)] [Guest δ (Raw U) (Raw V)]

/-! ## Sharing -/

namespace Outbound

def Link.Alike (R : γ → δ → Prop) (link : Link γ) (link' : Link δ) : Prop :=
  link.table = link'.table ∧ R link.guest link'.guest

structure Swept.Alike (R : γ → δ → Prop) (s : Swept γ) (s' : Swept δ) : Prop where
  link : s.link.Alike R s'.link
  spawned : s.spawned = s'.spawned
  waiting : s.waiting = s'.waiting
  fault : s.fault = s'.fault

variable (w : World κ) (ingestion : Ingestion κ U V) {link : Link γ} {link' : Link δ}

theorem Link.Alike.attempt (hR : Guest.Alike R) (h : link.Alike R link') (e : Entity) :
    Paired (Link.Alike R) (attempt w ingestion link e).value
      (attempt w ingestion link' e).value := by
  obtain ⟨table, guest⟩ := link
  obtain ⟨table', guest'⟩ := link'
  obtain ⟨rfl, hguest⟩ : table = table' ∧ R guest guest' := h
  cases hask : request w ingestion table e with
  | error parent =>
    simp only [Outbound.attempt, hask]
    exact ⟨rfl, rfl, hguest⟩
  | ok request =>
    obtain ⟨hid, hafter⟩ := hR.spawn hguest request
    simp only [Outbound.attempt, hask, Logged.value_bind, hid]
    cases (Guest.spawn guest' request).value.1.isValid with
    | false => exact ⟨rfl, rfl, hafter⟩
    | true =>
      cases table.insert e (Guest.spawn guest' request).value.1 with
      | error err => exact ⟨rfl, rfl, hafter⟩
      | ok table => exact ⟨rfl, rfl, hafter⟩

theorem Link.Alike.sweep (hR : Guest.Alike R) (h : link.Alike R link') (queue : List Waiting) :
    (sweep w ingestion link queue).value.Alike R (sweep w ingestion link' queue).value := by
  induction queue generalizing link link' with
  | nil => exact ⟨h, rfl, rfl, rfl⟩
  | cons p rest ih =>
    have hattempt := h.attempt w ingestion hR p.entity
    rw [Outbound.sweep, Outbound.sweep, Logged.value_bind, Logged.value_bind]
    generalize (Outbound.attempt w ingestion link p.entity).value = x at hattempt ⊢
    generalize (Outbound.attempt w ingestion link' p.entity).value = y at hattempt ⊢
    obtain ⟨a, next⟩ := x
    obtain ⟨a', next'⟩ := y
    obtain ⟨rfl, hnext⟩ : a = a' ∧ next.Alike R next' := hattempt
    -- one outcome on both sides, so both sweeps go on with the rest or both end
    cases a with
    | accepted id =>
      obtain ⟨hlink, hspawned, hwaiting, hfault⟩ := ih hnext
      exact ⟨hlink, congrArg ((p.entity, id) :: ·) hspawned, hwaiting, hfault⟩
    | deferred parent =>
      obtain ⟨hlink, hspawned, hwaiting, hfault⟩ := ih hnext
      exact ⟨hlink, hspawned, congrArg (p :: ·) hwaiting, hfault⟩
    | failed err => exact ⟨hnext, rfl, rfl, rfl⟩

theorem Link.Alike.settle (hR : Guest.Alike R) (h : link.Alike R link') (fuel : Nat)
    (queue : List Waiting) :
    Paired (Swept.Alike R) (settle w ingestion fuel link queue).value
      (settle w ingestion fuel link' queue).value := by
  induction fuel generalizing link link' queue with
  | zero => exact ⟨rfl, h, rfl, rfl, rfl⟩
  | succ fuel ih =>
    cases queue with
    | nil => exact ⟨rfl, h, rfl, rfl, rfl⟩
    | cons p rest =>
      have hfirst := h.sweep w ingestion hR (p :: rest)
      -- whether there is another sweep depends on what the first ones have in common
      simp only [Outbound.settle, Logged.value_bind, ← hfirst.fault, ← hfirst.spawned]
      split
      · exact ⟨rfl, hfirst⟩
      · rw [← hfirst.waiting]
        obtain ⟨hpasses, hlink, hspawned, hwaiting, hfault⟩ := ih hfirst.link _
        exact ⟨congrArg (· + 1) hpasses, hlink, congrArg (_ ++ ·) hspawned, hwaiting, hfault⟩

theorem Link.Alike.resolve (hR : Guest.Alike R) (h : link.Alike R link') (o : Outbound)
    (tick : Nat) :
    Paired (Paired (Link.Alike R)) (o.resolve w ingestion link tick).value
      (o.resolve w ingestion link' tick).value := by
  simp only [Outbound.resolve, Logged.value_bind, ← h.1]
  obtain ⟨hpasses, hlink, hspawned, hwaiting, hfault⟩ := h.settle w ingestion hR
    (o.queue w link.table tick).value.length (o.queue w link.table tick).value
  rw [← hpasses, ← hspawned, ← hwaiting, ← hfault]
  split
  · exact ⟨rfl, rfl, hlink⟩
  · split
    · exact ⟨rfl, rfl, hlink⟩
    · exact ⟨rfl, rfl, hlink⟩

end Outbound

/-! ## Starting -/

theorem TemplateRegistry.alike_send (hR : Guest.Alike R) {g : γ} {d : δ} (h : R g d)
    (families : List (Int32 × List Entity)) :
    Paired R (send g families).value (send d families).value := by
  induction families generalizing g d with
  | nil => exact ⟨rfl, h⟩
  | cons family rest ih =>
    have hregister := hR.register h family.1 family.2
    rw [send, send, Logged.value_bind, Logged.value_bind]
    generalize (Guest.register g family.1 family.2).value = x at hregister ⊢
    generalize (Guest.register d family.1 family.2).value = y at hregister ⊢
    obtain ⟨result, g'⟩ := x
    obtain ⟨result', d'⟩ := y
    obtain ⟨rfl, hnext⟩ : result = result' ∧ R g' d' := hregister
    cases result with
    | error err => exact ⟨rfl, hnext⟩
    | ok done => exact ih hnext

theorem TemplateRegistry.alike_pushAll (hR : Guest.Alike R) {g : γ} {d : δ} (h : R g d)
    (r : TemplateRegistry) :
    Paired (Paired R) (r.pushAll g).value (r.pushAll d).value := by
  unfold pushAll
  split
  · exact ⟨rfl, rfl, h⟩
  · have hsend := alike_send hR h r.families.toList
    simp only [Logged.value_bind]
    generalize (send g r.families.toList).value = x at hsend ⊢
    generalize (send d r.families.toList).value = y at hsend ⊢
    obtain ⟨result, g'⟩ := x
    obtain ⟨result', d'⟩ := y
    obtain ⟨rfl, hnext⟩ : result = result' ∧ R g' d' := hsend
    cases result with
    | error err => exact ⟨rfl, rfl, hnext⟩
    | ok done => exact ⟨rfl, rfl, hnext⟩

/-! ## Ticking -/

namespace Bridge

/-- The same in all but the guest, and related guests. -/
structure Alike (R : γ → δ → Prop) (b : Bridge γ κ U V) (c : Bridge δ κ U V) : Prop where
  table : b.table = c.table
  outbound : b.outbound = c.outbound
  registry : b.registry = c.registry
  ingestion : b.ingestion = c.ingestion
  tickCount : b.tickCount = c.tickCount
  guest : R b.guest c.guest

variable {b : Bridge γ κ U V} {c : Bridge δ κ U V}

theorem Alike.start (hR : Guest.Alike R) (h : b.Alike R c) (w : World κ) :
    Paired (Alike R) (b.start w).value (c.start w).value := by
  obtain ⟨htable, houtbound, hregistry, hingestion, htick, hguest⟩ := h
  unfold Bridge.start
  rw [← hregistry]
  split
  · exact ⟨rfl, htable, houtbound, hregistry, hingestion, htick, hguest⟩
  · have hpush := TemplateRegistry.alike_pushAll hR hguest (TemplateRegistry.collect w).value
    simp only [Logged.value_bind]
    generalize ((TemplateRegistry.collect w).value.pushAll b.guest).value = x at hpush ⊢
    generalize ((TemplateRegistry.collect w).value.pushAll c.guest).value = y at hpush ⊢
    obtain ⟨result, registry, g⟩ := x
    obtain ⟨result', registry', d⟩ := y
    obtain ⟨rfl, rfl, hnext⟩ : result = result' ∧ registry = registry' ∧ R g d := hpush
    cases result with
    | error err => exact ⟨rfl, htable, houtbound, rfl, hingestion, htick, hnext⟩
    | ok done => exact ⟨rfl, htable, houtbound, rfl, hingestion, htick, hnext⟩

theorem Alike.share (hR : Guest.Alike R) (h : b.Alike R c) (w : World κ) :
    Paired (Alike R) (b.share w).value (c.share w).value := by
  obtain ⟨htable, houtbound, hregistry, hingestion, htick, hguest⟩ := h
  have hlink : (b.link w).Alike R (c.link w) := by
    rw [link, link, htable]
    exact ⟨rfl, hguest⟩
  have hstep := hlink.resolve w b.ingestion hR b.outbound (b.tickCount + 1)
  rw [value_share, value_share, ← htable, ← houtbound, ← hingestion, ← htick]
  obtain ⟨hresult, hnext, hlink'⟩ := hstep
  refine ⟨?_, hlink'.1, hnext, hregistry, rfl, rfl, hlink'.2⟩
  exact congrArg (Prod.mk _) hresult

theorem Alike.guestTurn (hR : Guest.Alike R) (h : b.Alike R c) (w : World κ) :
    (b.guestTurn w).value.1.2 = (c.guestTurn w).value.1.2 ∧
      (b.guestTurn w).value.2.1.Alike R (c.guestTurn w).value.2.1 ∧
      (b.guestTurn w).value.2.2 = (c.guestTurn w).value.2.2 := by
  obtain ⟨htable, houtbound, hregistry, hingestion, htick, hguest⟩ := h
  have hbatches := hR.batches hguest
  have hinbound : ((Guest.turn b.guest).emissions.foldlM (Inbound.take b.registry)
      { table := b.table }).value = ((Guest.turn c.guest).emissions.foldlM
        (Inbound.take c.registry) { table := c.table }).value := by
    rw [Inbound.value_foldlM_take, Inbound.value_foldlM_take, htable, hregistry]
    rw [GuestTurn.batches, GuestTurn.batches] at hbatches
    rw [hbatches]
  rw [value_guestTurn, value_guestTurn, hinbound]
  exact ⟨rfl, ⟨rfl, houtbound, hregistry, hingestion, htick, hR.guest hguest⟩, rfl⟩

theorem Alike.tick (hR : Guest.Alike R) (h : b.Alike R c) (w : World κ) :
    (b.tick w).value.2.1.Alike R (c.tick w).value.2.1 ∧
      (b.tick w).value.2.2 = (c.tick w).value.2.2 := by
  obtain ⟨hresult, hshare⟩ := h.share hR w
  have hresult := congrArg Prod.snd hresult
  cases hb : (b.share w).value.1.2 with
  | error err =>
    rw [tick_of_fault hb, tick_of_fault (hresult ▸ hb)]
    exact ⟨hshare, rfl⟩
  | ok report =>
    rw [tick_of_shared hb, tick_of_shared (hresult ▸ hb)]
    exact (hshare.guestTurn hR w).2

theorem Alike.result_tick (hR : Guest.Alike R)
    (houtcome : ∀ {g d}, R g d → (Guest.turn g).outcome = (Guest.turn d).outcome)
    (h : b.Alike R c) (w : World κ) : (b.tick w).value.1 = (c.tick w).value.1 := by
  obtain ⟨hresult, hshare⟩ := h.share hR w
  have hresult := congrArg Prod.snd hresult
  cases hb : (b.share w).value.1.2 with
  | error err => rw [tick_of_fault hb, tick_of_fault (hresult ▸ hb)]
  | ok report =>
    obtain ⟨hreports, -⟩ := hshare.guestTurn hR w
    have hends : ((b.share w).value.2.guestTurn w).value.1.1 =
        ((c.share w).value.2.guestTurn w).value.1.1 := houtcome hshare.guest
    rw [result_of_shared hb, result_of_shared (hresult ▸ hb), hends, hreports, h.table,
      h.tickCount]

/-! ## Whole courses -/

/-- What may happen to a bridge: a start, a tick, or a change of its guest. -/
inductive Event (γ κ : Type) [ProjectKind κ]
  | start (w : World κ)
  | tick (w : World κ)
  | swap (guest : γ)

inductive Event.Alike (R : γ → δ → Prop) : Event γ κ → Event δ κ → Prop
  | start (w : World κ) : Event.Alike R (.start w) (.start w)
  | tick (w : World κ) : Event.Alike R (.tick w) (.tick w)
  | swap {g : γ} {d : δ} (h : R g d) : Event.Alike R (.swap g) (.swap d)

inductive Yield (κ : Type) [ProjectKind κ]
  | started (result : Except BridgeError Unit)
  | ticked (result : Except BridgeError TickReport) (w : World κ)
  | swapped

/-- What the host sees of a bridge after an event. -/
structure Sight (κ : Type) [ProjectKind κ] where
  yield : Yield κ
  table : Correspondence
  pending : List Waiting

def happen (b : Bridge γ κ U V) : Event γ κ → Yield κ × Bridge γ κ U V
  | .start w => (.started (b.start w).value.1, (b.start w).value.2)
  | .tick w => (.ticked (b.tick w).value.1 (b.tick w).value.2.2, (b.tick w).value.2.1)
  | .swap guest => (.swapped, b.withGuest guest)

def sights (b : Bridge γ κ U V) : List (Event γ κ) → List (Sight κ)
  | [] => []
  | e :: rest =>
    let (yield, b) := b.happen e
    { yield, table := b.table, pending := b.outbound.pending } :: b.sights rest

theorem Alike.happen (hR : Guest.Alike R)
    (houtcome : ∀ {g d}, R g d → (Guest.turn g).outcome = (Guest.turn d).outcome)
    (h : b.Alike R c) {e : Event γ κ} {e' : Event δ κ} (he : e.Alike R e') :
    Paired (Alike R) (b.happen e) (c.happen e') := by
  cases he with
  | start w =>
    obtain ⟨hresult, hnext⟩ := h.start hR w
    exact ⟨congrArg Yield.started hresult, hnext⟩
  | tick w =>
    obtain ⟨hnext, hworld⟩ := h.tick hR w
    refine ⟨?_, hnext⟩
    rw [Bridge.happen, Bridge.happen, h.result_tick hR houtcome w, hworld]
  | swap hguest =>
    exact ⟨rfl, h.table, h.outbound, h.registry, h.ingestion, h.tickCount, hguest⟩

/-- A host sees no difference between bridges to guests that are alike. -/
theorem Alike.sights (hR : Guest.Alike R)
    (houtcome : ∀ {g d}, R g d → (Guest.turn g).outcome = (Guest.turn d).outcome)
    (h : b.Alike R c) {events : List (Event γ κ)} {events' : List (Event δ κ)}
    (hevents : List.Forall₂ (Event.Alike R) events events') :
    b.sights events = c.sights events' := by
  induction hevents generalizing b c with
  | nil => rfl
  | cons he _ ih =>
    obtain ⟨hyield, hnext⟩ := h.happen hR houtcome he
    simp only [Bridge.sights, ih hnext, hyield, hnext.table, hnext.outbound]

end Bridge

end SceneBridge
