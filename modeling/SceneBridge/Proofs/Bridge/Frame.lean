import SceneBridge.Proofs.Bridge.Alike

/-!
# What a tick leaves alone

A guest reaches the scene through ids only. `Bridge.Framed` says how little a tick does to a world:
entities die if they are destroyed by an id, get a world matrix if one is sent to an id, and appear
as instances of templates; everything else stays as it was. How the guest's turn ends is of no
importance to any of it, which `Ending` puts into a guest of its own.
-/

namespace SceneBridge

open Wire

/-! ## Turns that end otherwise -/

/-- A guest whose turns end in one given way, whatever they did. -/
structure Ending (γ : Type) where
  guest : γ
  outcome : Except BridgeError Unit

namespace Ending

variable {γ ρ σ : Type} [Guest γ ρ σ]

instance : Guest (Ending γ) ρ σ where
  register g familyId templates := do
    let (result, guest) ← Guest.register g.guest familyId templates
    return (result, { g with guest })
  spawn g request := do
    let (id, guest) ← Guest.spawn g.guest request
    return (id, { g with guest })
  turn g :=
    let turn := Guest.turn g.guest
    { emissions := turn.emissions, outcome := g.outcome, guest := { g with guest := turn.guest } }

theorem alike : Guest.Alike fun (g : γ) (e : Ending γ) => e.guest = g where
  register h _ _ := by
    subst h
    exact ⟨rfl, rfl⟩
  spawn h _ := by
    subst h
    exact ⟨rfl, rfl⟩
  batches h := by
    subst h
    rfl
  guest h := by
    subst h
    rfl

end Ending

namespace Bridge

variable {γ κ U V : Type} [ProjectKind κ]

def endingWith (b : Bridge γ κ U V) (outcome : Except BridgeError Unit) :
    Bridge (Ending γ) κ U V where
  guest := { guest := b.guest, outcome }
  table := b.table
  outbound := b.outbound
  registry := b.registry
  ingestion := b.ingestion
  tickCount := b.tickCount

variable [ComponentSet U] [ComponentSet V] [Guest γ (Raw U) (Raw V)]
variable (b : Bridge γ κ U V) (w : World κ)

/-! ## What a guest can do -/

/-- In the next tick the guest destroys an id that is the entity's at that moment. -/
def Destroys (e : Entity) : Prop :=
  ∃ t id, (t, .destroy id) ∈ b.moments w ∧ t.host? id = some e

/-- The matrices that the next tick's updates send to ids that are the entity's at that moment. -/
def matricesFor (e : Entity) : List Matrix := (b.moments w).filterMap fun p => p.2.matrixFor e p.1

def instanceOf (template : Entity) (item : Patch TemplateRef) : Edit :=
  .instantiate template ((sentMatrix? item.records).map LocalTransform.ofMatrix)

/-- A create of the next tick names a registered template, and the entity is the instance of it that
playback makes for that. -/
def Makes (e : Entity) : Prop :=
  ∃ t item template w₁ w₂,
    (t, .create item) ∈ b.moments w ∧
      b.registry.resolve item.handle = some template ∧
      (w₁, instanceOf template item) ∈ w.meets (b.edits w) ∧
      (w₁.instantiate template).value = .ok (e, w₂)

variable {b w}

theorem mem_despawns_iff {e : Entity} : e ∈ b.despawns w ↔ b.Destroys w e := by
  refine List.mem_filterMap.trans ⟨?_, ?_⟩
  · rintro ⟨⟨t, d⟩, hmem, hdespawn⟩
    cases d with
    | create item => simp [Demand.despawn?] at hdespawn
    | update item => simp [Demand.despawn?] at hdespawn
    | destroy id => exact ⟨t, id, hmem, hdespawn⟩
  · rintro ⟨t, id, hmem, hhost⟩
    exact ⟨(t, .destroy id), hmem, hhost⟩

theorem create_of_instantiate {template : Entity} {transform : Option LocalTransform}
    (h : .instantiate template transform ∈ b.edits w) :
    ∃ t item, (t, .create item) ∈ b.moments w ∧ b.registry.resolve item.handle = some template ∧
      instanceOf template item = .instantiate template transform := by
  obtain ⟨⟨t, d⟩, hmem, hedit⟩ := List.mem_filterMap.mp h
  cases d with
  | create item =>
    obtain ⟨found, hfound, heq⟩ := Option.map_eq_some_iff.mp hedit
    obtain ⟨rfl, -⟩ := Edit.instantiate.inj heq
    exact ⟨t, item, hmem, hfound, heq⟩
  | update item => simp [Demand.edit?, Option.bind_eq_some_iff] at hedit
  | destroy id => simp [Demand.edit?] at hedit

theorem mem_outcomes_iff (hw : w.Sound) {e : Entity} :
    EditOutcome.made e ∈ w.outcomes (b.edits w) ↔ b.Makes w e := by
  refine List.mem_map.trans ⟨?_, ?_⟩
  · rintro ⟨⟨w₁, edit⟩, hmeets, hmade⟩
    cases edit with
    | setWorldMatrix target matrix =>
      simp only [World.outcome] at hmade
      split at hmade <;> simp at hmade
    | instantiate template transform =>
      obtain ⟨t, item, hmem, hresolve, heq⟩ := create_of_instantiate (World.mem_meets hw hmeets).1
      cases h : (w₁.instantiate template).value with
      | error err => simp [World.outcome, h] at hmade
      | ok made =>
        simp only [World.outcome, h, EditOutcome.made.injEq] at hmade
        exact ⟨t, item, template, w₁, made.2, hmem, hresolve, heq ▸ hmeets, hmade ▸ h⟩
  · rintro ⟨t, item, template, w₁, w₂, -, -, hmeets, hmade⟩
    exact ⟨_, hmeets, by rw [instanceOf, World.outcome, hmade]⟩

/-! ## What a tick leaves -/

theorem isAlive_tick_iff {e : Entity} :
    (b.tick w).value.2.2.isAlive e = true ↔
      ¬ b.Destroys w e ∧ (w.editAll (b.edits w)).isAlive e = true := by
  rw [World.isAlive_iff, World.isAlive_iff, arena_tick, ← mem_despawns_iff]
  split
  · next h => simp [h]
  · next h => simp [h]

theorem get_tick {e : Entity} (h : ¬ b.Destroys w e) (k : Kind κ) :
    (b.tick w).value.2.2.get e k = (w.editAll (b.edits w)).get e k := by
  rw [World.get, World.get, arena_tick, if_neg (mt mem_despawns_iff.mp h)]

/-- How a tick changes a world, in terms of what the guest asks for. -/
structure Framed (b : Bridge γ κ U V) (w : World κ) : Prop where
  alive : ∀ e, w.isAlive e = true → ¬ b.Destroys w e → (b.tick w).value.2.2.isAlive e = true
  destroyed : ∀ e, b.Destroys w e →
    (b.tick w).value.2.2.isAlive e = false ∧ (b.tick w).value.2.1.table.containsHost e = false
  components : ∀ e, w.isAlive e = true → (b.tick w).value.2.2.isAlive e = true →
    ∀ k, k ≠ .localToWorld → (b.tick w).value.2.2.get e k = w.get e k
  /-- The last matrix that is sent counts. -/
  matrix : ∀ e, w.isAlive e = true → (b.tick w).value.2.2.isAlive e = true →
    (b.tick w).value.2.2.get e .localToWorld =
      (b.matricesFor w e).getLast?.or (w.get e .localToWorld)
  made : ∀ e, w.isAlive e = false ∧ (b.tick w).value.2.2.isAlive e = true ↔ b.Makes w e
  /-- The same bridge to a guest whose turn ends otherwise comes to the same table, queue and
  world. -/
  outcome : ∀ outcome,
    ((b.endingWith outcome).tick w).value.2.1.table = (b.tick w).value.2.1.table ∧
      ((b.endingWith outcome).tick w).value.2.1.outbound.pending =
        (b.tick w).value.2.1.outbound.pending ∧
      ((b.endingWith outcome).tick w).value.2.2 = (b.tick w).value.2.2

theorem endingWith_tick (b : Bridge γ κ U V) (w : World κ) (outcome : Except BridgeError Unit) :
    ((b.endingWith outcome).tick w).value.2.1.table = (b.tick w).value.2.1.table ∧
      ((b.endingWith outcome).tick w).value.2.1.outbound.pending =
        (b.tick w).value.2.1.outbound.pending ∧
      ((b.endingWith outcome).tick w).value.2.2 = (b.tick w).value.2.2 := by
  have halike : b.Alike (fun g (e : Ending γ) => e.guest = g) (b.endingWith outcome) :=
    ⟨rfl, rfl, rfl, rfl, rfl, rfl⟩
  obtain ⟨hbridge, hworld⟩ := halike.tick Ending.alike w
  exact ⟨hbridge.table.symm, congrArg Outbound.pending hbridge.outbound.symm, hworld.symm⟩

/-- However its guest's turn ends, a tick touches nothing that the guest has no id for. -/
theorem Reachable.framed (hb : b.Reachable) (hw : w.Reachable)
    (hroom : (b.tick w).value.2.2.HasRoom) : b.Framed w := by
  have h := hb.sound hw
  have hshrunk := h.shrunk_tick
  have hedits := hasRoom_of_tick hroom
  refine ⟨fun e he hkept => ?_, fun e hgone => ?_, fun e he hafter k hk => ?_,
    fun e he hafter => ?_, fun e => ?_, b.endingWith_tick w⟩
  · exact isAlive_tick_iff.mpr ⟨hkept, (World.isAlive_editAll_iff h.world hedits).mpr (.inl he)⟩
  · refine ⟨?_, ?_⟩
    · rw [← Bool.not_eq_true, isAlive_tick_iff]
      exact fun halive => halive.1 hgone
    · rw [Correspondence.containsHost_eq_false_iff, hshrunk.guest?,
        if_pos (mem_despawns_iff.mpr hgone)]
  · rw [get_tick (isAlive_tick_iff.mp hafter).1, World.get_editAll h.world hedits he hk]
  · rw [get_tick (isAlive_tick_iff.mp hafter).1, World.matrix_editAll h.world hedits he, edits,
      filterMap_matrixFor_stagedEdits]
    rfl
  · rw [← mem_outcomes_iff h.world, isAlive_tick_iff, World.isAlive_editAll_iff h.world hedits]
    constructor
    · rintro ⟨hdead, -, halive | hmade⟩
      · rw [hdead] at halive
        simp at halive
      · exact hmade
    · intro hmade
      have hdead := World.isAlive_of_mem_outcomes h.world hedits hmade
      refine ⟨hdead, fun hgone => ?_, .inr hmade⟩
      -- only what was shared is destroyed, and that was alive
      have halive := h.isAlive_of_shared (hshrunk.mapped e (mem_despawns_iff.mpr hgone))
      rw [hdead] at halive
      simp at halive

theorem busy_tick_framed :
    (busyBridge.tick thinnedWorld).value.2.2.HasRoom ∧
      busyBridge.matricesFor thinnedWorld ⟨3, 0⟩ = [Matrix.identity] ∧
      busyBridge.despawns thinnedWorld = [⟨4, 0⟩] ∧
      thinnedWorld.outcomes (busyBridge.edits thinnedWorld) = [.made ⟨1, 1⟩, .skipped, .written] ∧
      busyBridge.Framed thinnedWorld := by
  have hroom : (busyBridge.tick thinnedWorld).value.2.2.HasRoom := by
    unfold World.HasRoom Arena.HasRoom
    decide +kernel
  exact ⟨hroom, by decide +kernel, by decide +kernel, by decide +kernel,
    Reachable.framed reachable_busyBridge reachable_thinnedWorld hroom⟩

end Bridge

end SceneBridge
