import SceneBridge.Proofs.Bridge.Alike
import SceneBridge.Proofs.Guest.Delivery

/-!
# Bridges to guests in modules

A guest of the host's own mirrors one in a module if it gives the same answers and sends copies of
the batches that the module fires in its ticks. A bridge to either runs alike
(`Mirrored.sights`), whatever comes into the inbox between its calls. Every module is mirrored by
the guest that calls the sink at once (`mirrored_linked`).
-/

namespace SceneBridge

open Wire

/-! ## Mirrors -/

/-- States of a module, under the names of its entry points, and states of a guest that does the
same without an inbox. -/
structure Mirrored {μ δ ρ σ : Type} [GuestModule μ ρ σ] [Guest δ ρ σ]
    (R : SymbolNames → μ → δ → Prop) : Prop where
  register : ∀ {s m d}, R s m d → ∀ familyId templates,
    (Guest.register d familyId templates).value.1 = .ok () ∧
      R s (GuestModule.register s.register familyId (templates.map Entity.toSigned) m).module
        (Guest.register d familyId templates).value.2
  spawn : ∀ {s m d}, R s m d → ∀ request : SpawnRequest ρ σ,
    (Guest.spawn d request).value.1 =
        (GuestModule.spawn s.spawn request.host.toSigned request.components request.custom
          request.customState m).answer ∧
      R s
        (GuestModule.spawn s.spawn request.host.toSigned request.components request.custom
          request.customState m).module
        (Guest.spawn d request).value.2
  batches : ∀ {s m d}, R s m d →
    List.Forall₂ ForeignBatch.Copied (GuestModule.tick s.tick m).batches (Guest.turn d).batches
  turn : ∀ {s m d}, R s m d → (Guest.turn d).outcome = .ok () ∧
    R s (GuestModule.tick s.tick m).module (Guest.turn d).guest

namespace Mirrored

variable {μ δ ρ σ : Type} [GuestModule μ ρ σ] [Guest δ ρ σ]

def Pair (R : SymbolNames → μ → δ → Prop) (g : ModuleGuest μ) (d : δ) : Prop :=
  R g.symbols g.module d

variable {R : SymbolNames → μ → δ → Prop}

theorem alike (h : Mirrored R) : Guest.Alike (Pair R) where
  register hR familyId templates :=
    ⟨(h.register hR familyId templates).1.symm, (h.register hR familyId templates).2⟩
  spawn hR request := ⟨(h.spawn hR request).1.symm, (h.spawn hR request).2⟩
  batches {g _} hR := by
    rw [ForeignBatch.forall₂_copied.1 (h.batches hR)]
    exact ModuleGuest.batches_turn g
  guest hR := (h.turn hR).2

theorem outcome_eq (h : Mirrored R) {g : ModuleGuest μ} {d : δ} (hR : Pair R g d) :
    (Guest.turn g).outcome = (Guest.turn d).outcome := (h.turn hR).1.symm

end Mirrored

/-! ## Linked guests -/

/-- A guest whose library is part of the host: it calls the sink at once. -/
structure LinkedGuest (μ : Type) where
  symbols : SymbolNames
  module : μ

namespace LinkedGuest

variable {μ ρ σ : Type}

def emission : ModuleEmission → Emission
  | .batch b => .callback b.callback
  | .line text => .line text

def finish {α : Type} (g : LinkedGuest μ) (call : ModuleCall μ α) : Logged (α × LinkedGuest μ) :=
  { value := (call.answer, { g with module := call.module }), log := call.lines }

variable [GuestModule μ ρ σ]

instance : Guest (LinkedGuest μ) ρ σ where
  register g familyId templates := do
    let ((), g) ← g.finish
      (GuestModule.register g.symbols.register familyId (templates.map Entity.toSigned) g.module)
    return (.ok (), g)
  spawn g request := g.finish
    (GuestModule.spawn g.symbols.spawn request.host.toSigned request.components request.custom
      request.customState g.module)
  turn g :=
    let call := GuestModule.tick g.symbols.tick g.module
    { emissions := call.emissions.map emission
      outcome := .ok ()
      guest := { g with module := call.module } }

theorem batches_turn (g : LinkedGuest μ) :
    (Guest.turn g).batches =
      (GuestModule.tick g.symbols.tick g.module).batches.map ForeignBatch.callback := by
  simp only [Guest.turn, GuestTurn.batches, ModuleCall.batches, List.filterMap_map,
    List.map_filterMap]
  congr 1
  funext e
  cases e with
  | batch b => rfl
  | line text => rfl

theorem mirrored_linked :
    Mirrored fun s (m : μ) (d : LinkedGuest μ) => d.symbols = s ∧ d.module = m where
  register := by
    rintro s m d ⟨rfl, rfl⟩ familyId templates
    exact ⟨rfl, rfl, rfl⟩
  spawn := by
    rintro s m d ⟨rfl, rfl⟩ request
    exact ⟨rfl, rfl, rfl⟩
  batches := by
    rintro s m d ⟨rfl, rfl⟩
    exact ForeignBatch.forall₂_copied.2 (batches_turn d)
  turn := by
    rintro s m d ⟨rfl, rfl⟩
    exact ⟨rfl, rfl, rfl⟩

end LinkedGuest

/-! ## Bridges -/

/-- What is fired in a tick is delivered to that tick, once and in order, and nothing else ever is.
So a bridge does not notice that its guest is in a module. -/
structure Fleet.Delivers {ι μ U V : Type} [DecidableEq ι] [ComponentSet U] [ComponentSet V]
    (lib : ι → GuestModule μ (Raw U) (Raw V)) : Prop where
  /-- Whatever the guests were called for before, each sink receives copies of the batches of its
  own tick. -/
  own : ∀ (f : Fleet ι μ) (calls : List (GuestCall ι (Raw U) (Raw V))),
    ∀ d ∈ f.deliveries lib calls, List.Forall₂ ForeignBatch.Copied d.fired d.received
  /-- Neither what is fired outside of ticks nor what waits in the inbox makes a difference to any
  delivery. -/
  strays : ∀ lib' : ι → GuestModule μ (Raw U) (Raw V),
    (∀ who, (lib who).AlikeInTicks (lib' who)) → ∀ f f' : Fleet ι μ, f.Same f' →
      ∀ calls, f.deliveries lib calls = f'.deliveries lib' calls
  /-- Results, worlds, tables and queues are those of a bridge to a mirror. Between the calls, other
  guests may do what they like to the module's state, as long as the mirror follows, and to the
  inbox: that is a change of the guest. -/
  bridge : ∀ (who : ι) (δ κ : Type) [ProjectKind κ] [Guest δ (Raw U) (Raw V)]
    (R : SymbolNames → μ → δ → Prop), letI := lib who
    Mirrored R →
      ∀ (b : Bridge (ModuleGuest μ) κ U V) (c : Bridge δ κ U V), b.Alike (Mirrored.Pair R) c →
        ∀ events events', List.Forall₂ (Bridge.Event.Alike (Mirrored.Pair R)) events events' →
          b.sights events = c.sights events'

theorem Fleet.delivers {ι μ U V : Type} [DecidableEq ι] [ComponentSet U] [ComponentSet V]
    (lib : ι → GuestModule μ (Raw U) (Raw V)) : Fleet.Delivers lib where
  own := received_deliveries lib
  strays _ hlib _ _ hsame calls := hsame.deliveries hlib calls
  bridge who _ _ _ _ _ :=
    let := lib who
    fun hmirrored _ _ halike _ _ hevents =>
      halike.sights hmirrored.alike hmirrored.outcome_eq hevents

/-! ## Two guests of one library -/

namespace Fleet

open Bridge (stockedWorld thinnedWorld)

/-- Whenever it is initialised or asked it destroys an id out of turn. It has two turns ahead. -/
def strayingGuest : ScriptedGuest Empty Empty where
  onInit := [.batch (.destroy (.items [⟨0⟩]))]
  onSpawn := [.batch (.destroy (.items [⟨0⟩, ⟨1⟩]))]
  turns := [[.batch (.update (.items [⟨⟨0⟩, .null 2⟩])), .batch (.create (.null 4))],
    [.batch (.destroy (.items [⟨0⟩, ⟨0⟩]))]]

abbrev sharedLibrary : Bool → GuestModule (ScriptedGuest Empty Empty) Empty Empty :=
  fun _ => inferInstance

def strayingFleet : Fleet Bool (ScriptedGuest Empty Empty) where
  process := { module := strayingGuest }

/-- Each guest has one turn, and out of turn either fires batches before both. -/
def strayingCalls : List (GuestCall Bool Empty Empty) :=
  let load who := .load who ScriptedGuest.loader ScriptedGuest.libraryPath "." {}
  let spawn who := .spawn who ⟨Outbound.slotEntity 0, [], none, none⟩
  [load true, load false, spawn true, .tick false, spawn false, .unload false, .tick true]

def strayingBridge : Bridge (ModuleGuest (ScriptedGuest Empty Empty)) Empty Empty Empty :=
  .new { module := strayingGuest, inbox := [.destroy [⟨1⟩]], symbols := {}, path := "" } 8 0

def linkedBridge : Bridge (LinkedGuest (ScriptedGuest Empty Empty)) Empty Empty Empty :=
  .new { module := strayingGuest, symbols := {} } 8 0

/-- A start and two ticks; between these a batch comes into the inbox. -/
def eventsAmid {γ : Type} (guest : γ) : List (Bridge.Event γ Empty) :=
  [.start stockedWorld, .tick stockedWorld, .swap guest, .tick thinnedWorld]

def turnedGuest : ScriptedGuest Empty Empty :=
  { strayingGuest with nextId := 3, turns := strayingGuest.turns.tail }

def strayedGuest : ModuleGuest (ScriptedGuest Empty Empty) where
  module := turnedGuest
  inbox := [.destroy [⟨1⟩]]
  symbols := {}
  path := ""

/-- Each turn gets its own batches, and the bridge loses just the pairs of the entity that the host
despawns and of the id that the guest destroys in its turn. -/
theorem straying_delivers :
    (∀ d ∈ strayingFleet.deliveries sharedLibrary strayingCalls,
      List.Forall₂ ForeignBatch.Copied d.fired d.received) ∧
    (strayingFleet.deliveries sharedLibrary strayingCalls).map Delivery.received =
      [[], [], [], [.update [⟨⟨0⟩, []⟩], .create []], [], [], [.destroy [⟨0⟩, ⟨0⟩]]] ∧
    strayingBridge.sights (eventsAmid strayedGuest) =
      linkedBridge.sights (eventsAmid { module := turnedGuest, symbols := {} }) ∧
    (strayingBridge.sights (eventsAmid strayedGuest)).map (fun sight => sight.table.size) =
      [0, 3, 3, 2] := by
  have hdelivers := Fleet.delivers (U := Empty) (V := Empty) sharedLibrary
  have hsights := hdelivers.bridge true _ Empty _ LinkedGuest.mirrored_linked strayingBridge
    linkedBridge ⟨rfl, rfl, rfl, rfl, rfl, rfl, rfl⟩ (eventsAmid strayedGuest)
    (eventsAmid { module := turnedGuest, symbols := {} })
    (.cons (.start _) (.cons (.tick _) (.cons (.swap ⟨rfl, rfl⟩) (.cons (.tick _) .nil))))
  exact ⟨hdelivers.own _ _, by decide +kernel, hsights, by decide +kernel⟩

end Fleet

end SceneBridge
