import Mathlib.Data.List.Forall2
import Mathlib.Logic.Function.Basic
import SceneBridge.Guest.Module
import SceneBridge.Proofs.Inbound.Demands

/-!
# Delivery

The guests of a process share one inbox, and no batch in it says whose it is or when it was sent. A
turn still receives just the batches of its own tick, in order and as they were in the module's
memory (`Fleet.received_deliveries`). What is fired outside of ticks reaches no turn at all: modules
that fire other batches there, over any inbox, make no difference to any delivery
(`Fleet.Same.deliveries`).
-/

namespace SceneBridge

/-! ## Reading foreign memory -/

inductive ForeignArray.Holds {α : Type} : ForeignArray α → List α → Prop
  | null (length : Nat) : Holds (.null length) []
  | items (elements : List α) : Holds (.items elements) elements

/-- The same handle, with the records that the entry holds. -/
structure ForeignPatch.Copied {η : Type} (item : ForeignPatch η) (p : Patch η) : Prop where
  handle : p.handle = item.handle
  records : item.records.Holds p.records

/-- A batch of the same kind, with a copy of each entry in order. -/
inductive ForeignBatch.Copied : ForeignBatch → Callback → Prop
  | create {array : ForeignArray (ForeignPatch TemplateRef)}
      {items : List (ForeignPatch TemplateRef)} {patches : List (Patch TemplateRef)}
      (holds : array.Holds items) (copies : List.Forall₂ ForeignPatch.Copied items patches) :
      Copied (.create array) (.create patches)
  | update {array : ForeignArray (ForeignPatch GuestId)}
      {items : List (ForeignPatch GuestId)} {patches : List (Patch GuestId)}
      (holds : array.Holds items) (copies : List.Forall₂ ForeignPatch.Copied items patches) :
      Copied (.update array) (.update patches)
  | destroy {array : ForeignArray GuestId} {ids : List GuestId} (holds : array.Holds ids) :
      Copied (.destroy array) (.destroy ids)

theorem ForeignArray.holds_iff {α : Type} {array : ForeignArray α} {xs : List α} :
    array.Holds xs ↔ xs = array.toList := by
  constructor
  · rintro (_ | _) <;> rfl
  · rintro rfl
    cases array with
    | null length => exact .null length
    | items elements => exact .items elements

theorem ForeignPatch.copied_iff {η : Type} {item : ForeignPatch η} {p : Patch η} :
    item.Copied p ↔ p = { handle := item.handle, records := item.records.toList } := by
  constructor
  · rintro ⟨hhandle, hrecords⟩
    rw [← hhandle, ← ForeignArray.holds_iff.1 hrecords]
  · rintro rfl
    exact ⟨rfl, ForeignArray.holds_iff.2 rfl⟩

theorem forall₂_eq_map {α β : Type} {P : α → β → Prop} {f : α → β}
    (hP : ∀ a b, P a b ↔ b = f a) {xs : List α} {ys : List β} :
    List.Forall₂ P xs ys ↔ ys = xs.map f := by
  have hgraph : P = fun a b => f a = b := by
    funext a b
    exact propext ((hP a b).trans eq_comm)
  rw [hgraph, ← List.forall₂_map_left_iff (R := Eq), List.forall₂_eq_eq_eq, eq_comm]

namespace ForeignBatch

theorem forall₂_copied_items {η : Type} {array : ForeignArray (ForeignPatch η)}
    {patches : List (Patch η)} :
    List.Forall₂ ForeignPatch.Copied array.toList patches ↔ patches = readItems array :=
  forall₂_eq_map fun _ _ => ForeignPatch.copied_iff

theorem copied_iff {b : ForeignBatch} {c : Callback} : b.Copied c ↔ c = b.callback := by
  constructor
  · rintro (⟨holds, copies⟩ | ⟨holds, copies⟩ | ⟨holds⟩)
    · rw [ForeignArray.holds_iff.1 holds, forall₂_copied_items] at copies
      rw [copies, callback]
    · rw [ForeignArray.holds_iff.1 holds, forall₂_copied_items] at copies
      rw [copies, callback]
    · rw [ForeignArray.holds_iff.1 holds, callback]
  · rintro rfl
    cases b with
    | create array => exact .create (ForeignArray.holds_iff.2 rfl) (forall₂_copied_items.2 rfl)
    | update array => exact .update (ForeignArray.holds_iff.2 rfl) (forall₂_copied_items.2 rfl)
    | destroy array => exact .destroy (ForeignArray.holds_iff.2 rfl)

theorem forall₂_copied {batches : List ForeignBatch} {copies : List Callback} :
    List.Forall₂ Copied batches copies ↔ copies = batches.map callback :=
  forall₂_eq_map (P := Copied) (f := callback) fun _ _ => copied_iff

end ForeignBatch

/-! ## One turn -/

theorem filterMap_batch?_line (lines : List LogLine) :
    (lines.map Emission.line).filterMap Emission.batch? = [] := by
  simp [List.filterMap_map, Function.comp_def, Emission.batch?]

theorem filterMap_batch?_callback (batches : List Callback) :
    (batches.map Emission.callback).filterMap Emission.batch? = batches := by
  simp [List.filterMap_map, Function.comp_def, Emission.batch?]

namespace ModuleGuest

variable {μ ρ σ : Type} [GuestModule μ ρ σ]

theorem batches_turn (g : ModuleGuest μ) :
    (turn g).batches =
      (GuestModule.tick g.symbols.tick g.module).batches.map ForeignBatch.callback := by
  simp only [turn, GuestTurn.batches, ModuleProcess.absorb, List.filterMap_append,
    filterMap_batch?_line, filterMap_batch?_callback, List.nil_append, List.append_nil]
  -- with strays or without, what comes before the tick's own batches is lines
  split
  · rfl
  · rfl

end ModuleGuest

/-! ## Many guests -/

/-- The guests of one process, by name: for those that are open, the names of their entry points and
the path. Module state and inbox are common to all. -/
structure Fleet (ι μ : Type) where
  process : ModuleProcess μ
  opened : ι → Option (SymbolNames × String) := fun _ => none

inductive GuestCall (ι ρ σ : Type)
  | load (who : ι) (loader : ModuleLoader) (path basePath : String) (symbols : SymbolNames)
  | register (who : ι) (familyId : Int32) (templates : List Entity)
  | spawn (who : ι) (request : SpawnRequest ρ σ)
  | tick (who : ι)
  | unload (who : ι)

namespace Fleet

variable {ι μ ρ σ : Type}

def guest? (f : Fleet ι μ) (who : ι) : Option (ModuleGuest μ) :=
  (f.opened who).map fun (symbols, path) => { f.process with symbols, path }

/-- What a call's sink receives. Only a tick has a sink. -/
def received (lib : ι → GuestModule μ ρ σ) (f : Fleet ι μ) : GuestCall ι ρ σ → List Callback
  | .tick who =>
    letI := lib who
    match f.guest? who with
    | none => []
    | some g => (Guest.turn g).batches
  | _ => []

def fired (lib : ι → GuestModule μ ρ σ) (f : Fleet ι μ) : GuestCall ι ρ σ → List ForeignBatch
  | .tick who =>
    match f.opened who with
    | none => []
    | some (symbols, _) => ((lib who).tick symbols.tick f.process.module).batches
  | _ => []

theorem received_eq (lib : ι → GuestModule μ ρ σ) (f : Fleet ι μ) (call : GuestCall ι ρ σ) :
    f.received lib call = (f.fired lib call).map ForeignBatch.callback := by
  cases call with
  | tick who =>
    let := lib who
    simp only [received, fired, guest?]
    cases f.opened who with
    | none => rfl
    | some entry =>
      exact ModuleGuest.batches_turn { f.process with symbols := entry.1, path := entry.2 }
  | load | register | spawn | unload => rfl

def enter (f : Fleet ι μ) (who : ι) (call : ModuleGuest μ → Fleet ι μ) : Fleet ι μ :=
  match f.guest? who with
  | none => f
  | some g => call g

variable [DecidableEq ι]

def keep (f : Fleet ι μ) (who : ι) (g : ModuleGuest μ) : Fleet ι μ where
  process := g.toModuleProcess
  opened := Function.update f.opened who (some (g.symbols, g.path))

/-- The fleet after a call. `lib` gives the library of each guest, which is loaded only if it is not
open yet. -/
def after (lib : ι → GuestModule μ ρ σ) (f : Fleet ι μ) : GuestCall ι ρ σ → Fleet ι μ
  | .load who loader path basePath symbols =>
    letI := lib who
    match f.opened who with
    | some _ => f
    | none =>
      match (ModuleGuest.load loader path basePath symbols f.process).value with
      | .error (_, process) => { f with process }
      | .ok g => f.keep who g
  | .register who familyId templates =>
    letI := lib who
    f.enter who fun g => f.keep who (Guest.register g familyId templates).value.2
  | .spawn who request =>
    letI := lib who
    f.enter who fun g => f.keep who (Guest.spawn g request).value.2
  | .tick who =>
    letI := lib who
    f.enter who fun g => f.keep who (Guest.turn g).guest
  | .unload who =>
    letI := lib who
    f.enter who fun g =>
      { process := g.unload.value, opened := Function.update f.opened who none }

/-- What was fired within a guest's own tick during a call, and what its sink received. -/
structure Delivery where
  fired : List ForeignBatch
  received : List Callback

def deliveries (lib : ι → GuestModule μ ρ σ) (f : Fleet ι μ) :
    List (GuestCall ι ρ σ) → List Delivery
  | [] => []
  | call :: rest =>
    { fired := f.fired lib call, received := f.received lib call } ::
      (f.after lib call).deliveries lib rest

theorem received_deliveries (lib : ι → GuestModule μ ρ σ) (f : Fleet ι μ)
    (calls : List (GuestCall ι ρ σ)) :
    ∀ d ∈ f.deliveries lib calls, List.Forall₂ ForeignBatch.Copied d.fired d.received := by
  induction calls generalizing f with
  | nil =>
    intro d hd
    cases hd
  | cons call rest ih =>
    intro d hd
    rcases List.mem_cons.1 hd with rfl | hd
    · exact ForeignBatch.forall₂_copied.2 (received_eq lib f call)
    · exact ih _ d hd

end Fleet

/-! ## Strays -/

structure ModuleCall.Agrees {μ α : Type} (call call' : ModuleCall μ α) : Prop where
  answer : call.answer = call'.answer
  module : call.module = call'.module

/-- Two libraries that do the same but for what they emit outside of ticks. -/
structure GuestModule.AlikeInTicks {μ ρ σ : Type} (lib lib' : GuestModule μ ρ σ) : Prop where
  construct : ∀ name m, (lib.construct name m).Agrees (lib'.construct name m)
  load : ∀ name m, (lib.load name m).Agrees (lib'.load name m)
  init : ∀ name basePath m, (lib.init name basePath m).Agrees (lib'.init name basePath m)
  register : ∀ name familyId handles m,
    (lib.register name familyId handles m).Agrees (lib'.register name familyId handles m)
  spawn : ∀ name host components custom customState m,
    (lib.spawn name host components custom customState m).Agrees
      (lib'.spawn name host components custom customState m)
  tick : ∀ name m, (lib.tick name m).Agrees (lib'.tick name m)
  batches : ∀ name m, (lib.tick name m).batches = (lib'.tick name m).batches
  unload : ∀ name m, (lib.unload name m).Agrees (lib'.unload name m)

namespace Fleet

variable {ι μ ρ σ : Type}

structure Same (f f' : Fleet ι μ) : Prop where
  module : f.process.module = f'.process.module
  opened : f.opened = f'.opened

variable {lib lib' : ι → GuestModule μ ρ σ} {f f' : Fleet ι μ}

theorem Same.fired (hlib : ∀ who, (lib who).AlikeInTicks (lib' who)) (h : f.Same f')
    (call : GuestCall ι ρ σ) : f.fired lib call = f'.fired lib' call := by
  cases call with
  | tick who =>
    rw [Fleet.fired, Fleet.fired, h.opened, h.module]
    cases f'.opened who with
    | none => rfl
    | some entry => exact (hlib who).batches _ _
  | load | register | spawn | unload => rfl

theorem Same.enter (h : f.Same f') (who : ι) {call call' : ModuleGuest μ → Fleet ι μ}
    (hcall : ∀ symbols path, (call { f.process with symbols, path }).Same
      (call' { f'.process with symbols, path })) :
    (f.enter who call).Same (f'.enter who call') := by
  rw [Fleet.enter, Fleet.enter, guest?, guest?, ← h.opened]
  cases f.opened who with
  | none => exact h
  | some entry => exact hcall entry.1 entry.2

variable [DecidableEq ι]

theorem Same.after (hlib : ∀ who, (lib who).AlikeInTicks (lib' who)) (h : f.Same f')
    (call : GuestCall ι ρ σ) : (f.after lib call).Same (f'.after lib' call) := by
  obtain ⟨⟨m, inbox⟩, opened⟩ := f
  obtain ⟨⟨m', inbox'⟩, opened'⟩ := f'
  obtain ⟨rfl, rfl⟩ : m = m' ∧ opened = opened' := ⟨h.module, h.opened⟩
  cases call with
  | load who loader path basePath symbols =>
    simp only [Fleet.after]
    cases opened who with
    | some entry => exact h
    | none =>
      simp only [ModuleGuest.load]
      cases ModuleGuest.prepare loader path basePath symbols with
      | error err => exact h
      | ok found =>
        -- both ways through loading see the same states, so they end at the same step
        have hconstruct := ((hlib who).construct found.construct m).module
        have hload := (hlib who).load found.load ((lib who).construct found.construct m).module
        simp only [Logged.value_bind, ModuleProcess.absorb, ← hconstruct, ← hload.answer,
          ← hload.module]
        cases ((lib who).load found.load ((lib who).construct found.construct m).module).answer with
        | false => exact ⟨rfl, rfl⟩
        | true => exact ⟨((hlib who).init _ _ _).module, rfl⟩
  | register who familyId templates =>
    exact h.enter who fun _ _ => ⟨((hlib who).register _ _ _ _).module, rfl⟩
  | spawn who request =>
    exact h.enter who fun _ _ => ⟨((hlib who).spawn _ _ _ _ _ _).module, rfl⟩
  | tick who => exact h.enter who fun _ _ => ⟨((hlib who).tick _ _).module, rfl⟩
  | unload who => exact h.enter who fun _ _ => ⟨((hlib who).unload _ _).module, rfl⟩

theorem Same.deliveries (hlib : ∀ who, (lib who).AlikeInTicks (lib' who)) (h : f.Same f')
    (calls : List (GuestCall ι ρ σ)) : f.deliveries lib calls = f'.deliveries lib' calls := by
  induction calls generalizing f f' with
  | nil => rfl
  | cons call rest ih =>
    rw [Fleet.deliveries, Fleet.deliveries, received_eq, received_eq, h.fired hlib call,
      ih (h.after hlib call)]

end Fleet

end SceneBridge
