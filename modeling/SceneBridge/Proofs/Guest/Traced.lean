import SceneBridge.Guest.Module
import SceneBridge.Proofs.Bridge.Alike

/-!
# Modules that are watched

Every module can be watched: `Traced` writes down each call of an entry point beside the module's
own state and passes the call on. A host cannot tell the two apart (`ModuleGuest.alike_erase`), so
the calls that are written down are those that the module itself sees.
-/

namespace SceneBridge

inductive EntryCall
  | construct
  | load
  | init
  | register (familyId : Int32)
  | spawn (host : SignedHandle) (answer : GuestId)
  | tick
  | unload
deriving DecidableEq

structure Traced (μ : Type) where
  module : μ
  calls : List EntryCall := []

namespace Traced

variable {μ ρ σ α : Type}

def record (t : Traced μ) (entry : EntryCall) (call : ModuleCall μ α) :
    ModuleCall (Traced μ) α where
  emissions := call.emissions
  answer := call.answer
  module := { module := call.module, calls := t.calls ++ [entry] }

instance [GuestModule μ ρ σ] : GuestModule (Traced μ) ρ σ where
  construct name t := t.record .construct (GuestModule.construct name t.module)
  load name t := t.record .load (GuestModule.load name t.module)
  init name basePath t := t.record .init (GuestModule.init name basePath t.module)
  register name familyId handles t :=
    t.record (.register familyId) (GuestModule.register name familyId handles t.module)
  spawn name host components custom customState t :=
    let call := GuestModule.spawn name host components custom customState t.module
    t.record (.spawn host call.answer) call
  tick name t := t.record .tick (GuestModule.tick name t.module)
  unload name t := t.record .unload (GuestModule.unload name t.module)

end Traced

/-! ## Taking the trace away -/

def ModuleProcess.erase {μ : Type} (p : ModuleProcess (Traced μ)) : ModuleProcess μ where
  module := p.module.module
  inbox := p.inbox

/-- The same process, watched from now on. -/
def ModuleProcess.watched {μ : Type} (p : ModuleProcess μ) : ModuleProcess (Traced μ) where
  module := { module := p.module }
  inbox := p.inbox

namespace ModuleGuest

variable {μ ρ σ : Type}

def erase (g : ModuleGuest (Traced μ)) : ModuleGuest μ where
  toModuleProcess := g.toModuleProcess.erase
  symbols := g.symbols
  path := g.path

def calls (g : ModuleGuest (Traced μ)) : List EntryCall := g.module.calls

variable [GuestModule μ ρ σ]

theorem alike_erase : Guest.Alike fun (g : ModuleGuest (Traced μ)) (d : ModuleGuest μ) =>
    g.erase = d where
  register h _ _ := by
    subst h
    exact ⟨rfl, rfl⟩
  spawn h _ := by
    subst h
    exact ⟨rfl, rfl⟩
  batches h := by
    subst h
    rfl
  guest h := by
    subst h
    rfl

theorem outcome_register (g : ModuleGuest μ) (familyId : Int32) (templates : List Entity) :
    (Guest.register g familyId templates).value.1 = .ok () :=
  rfl

theorem outcome_turn (g : ModuleGuest μ) : (Guest.turn g).outcome = .ok () := rfl

theorem erase_unload (g : ModuleGuest (Traced μ)) :
    g.unload.value.erase = g.erase.unload.value :=
  rfl

/-! ## What a host calls -/

variable (g : ModuleGuest (Traced μ))

@[simp] theorem calls_register (familyId : Int32) (templates : List Entity) :
    (Guest.register g familyId templates).value.2.calls = g.calls ++ [.register familyId] :=
  rfl

@[simp] theorem calls_spawn (request : SpawnRequest ρ σ) :
    (Guest.spawn g request).value.2.calls =
      g.calls ++ [.spawn request.host.toSigned (Guest.spawn g request).value.1] :=
  rfl

@[simp] theorem calls_turn : (Guest.turn g).guest.calls = g.calls ++ [.tick] := rfl

@[simp] theorem calls_unload : g.unload.value.module.calls = g.calls ++ [.unload] := rfl

end ModuleGuest

end SceneBridge
