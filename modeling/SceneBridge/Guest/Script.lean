import SceneBridge.Guest.LogLine
import SceneBridge.Guest.Module

/-!
# Scripted guests

A guest that follows a script and keeps a journal. It answers requests with listed ids first and
then with ascending ones, and in each turn issues the next list of calls. It can be driven directly
or as a loadable module; as a module it can also issue calls outside of its turns.
-/

namespace SceneBridge

open Wire (RawRecord)

abbrev ScriptedPatch := ForeignPatch

def ForeignBatch.isNull : ForeignBatch → Bool
  | create (.null _) => true
  | update (.null _) => true
  | destroy (.null _) => true
  | _ => false

inductive ScriptedCall
  | batch (b : ForeignBatch)
  /-- A log line; without bytes nothing is logged. -/
  | log (severity : UInt8) (bytes : Option (List UInt8))
  /-- End the turn with a failure. Only a guest that is driven directly can. -/
  | fault (text : String)

/-- What a scripted guest notes down. -/
inductive JournalEvent (ρ σ : Type)
  | construct
  | load
  | init (basePath : String)
  | register (familyId : Int32) (templates : List SignedHandle)
  | spawn (host : SignedHandle) (components : List RawRecord) (custom : Option (List ρ))
      (customState : Option (List σ)) (id : GuestId)
  | tick
  | unload
  /-- The entry point was found under its second name. -/
  | alternate (symbol : String)

structure ScriptedGuest (ρ σ : Type) where
  nextId : UInt64 := 0
  replies : List UInt64 := []
  /-- Families that are not taken when the guest is driven directly. -/
  refusedFamilies : List Int32 := []
  turns : List (List ScriptedCall) := []
  queued : List ScriptedCall := []
  nullContext : Bool := false
  onInit : List ScriptedCall := []
  onRegister : List ScriptedCall := []
  onSpawn : List ScriptedCall := []
  notes : List (JournalEvent ρ σ) := []

namespace ScriptedGuest

variable {ρ σ : Type}

def note (g : ScriptedGuest ρ σ) (event : JournalEvent ρ σ) : ScriptedGuest ρ σ :=
  { g with notes := event :: g.notes }

def journal (g : ScriptedGuest ρ σ) : List (JournalEvent ρ σ) := g.notes.reverse

def queue (g : ScriptedGuest ρ σ) (calls : List ScriptedCall) : ScriptedGuest ρ σ :=
  { g with queued := g.queued ++ calls }

def takeJournal (g : ScriptedGuest ρ σ) : List (JournalEvent ρ σ) × ScriptedGuest ρ σ :=
  (g.journal, { g with notes := [] })

def answer (g : ScriptedGuest ρ σ) : GuestId × ScriptedGuest ρ σ :=
  match g.replies with
  | id :: rest => (⟨id⟩, { g with replies := rest })
  | [] => (⟨g.nextId⟩, { g with nextId := g.nextId + 1 })

def spawn (g : ScriptedGuest ρ σ) (host : SignedHandle) (components : List RawRecord)
    (custom : Option (List ρ)) (customState : Option (List σ)) :
    GuestId × ScriptedGuest ρ σ :=
  let (id, g) := g.answer
  (id, g.note (.spawn host components custom customState id))

def takeTurn (g : ScriptedGuest ρ σ) : List ScriptedCall × ScriptedGuest ρ σ :=
  let g := g.note .tick
  (g.turns.headD [] ++ g.queued, { g with turns := g.turns.tail, queued := [] })

def lineOf (severity : UInt8) : Option (List UInt8) → List Emission
  | none => []
  | some bytes => [.line (guestLine severity bytes)]

/-! ## Driven directly -/

/-- The effect of calls up to the first failure. A null batch does nothing. -/
def emitDirect : List ScriptedCall → List Emission × Except BridgeError Unit
  | [] => ([], .ok ())
  | .fault text :: _ => ([], .error (.transportFault text))
  | .log severity bytes :: rest =>
    let (emissions, outcome) := emitDirect rest
    (lineOf severity bytes ++ emissions, outcome)
  | .batch b :: rest =>
    let (emissions, outcome) := emitDirect rest
    (if b.isNull then emissions else .callback b.callback :: emissions, outcome)

instance : Guest (ScriptedGuest ρ σ) ρ σ where
  register g familyId templates :=
    if g.refusedFamilies.contains familyId then
      pure (.error (.transportFault s!"register {familyId}"), g)
    else
      pure (.ok (), g.note (.register familyId (templates.map Entity.toSigned)))
  spawn g request :=
    pure (g.spawn request.host.toSigned request.components request.custom request.customState)
  turn g :=
    let (calls, guest) := g.takeTurn
    let (emissions, outcome) := emitDirect calls
    { emissions, outcome, guest }

/-! ## As a loadable module -/

def libraryPath : String := "./libguest.so"

/-- The second name of each entry point. -/
def alternateNames : SymbolNames :=
  { construct := "alt_construct"
    load := "alt_load"
    init := "alt_init"
    register := "alt_register"
    spawn := "alt_spawn"
    tick := "alt_tick"
    unload := "alt_unload" }

/-- The scripted library lies at one path. The empty path opens the running program, which exports
nothing. -/
def loader : ModuleLoader := fun path =>
  if path = libraryPath then .ok (({} : SymbolNames).toList ++ alternateNames.toList)
  else if path = "" then .ok []
  else .error (path ++ ": cannot open shared object file: No such file or directory")

/-- The effect of calls made by a module; a failure is no call, and without bytes nothing is
logged. -/
def emitForeign (calls : List ScriptedCall) : List ModuleEmission :=
  calls.filterMap fun
    | .batch b => some (.batch b)
    | .log severity bytes => bytes.map fun bytes => .line (guestLine severity bytes)
    | .fault _ => none

/-- Note down that an entry point was entered under its second name. -/
def enter (g : ScriptedGuest ρ σ) (symbol : String) : ScriptedGuest ρ σ :=
  if alternateNames.toList.contains symbol then g.note (.alternate symbol) else g

instance : GuestModule (ScriptedGuest ρ σ) ρ σ where
  construct symbol g := { answer := (), module := (g.enter symbol).note .construct }
  load symbol g := { answer := !g.nullContext, module := (g.enter symbol).note .load }
  init symbol basePath g :=
    { emissions := emitForeign g.onInit
      answer := ()
      module := (g.enter symbol).note (.init basePath) }
  register symbol familyId templates g :=
    { emissions := emitForeign g.onRegister
      answer := ()
      module := (g.enter symbol).note (.register familyId templates) }
  spawn symbol host components custom customState g :=
    let (id, g) := (g.enter symbol).spawn host components custom customState
    { emissions := emitForeign g.onSpawn, answer := id, module := g }
  tick symbol g :=
    let (calls, g) := (g.enter symbol).takeTurn
    { emissions := emitForeign calls, answer := (), module := g }
  unload symbol g := { answer := (), module := (g.enter symbol).note .unload }

end ScriptedGuest

end SceneBridge
