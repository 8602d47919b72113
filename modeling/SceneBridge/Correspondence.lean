import SceneBridge.BridgeError

/-!
# The correspondence table

The table pairs scene entities with guest ids. It keeps both directions, so that either side finds
its partner, and refuses any pair that would give one side two partners.
-/

namespace SceneBridge

structure Correspondence where
  byHost : Std.TreeMap Entity GuestId := ∅
  byGuest : Std.TreeMap GuestId Entity := ∅

namespace Correspondence

def empty : Correspondence := {}

instance : Inhabited Correspondence := ⟨empty⟩

def guest? (t : Correspondence) (host : Entity) : Option GuestId := t.byHost[host]?

def host? (t : Correspondence) (guest : GuestId) : Option Entity := t.byGuest[guest]?

def containsHost (t : Correspondence) (host : Entity) : Bool := t.byHost.contains host

def containsGuest (t : Correspondence) (guest : GuestId) : Bool := t.byGuest.contains guest

/-- Add a pair of which neither side has a partner yet. -/
def insert (t : Correspondence) (host : Entity) (guest : GuestId) :
    Except BridgeError Correspondence :=
  if !guest.isValid || t.containsHost host || t.containsGuest guest then
    .error (.duplicateMapping host guest)
  else
    .ok { byHost := t.byHost.insert host guest, byGuest := t.byGuest.insert guest host }

/-- Drop the pair of a host, answering its partner. -/
def removeHost (t : Correspondence) (host : Entity) : Option GuestId × Correspondence :=
  match t.guest? host with
  | some guest =>
    (some guest, { byHost := t.byHost.erase host, byGuest := t.byGuest.erase guest })
  | none => (none, t)

def removeGuest (t : Correspondence) (guest : GuestId) : Option Entity × Correspondence :=
  match t.host? guest with
  | some host =>
    (some host, { byHost := t.byHost.erase host, byGuest := t.byGuest.erase guest })
  | none => (none, t)

def toList (t : Correspondence) : List (Entity × GuestId) := t.byHost.toList

def size (t : Correspondence) : Nat := t.byHost.size

def isEmpty (t : Correspondence) : Bool := t.byHost.isEmpty

def dropPair (t : Correspondence) (pair : Entity × GuestId) : Correspondence :=
  { byHost := t.byHost.erase pair.1, byGuest := t.byGuest.erase pair.2 }

/-- Drop every pair whose host is not to be kept, answering the dropped pairs. -/
def retainHosts (t : Correspondence) (keep : Entity → Bool) :
    List (Entity × GuestId) × Correspondence :=
  let dropped := t.toList.filter fun (host, _) => !keep host
  (dropped, dropped.foldl dropPair t)

def clear (_ : Correspondence) : Correspondence := empty

@[simp] theorem guest?_empty (host : Entity) : empty.guest? host = none := by
  simp [guest?, empty]

@[simp] theorem host?_empty (guest : GuestId) : empty.host? guest = none := by
  simp [host?, empty]

end Correspondence

end SceneBridge
