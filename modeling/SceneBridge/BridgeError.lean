import SceneBridge.Entity
import SceneBridge.Guest.Id
import SceneBridge.Wire.Snapshot

/-!
# Bridge errors

What can go wrong between the scene and a guest, and the wording of each fault.
-/

namespace SceneBridge

inductive ReadFault
  | notFound
  | isDirectory
  | notText
  | other (text : String)
deriving DecidableEq

def ReadFault.message : ReadFault → String
  | notFound => "No such file or directory (os error 2)"
  | isDirectory => "Is a directory (os error 21)"
  | notText => "stream did not contain valid UTF-8"
  | other text => text

inductive ConfigFault
  /-- The text is not TOML, or does not have the expected shape. -/
  | malformed (text : String)
  /-- A setting has a value that is not allowed. -/
  | rule (text : String)
deriving DecidableEq

def ConfigFault.message : ConfigFault → String
  | malformed text => text
  | rule text => text

inductive BridgeError
  /-- One side of a new pair has a partner already, or the id is the reserved one. -/
  | duplicateMapping (host : Entity) (guest : GuestId)
  | unknownComponentKind (tag : UInt8)
  /-- The guest named an id without a partner. -/
  | staleGuestReference (guest : GuestId)
  /-- The guest failed, or refused a request. -/
  | transportFault (text : String)
  | loadFailed (path text : String)
  | symbolNotFound (library symbol : String)
  | unknownTemplate (template : TemplateRef)
  | invalidConfig (fault : ConfigFault)
  | unreadable (fault : ReadFault)
deriving DecidableEq

namespace BridgeError

def label : BridgeError → String
  | duplicateMapping .. => "DuplicateMapping"
  | unknownComponentKind _ => "UnknownComponentKind"
  | staleGuestReference _ => "StaleGuestReference"
  | transportFault _ => "TransportFault"
  | loadFailed .. => "LoadError"
  | symbolNotFound .. => "SymbolNotFound"
  | unknownTemplate _ => "UnknownTemplate"
  | invalidConfig _ => "Config"
  | unreadable _ => "Io"

def message : BridgeError → String
  | duplicateMapping host guest => s!"Duplicate mapping {host.describe} <-> {guest}"
  | unknownComponentKind tag => s!"Unknown component kind {tag}"
  | staleGuestReference guest => s!"Stale guest reference {guest}"
  | transportFault text => "Transport fault: " ++ text
  | loadFailed path text => "Failed to load library '" ++ path ++ "': " ++ text
  | symbolNotFound library symbol =>
    "Symbol '" ++ symbol ++ "' not found in library '" ++ library ++ "'"
  | unknownTemplate t => s!"Unknown template {t.index} in family {t.familyId}"
  | invalidConfig fault => "Invalid config: " ++ fault.message
  | unreadable fault => "IO error: " ++ fault.message

def abortsTick : BridgeError → Bool
  | duplicateMapping .. => true
  | transportFault _ => true
  | _ => false

/-- A record fault outside of any snapshot. An unknown kind keeps its meaning; any other counts as
a fault of the guest. -/
def ofCodecError : Wire.CodecError → BridgeError
  | .unknownKind tag => unknownComponentKind tag
  | err => transportFault err.message

end BridgeError

end SceneBridge
