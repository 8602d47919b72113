import SceneBridge.Log
import SceneBridge.Text.Blank
import SceneBridge.Text.Utf8

/-!
# Log lines of a guest

A guest logs bytes with a one-byte severity. Any bytes make a line: they are read as lenient UTF-8
and lose a blank end.
-/

namespace SceneBridge

inductive GuestSeverity
  | error
  | warning
  | info
  | debug
deriving DecidableEq

namespace GuestSeverity

def ofByte? (b : UInt8) : Option GuestSeverity :=
  if b = 0 then some error
  else if b = 1 then some warning
  else if b = 2 then some info
  else if b = 3 then some debug
  else none

def label : GuestSeverity → String
  | error => "Error"
  | warning => "Warning"
  | info => "Info"
  | debug => "Debug"

def level : GuestSeverity → LogLevel
  | error => .error
  | warning => .warn
  | info => .info
  | debug => .debug

end GuestSeverity

/-- The level of a guest's line; an unknown severity counts as information. -/
def guestLevel (severity : UInt8) : LogLevel :=
  match GuestSeverity.ofByte? severity with
  | some s => s.level
  | none => .info

def guestTarget : String := "guest"

def guestLine (severity : UInt8) (bytes : List UInt8) : LogLine :=
  { level := guestLevel severity
    target := guestTarget
    text := String.ofList (Text.trimEnd (Text.decodeLossy bytes)) }

end SceneBridge
