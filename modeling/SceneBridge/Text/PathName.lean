/-!
# Path names

Two path names are the same path when they have the same components. Repeated separators and inner
`.` components do not count; a leading `.` and every `..` do.
-/

namespace SceneBridge.Text

structure PathParts where
  absolute : Bool
  components : List String
deriving DecidableEq

namespace PathParts

def ofString (path : String) : PathParts :=
  let pieces := path.splitOn "/"
  let counts := fun piece => piece ≠ "" && piece ≠ "."
  match pieces with
  | "" :: _ :: _ => ⟨true, pieces.filter counts⟩
  | "." :: rest => ⟨false, "." :: rest.filter counts⟩
  | _ => ⟨false, pieces.filter counts⟩

end PathParts

def samePath (a b : String) : Bool := PathParts.ofString a == PathParts.ofString b

end SceneBridge.Text
