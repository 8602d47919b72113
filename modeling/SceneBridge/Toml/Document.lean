import SceneBridge.Toml.Number
import SceneBridge.Toml.Value

/-!
# TOML documents

Values nest to a fixed depth, and reading one recurses on the depth that is left. A document is a
sequence of lines: keys with values, headers, and lines that hold nothing. `Document.parse` reads a
whole text as its root table.
-/

namespace SceneBridge.Toml

namespace Scan

def scalar (cs : List Char) : Option (Value × List Char) :=
  match cs with
  | '"' :: _ => (string cs).map fun (s, rest) => (.text s, rest)
  | '\'' :: _ => (string cs).map fun (s, rest) => (.text s, rest)
  | 't' :: 'r' :: 'u' :: 'e' :: rest => some (.boolean true, rest)
  | 'f' :: 'a' :: 'l' :: 's' :: 'e' :: rest => some (.boolean false, rest)
  | _ =>
    match datetime cs with
    | some rest => some (.datetime, rest)
    | none =>
      match float cs with
      | some (x, rest) => some (.number x, rest)
      | none => (integer cs).map fun (n, rest) => (.integer n, rest)

/-- The rest of an array. Elements may stand on lines of their own, and the last may have a comma
after it. -/
def arrayRest (element : Scan Value) : Nat → Scan (List Value)
  | 0, _ => none
  | fuel + 1, cs => do
    match ← skipLayout cs with
    | ']' :: rest => return ([], rest)
    | cs =>
      let (v, rest) ← element cs
      match ← skipLayout rest with
      | ',' :: rest =>
        let (vs, rest) ← arrayRest element fuel rest
        return (v :: vs, rest)
      | ']' :: rest => return ([v], rest)
      | _ => none

/-- A key, an equals sign and a value, added to a table. -/
def keyValue (value : Scan Value) (table : Value) (cs : List Char) :
    Option (Value × List Char) := do
  let ((path, name), rest) ← key cs
  let rest ← expect '=' rest
  let (v, rest) ← value (skipSpaces rest)
  let table ← Value.define path name v table
  return (table, skipSpaces rest)

/-- The rest of a table in braces, from one of its keys on. -/
def inlineRest (value : Scan Value) : Nat → Value → Scan Value
  | 0, _, _ => none
  | fuel + 1, table, cs => do
    let (table, rest) ← keyValue value table cs
    match rest with
    | ',' :: rest => inlineRest value fuel table rest
    | '}' :: rest => return (table, rest)
    | _ => none

def inlineTable (value : Scan Value) (cs : List Char) : Option (Value × List Char) :=
  match skipSpaces cs with
  | '}' :: rest => some (.table .closed [], rest)
  | cs => inlineRest value (cs.length + 1) (.table .closed []) cs

/-- A value in which others nest no deeper than `depth`. -/
def value : Nat → Scan Value
  | 0, cs => scalar cs
  | depth + 1, cs =>
    match cs with
    | '[' :: rest => (arrayRest (value depth) (rest.length + 1) rest).map fun (vs, rest) =>
        (.array false vs, rest)
    | '{' :: rest => inlineTable (value depth) rest
    | _ => scalar cs

end Scan

/-- A document as far as it has been read: the root table, and the header that new keys belong
under. -/
structure Document where
  root : Value := .table .header []
  header : List String := []

namespace Document

open Scan

def tableHeader (d : Document) (cs : List Char) : Option (Document × List Char) := do
  let ((path, name), rest) ← key cs
  let rest ← expect ']' rest
  let root ← d.root.update false (Value.openTable name) path
  return ({ root, header := path ++ [name] }, rest)

def arrayHeader (d : Document) (cs : List Char) : Option (Document × List Char) := do
  let ((path, name), rest) ← key cs
  let rest ← expect ']' rest
  let rest ← expect ']' rest
  let root ← d.root.update false (Value.appendTable name) path
  return ({ root, header := path ++ [name] }, rest)

def entry (d : Document) (cs : List Char) : Option (Document × List Char) := do
  let ((path, name), rest) ← key cs
  let rest ← expect '=' rest
  let (v, rest) ← value depthLimit (skipSpaces rest)
  let root ← d.root.update false (Value.define path name v) d.header
  return ({ d with root }, rest)

def line (d : Document) (cs : List Char) : Option (Document × List Char) :=
  match cs with
  | [] => some (d, [])
  | '#' :: _ => some (d, cs)
  | '\n' :: _ => some (d, cs)
  | '\r' :: _ => some (d, cs)
  | '[' :: '[' :: rest => d.arrayHeader rest
  | '[' :: rest => d.tableHeader rest
  | _ => d.entry cs

/-- Read lines to the end of the text. Each takes at least one character, so a text has no more
lines than characters. -/
def lines : Nat → Document → List Char → Option Document
  | _, d, [] => some d
  | 0, _, _ => none
  | fuel + 1, d, cs => do
    let (d, rest) ← d.line (skipSpaces cs)
    let rest ← endLine rest
    lines fuel d rest

/-- The root table of a text. A byte order mark in front is passed over. -/
def parse (text : String) : Option Value :=
  let cs :=
    match text.toList with
    | '\ufeff' :: rest => rest
    | cs => cs
  (lines cs.length {} cs).map Document.root

end Document

end SceneBridge.Toml
