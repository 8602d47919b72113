/-!
# TOML values

A table remembers how it came to be, since that decides whether a later part of the document may
add to it. `Value.update` walks a dotted path and creates the tables it misses on the way;
`Value.define`, `Value.openTable` and `Value.appendTable` are what a key, a `[header]` and a
`[[header]]` do at the end of one.
-/

namespace SceneBridge.Toml

inductive TableForm
  /-- By a header of its own; the root counts as one. -/
  | header
  /-- As a step on the way to a longer header. -/
  | parent
  /-- As a step of a dotted key. -/
  | dotted
  /-- In braces; nothing can be added to it. -/
  | closed
deriving DecidableEq

inductive Value
  | text (s : String)
  | integer (n : Int)
  | number (x : Float)
  | boolean (b : Bool)
  /-- A date, a time or both. No setting is one, so which does not matter. -/
  | datetime
  /-- An array; `tables` marks one that is made of `[[header]]`s. -/
  | array (tables : Bool) (elements : List Value)
  | table (form : TableForm) (entries : List (String × Value))

abbrev Entries := List (String × Value)

namespace Value

def member? (v : Value) (key : String) : Option Value :=
  match v with
  | table _ entries => entries.lookup key
  | _ => none

def replaceEntry (key : String) (v : Value) (entries : Entries) : Entries :=
  entries.map fun (k, old) => if k = key then (k, v) else (k, old)

/-- Change the table at the end of a path. Steps that are missing are created: as `dotted` tables
for the path of a key, as `parent` tables for that of a header. A path leads through the last
element of an array of tables; through any other value, and for a key through a table that has a
header, it leads nowhere. -/
def update (dotted : Bool) (change : Value → Option Value) : List String → Value → Option Value
  | [], v => change v
  | key :: path, table form entries =>
    match entries.lookup key with
    | none => do
      let fresh := table (if dotted then .dotted else .parent) []
      let v ← update dotted change path fresh
      return table form (entries ++ [(key, v)])
    | some (array true elements) => do
      let last ← elements.getLast?
      let v ← update dotted change path last
      return table form (replaceEntry key (array true (elements.dropLast ++ [v])) entries)
    | some (table inner innerEntries) =>
      if inner = .closed || (dotted && inner = .header) then none
      else do
        let v ← update dotted change path (table inner innerEntries)
        return table form (replaceEntry key v entries)
    | some _ => none
  | _, _ => none

/-- Add a new key to a table. At the end of a dotted path only a table made by such paths will do,
and elsewhere only one that was not. -/
def define (path : List String) (key : String) (v : Value) : Value → Option Value :=
  update true
    (fun
      | table form entries =>
        if decide (form = .dotted) == path.isEmpty then none
        else if (entries.lookup key).isSome then none
        else some (table form (entries ++ [(key, v)]))
      | _ => none)
    path

/-- Begin the table of a header: a new one, or one that so far was only a step to a longer
header. -/
def openTable (key : String) : Value → Option Value
  | table form entries =>
    match entries.lookup key with
    | none => some (table form (entries ++ [(key, table .header [])]))
    | some (table .parent inner) => some (table form (replaceEntry key (table .header inner) entries))
    | some _ => none
  | _ => none

def appendTable (key : String) : Value → Option Value
  | table form entries =>
    match entries.lookup key with
    | none => some (table form (entries ++ [(key, array true [table .header []])]))
    | some (array true elements) =>
      some (table form (replaceEntry key (array true (elements ++ [table .header []])) entries))
    | some _ => none
  | _ => none

end Value

end SceneBridge.Toml
