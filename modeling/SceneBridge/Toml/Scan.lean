import SceneBridge.Text.Digit

/-!
# Scanning TOML

A scanner takes the characters still to be read and answers what it found with the characters after
it, or nothing. This module holds the scanners for what stands between values: blanks, comments,
line ends and keys, and the strings.
-/

namespace SceneBridge.Toml

abbrev Scan (α : Type) := List Char → Option (α × List Char)

namespace Scan

def isSpace (c : Char) : Bool := c = ' ' || c = '\t'

def skipSpaces (cs : List Char) : List Char := cs.dropWhile isSpace

/-- Tabs and all characters but control characters. -/
def isPlain (c : Char) : Bool := c = '\t' || (0x20 ≤ c.toNat && c.toNat ≠ 0x7f)

def expect (c : Char) : List Char → Option (List Char)
  | d :: rest => if d = c then some rest else none
  | [] => none

/-- A line feed, alone or after a carriage return. -/
def newline? : List Char → Option (List Char)
  | '\n' :: rest => some rest
  | '\r' :: '\n' :: rest => some rest
  | _ => none

def skipComment : List Char → List Char
  | '#' :: rest => rest.dropWhile isPlain
  | cs => cs

/-- The rest of a line that holds nothing more but blanks and a comment. -/
def endLine (cs : List Char) : Option (List Char) :=
  match skipComment (skipSpaces cs) with
  | [] => some []
  | rest => newline? rest

/-- Blanks, line ends and whole comments, as often as they come. -/
def skipLayoutWithin : Nat → List Char → Option (List Char)
  | 0, cs => some cs
  | fuel + 1, cs =>
    match skipSpaces cs with
    | '#' :: rest => do
      let rest ← newline? (rest.dropWhile isPlain)
      skipLayoutWithin fuel rest
    | rest =>
      match newline? rest with
      | some rest => skipLayoutWithin fuel rest
      | none => some rest

/-- Every round reads at least one character, so there are at most as many rounds as characters. -/
def skipLayout (cs : List Char) : Option (List Char) := skipLayoutWithin cs.length cs

/-! ## Strings -/

def hexNumber : Nat → Nat → Scan Nat
  | 0, value, cs => some (value, cs)
  | count + 1, value, c :: rest => do
    let digit ← Text.hexDigit? c
    hexNumber count (value * 16 + digit) rest
  | _, _, [] => none

def codePoint (digits : Nat) (cs : List Char) : Option (Char × List Char) := do
  let (code, rest) ← hexNumber digits 0 cs
  if code.isValidChar then return (Char.ofNat code, rest) else none

def escape : Scan Char
  | 'b' :: rest => some ('\x08', rest)
  | 't' :: rest => some ('\t', rest)
  | 'n' :: rest => some ('\n', rest)
  | 'f' :: rest => some ('\x0c', rest)
  | 'r' :: rest => some ('\r', rest)
  | '"' :: rest => some ('"', rest)
  | '\\' :: rest => some ('\\', rest)
  | 'u' :: rest => codePoint 4 rest
  | 'U' :: rest => codePoint 8 rest
  | _ => none

def basicRest : Nat → Scan (List Char)
  | 0, _ => none
  | _ + 1, '"' :: rest => some ([], rest)
  | fuel + 1, '\\' :: rest => do
    let (c, rest) ← escape rest
    let (cs, rest) ← basicRest fuel rest
    return (c :: cs, rest)
  | fuel + 1, c :: rest =>
    if isPlain c then do
      let (cs, rest) ← basicRest fuel rest
      return (c :: cs, rest)
    else none
  | _, [] => none

/-- The rest of a string in single quotes, in which nothing is escaped. -/
def literalRest : Scan (List Char)
  | [] => none
  | c :: rest =>
    if c = '\'' then some ([], rest)
    else if isPlain c then do
      let (cs, rest) ← literalRest rest
      return (c :: cs, rest)
    else none

/-- Blanks and line ends, as often as they come. -/
def skipBlankLines : List Char → List Char
  | '\r' :: '\n' :: rest => skipBlankLines rest
  | c :: rest => if isSpace c || c = '\n' then skipBlankLines rest else c :: rest
  | [] => []

/-- A backslash at the end of a line: it and the blanks and line ends after it count for nothing. -/
def lineContinuation? (cs : List Char) : Option (List Char) := do
  let rest ← newline? (skipSpaces cs)
  return skipBlankLines rest

/-- The end of a string over several lines: three quotes, of up to five the first ones still part of
the text. -/
def closing? (quote : Char) (cs : List Char) : Option (List Char × List Char) :=
  let count := min (cs.takeWhile (· = quote)).length 5
  if count < 3 then none else some (List.replicate (count - 3) quote, cs.drop count)

/-- The rest of a string over several lines. A line end in it is a line feed, however it is
written; `escapes` tells whether backslashes count. -/
def multilineRest (quote : Char) (escapes : Bool) : Nat → Scan (List Char)
  | 0, _ => none
  | fuel + 1, cs =>
    match closing? quote cs with
    | some found => some found
    | none =>
      match newline? cs with
      | some rest => do
        let (text, rest) ← multilineRest quote escapes fuel rest
        return ('\n' :: text, rest)
      | none =>
        match cs with
        | [] => none
        | c :: rest =>
          if escapes && c = '\\' then
            match lineContinuation? rest with
            | some rest => multilineRest quote escapes fuel rest
            | none => do
              let (c, rest) ← escape rest
              let (text, rest) ← multilineRest quote escapes fuel rest
              return (c :: text, rest)
          else if isPlain c then do
            let (text, rest) ← multilineRest quote escapes fuel rest
            return (c :: text, rest)
          else none

/-- A line end right after the opening quotes is no part of the text. -/
def multiline (quote : Char) (escapes : Bool) (cs : List Char) : Option (List Char × List Char) :=
  let cs := (newline? cs).getD cs
  multilineRest quote escapes (cs.length + 1) cs

def lineString : Scan String
  | '"' :: rest => do
    let (cs, rest) ← basicRest (rest.length + 1) rest
    return (String.ofList cs, rest)
  | '\'' :: rest => do
    let (cs, rest) ← literalRest rest
    return (String.ofList cs, rest)
  | _ => none

def string : Scan String
  | '"' :: '"' :: '"' :: rest => do
    let (cs, rest) ← multiline '"' true rest
    return (String.ofList cs, rest)
  | '\'' :: '\'' :: '\'' :: rest => do
    let (cs, rest) ← multiline '\'' false rest
    return (String.ofList cs, rest)
  | cs => lineString cs

/-! ## Keys -/

def isBareKeyChar (c : Char) : Bool := c.isAlphanum || c = '-' || c = '_'

/-- One part of a key, bare or in quotes. -/
def keyPart (cs : List Char) : Option (String × List Char) :=
  let bare := cs.takeWhile isBareKeyChar
  if bare.isEmpty then lineString cs else some (String.ofList bare, cs.dropWhile isBareKeyChar)

/-- Parts joined by dots, as many as `limit` allows, with the blanks around them. -/
def keyParts : Nat → Scan (List String)
  | 0, _ => none
  | limit + 1, cs => do
    let (part, rest) ← keyPart (skipSpaces cs)
    match skipSpaces rest with
    | '.' :: rest => do
      let (parts, rest) ← keyParts limit rest
      return (part :: parts, rest)
    | rest => return ([part], rest)

/-- How deep values may be nested, and of how many parts a key may consist. -/
def depthLimit : Nat := 79

/-- A key: the steps before its last part, and the last part. -/
def key (cs : List Char) : Option ((List String × String) × List Char) := do
  let (parts, rest) ← keyParts depthLimit cs
  let last ← parts.getLast?
  return ((parts.dropLast, last), rest)

end Scan

end SceneBridge.Toml
