import SceneBridge.Toml.Scan

/-!
# TOML numbers and dates

Digits may be grouped by single underscores between them. An integer fits 64 bits with sign. A
fraction or an exponent makes a floating-point number, which is the one nearest to the decimal; one
too large is refused, unless it is negative. Dates and times are checked and otherwise dropped.
-/

namespace SceneBridge.Toml

namespace Scan

def isDigit (c : Char) : Bool := '0' ≤ c && c ≤ '9'

/-- The rest of a run of digits of one base; an underscore must stand between two of them. -/
def digitsRest (isBaseDigit : Char → Bool) : List Char → Option (List Char × List Char)
  | '_' :: c :: rest =>
    if isBaseDigit c then do
      let (ds, rest) ← digitsRest isBaseDigit rest
      return (c :: ds, rest)
    else none
  | c :: rest =>
    if isBaseDigit c then do
      let (ds, rest) ← digitsRest isBaseDigit rest
      return (c :: ds, rest)
    else if c = '_' then none
    else some ([], c :: rest)
  | [] => some ([], [])

def digits (isBaseDigit : Char → Bool) : Scan (List Char)
  | c :: rest =>
    if isBaseDigit c then do
      let (ds, rest) ← digitsRest isBaseDigit rest
      return (c :: ds, rest)
    else none
  | [] => none

/-- An optional sign: whether it is a minus, and the rest. -/
def sign : List Char → Bool × List Char
  | '+' :: rest => (false, rest)
  | '-' :: rest => (true, rest)
  | cs => (false, cs)

/-- The digits of a decimal integer; a zero stands alone. -/
def decimalDigits : Scan (List Char)
  | '0' :: rest => some (['0'], rest)
  | cs => digits isDigit cs

def signedOf (negative : Bool) (n : Nat) : Int := if negative then -(n : Int) else n

/-- Integers have 64 bits. -/
def fits (n : Int) : Bool := Int64.minValue.toInt ≤ n && n ≤ Int64.maxValue.toInt

def based (base : Nat) (isBaseDigit : Char → Bool) (cs : List Char) :
    Option (Int × List Char) := do
  let (ds, rest) ← digits isBaseDigit cs
  let n : Int := Text.numberOf base ds
  if fits n then return (n, rest) else none

/-- An integer, decimal or in a base given by its first two characters. -/
def integer : Scan Int
  | '0' :: 'x' :: rest => based 16 (fun c => (Text.hexDigit? c).isSome) rest
  | '0' :: 'o' :: rest => based 8 (fun c => '0' ≤ c && c ≤ '7') rest
  | '0' :: 'b' :: rest => based 2 (fun c => c = '0' || c = '1') rest
  | cs => do
    let (negative, rest) := sign cs
    let (ds, rest) ← decimalDigits rest
    let n := signedOf negative (Text.numberOf 10 ds)
    if fits n then return (n, rest) else none

/-! ## Floating point -/

/-- The binary64 number nearest to `n · 10 ^ e`. Exponents out of all proportion are settled without
their power: the result is zero or infinite. -/
def nearestFloat (n : Nat) (e : Int) : Float :=
  let magnitude : Int := (Nat.toDigits 10 n).length + e
  if n = 0 || magnitude < -400 then 0.0
  else if 400 < magnitude then 1.0 / 0.0
  else Float.ofScientific n (e < 0) e.natAbs

def fraction : Scan (List Char)
  | '.' :: rest => digits isDigit rest
  | _ => none

/-- The power of ten after an `e`. -/
def exponent : Scan Int
  | c :: rest =>
    if c = 'e' || c = 'E' then do
      let (negative, rest) := sign rest
      let (ds, rest) ← digits isDigit rest
      return (signedOf negative (Text.numberOf 10 ds), rest)
    else none
  | [] => none

def floatParts (cs : List Char) : Option ((List Char × Int) × List Char) := do
  let (whole, rest) ← decimalDigits cs
  match rest with
  | '.' :: _ => do
    let (places, rest) ← fraction rest
    let shift : Int := places.length
    match rest with
    | c :: _ =>
      if c = 'e' || c = 'E' then do
        let (e, rest) ← exponent rest
        return ((whole ++ places, e - shift), rest)
      else return ((whole ++ places, -shift), rest)
    | [] => return ((whole ++ places, -shift), rest)
  | _ => do
    let (e, rest) ← exponent rest
    return ((whole, e), rest)

def float (cs : List Char) : Option (Float × List Char) :=
  let (negative, unsigned) := sign cs
  let signed := fun x : Float => if negative then -x else x
  match unsigned with
  | 'i' :: 'n' :: 'f' :: rest => some (signed (1.0 / 0.0), rest)
  | 'n' :: 'a' :: 'n' :: rest => some (0.0 / 0.0, rest)
  | _ => do
    let ((ds, e), rest) ← floatParts unsigned
    let x := nearestFloat (Text.numberOf 10 ds) e
    if x.isInf && !negative then none else return (signed x, rest)

/-! ## Dates and times -/

def fixedDigits (count : Nat) (cs : List Char) : Option (Nat × List Char) :=
  let ds := cs.take count
  if ds.length = count && ds.all isDigit then some (Text.numberOf 10 ds, cs.drop count) else none

def twoDigits (low high : Nat) (cs : List Char) : Option (Nat × List Char) := do
  let (n, rest) ← fixedDigits 2 cs
  if low ≤ n && n ≤ high then return (n, rest) else none

def isLeapYear (year : Nat) : Bool := year % 4 = 0 && (year % 100 ≠ 0 || year % 400 = 0)

def daysInMonth (year month : Nat) : Nat :=
  if month = 2 then (if isLeapYear year then 29 else 28)
  else if month = 4 || month = 6 || month = 9 || month = 11 then 30
  else 31

def date (cs : List Char) : Option (List Char) := do
  let (year, rest) ← fixedDigits 4 cs
  let rest ← expect '-' rest
  let (month, rest) ← twoDigits 1 12 rest
  let rest ← expect '-' rest
  let (_, rest) ← twoDigits 1 (daysInMonth year month) rest
  return rest

def time (cs : List Char) : Option (List Char) := do
  let (_, rest) ← twoDigits 0 23 cs
  let rest ← expect ':' rest
  let (_, rest) ← twoDigits 0 59 rest
  let rest ← expect ':' rest
  let (_, rest) ← twoDigits 0 60 rest
  match rest with
  | '.' :: c :: places => if isDigit c then return places.dropWhile isDigit else none
  | '.' :: [] => none
  | rest => return rest

def offset : List Char → Option (List Char)
  | 'Z' :: rest => some rest
  | 'z' :: rest => some rest
  | c :: rest =>
    if c = '+' || c = '-' then do
      let (_, rest) ← twoDigits 0 23 rest
      let rest ← expect ':' rest
      let (_, rest) ← twoDigits 0 59 rest
      return rest
    else some (c :: rest)
  | [] => some []

/-- What follows a date, a time, or a date with a time. -/
def datetime (cs : List Char) : Option (List Char) :=
  match date cs with
  | some rest =>
    match rest with
    | c :: afterMark =>
      if c = 'T' || c = 't' || c = ' ' then
        match time afterMark with
        | some rest => offset rest
        | none => some rest
      else some rest
    | [] => some []
  | none => time cs

end Scan

end SceneBridge.Toml
