import SceneBridge.Text.Control

/-!
# Log lines

Lines are values: a computation that reports something returns the lines beside its result, in the
order in which they were written. `Logged` is that pair; sequencing two logged computations
concatenates their lines.
-/

namespace SceneBridge

/-- Severities, most severe first. -/
inductive LogLevel
  | error
  | warn
  | info
  | debug
  | trace
deriving DecidableEq, Inhabited

namespace LogLevel

def verbosity : LogLevel → Nat
  | error => 1
  | warn => 2
  | info => 3
  | debug => 4
  | trace => 5

def label : LogLevel → String
  | error => "ERROR"
  | warn => "WARN"
  | info => "INFO"
  | debug => "DEBUG"
  | trace => "TRACE"

def all : List LogLevel := [error, warn, info, debug, trace]

/-- The verbosity a name in a filter stands for, in any case; `off` is zero. -/
def verbosityOf? (name : String) : Option Nat :=
  let upper := name.map Char.toUpper
  if upper = "OFF" then some 0
  else (all.find? fun level => level.label = upper).map verbosity

end LogLevel

structure LogLine where
  level : LogLevel
  target : String
  text : String
deriving DecidableEq

namespace LogLine

/-- Severity, target and text without control characters; a line break in the text goes on with an
indented line. -/
def render (line : LogLine) : List String :=
  let indented := "\n    ".intercalate (line.text.splitOn "\n")
  let plain := String.ofList (Text.plain indented.toList)
  (line.level.label ++ " " ++ line.target ++ ": " ++ plain).splitOn "\n"

end LogLine

structure Logged (α : Type) where
  value : α
  log : List LogLine := []

namespace Logged

variable {α β : Type}

def write (level : LogLevel) (target text : String) : Logged Unit :=
  { value := (), log := [{ level, target, text }] }

instance : Monad Logged where
  pure a := { value := a }
  bind x f :=
    let y := f x.value
    { value := y.value, log := x.log ++ y.log }

@[simp] theorem value_pure (a : α) : (pure a : Logged α).value = a := rfl

@[simp] theorem log_pure (a : α) : (pure a : Logged α).log = [] := rfl

@[simp] theorem value_bind (x : Logged α) (f : α → Logged β) :
    (x >>= f).value = (f x.value).value := rfl

@[simp] theorem log_bind (x : Logged α) (f : α → Logged β) :
    (x >>= f).log = x.log ++ (f x.value).log := rfl

@[simp] theorem value_foldlM (f : β → α → Logged β) (b : β) (xs : List α) :
    (xs.foldlM f b).value = xs.foldl (fun b x => (f b x).value) b := by
  induction xs generalizing b with
  | nil => rfl
  | cons x xs ih => rw [List.foldlM_cons, value_bind, ih, List.foldl_cons]

end Logged

end SceneBridge
