/-
Arguments of a command.

An option is written `--name value` or `--name=value`.  A value that stands apart may not
start with a dash, unless it is the lone dash.  Everything else is positional, and behind
`--` so is everything.  A command line that breaks these rules, or names an option the
command does not have, is refused as a whole.
-/
import Inference.Text.Split
import Inference.Text.Numeral

namespace Inference

/-- The arguments of a command, each kind in the order given. -/
structure Arguments where
  options : List (String × String) := []
  positionals : List String := []
  deriving DecidableEq, Inhabited

namespace Arguments

/-- Puts an option in front. -/
def addOption (name value : String) (arguments : Arguments) : Arguments :=
  { arguments with options := (name, value) :: arguments.options }

/-- Puts a positional argument in front. -/
def addPositional (value : String) (arguments : Arguments) : Arguments :=
  { arguments with positionals := value :: arguments.positionals }

/-- How one argument reads by itself. -/
inductive Token where
  | endOfOptions
  /-- An option with its value, if the value stands in the same argument. -/
  | option (name : String) (value : Option String)
  /-- A dash and letters, which no command understands. -/
  | flag
  | plain (text : String)
  deriving DecidableEq, Repr

/-- Reads one argument. -/
def tokenOf (text : String) : Token :=
  match text.toList with
  | ['-', '-'] => .endOfOptions
  | '-' :: '-' :: rest =>
    match Text.cut? '=' rest with
    | some (name, value) => .option (String.ofList name) (some (String.ofList value))
    | none => .option (String.ofList rest) none
  | '-' :: _ :: _ => .flag
  | _ => .plain text

/-- Reads arguments; `waiting` is an option whose value has to come next. -/
def scan (known : List String) (waiting : Option String) : List String → Option Arguments
  | [] => if waiting.isSome then none else some {}
  | text :: rest =>
    match waiting, tokenOf text with
    | some name, .plain value => (scan known none rest).map (addOption name value)
    | some _, _ => none
    | none, .plain value => (scan known none rest).map (addPositional value)
    | none, .endOfOptions => some { positionals := rest }
    | none, .flag => none
    | none, .option name value =>
      if known.contains name then
        match value with
        | some value => (scan known none rest).map (addOption name value)
        | none => scan known (some name) rest
      else none

/-- Reads the arguments of a command with the given options. -/
def parse (known : List String) (arguments : List String) : Option Arguments :=
  scan known none arguments

/-- Every value given for an option. -/
def valuesOf (arguments : Arguments) (name : String) : List String :=
  (arguments.options.filter fun option => option.1 == name).map (·.2)

/-- The value of an option that may be given once; refused if it is given more often. -/
def atMostOne (arguments : Arguments) (name : String) : Option (Option String) :=
  match arguments.valuesOf name with
  | [] => some none
  | [value] => some (some value)
  | _ => none

/-- The value of an option that may be given once, read by `read?`. -/
def reading {α : Type} (arguments : Arguments) (name : String) (absent : α)
    (read? : List Char → Option α) : Option α := do
  match ← arguments.atMostOne name with
  | none => return absent
  | some value => read? value.toList

/-- Reads a number below `bound` that may carry a sign; below zero there is only minus zero. -/
def readCount? (bound : Nat) : List Char → Option Nat
  | '-' :: digits => (Text.readDecimal? digits).bind fun value => if value = 0 then some 0 else none
  | text => Text.readBelow? bound text

end Arguments

end Inference
