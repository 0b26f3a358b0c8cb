/-
Named registers.

A register holds one value under a name.  Putting a value under a name that is taken
replaces the old one in its place.
-/
namespace Inference.Session

/-- Values under names. -/
abbrev Registers (α : Type) := List (String × α)

namespace Registers

variable {α : Type}

/-- The value under a name. -/
def get? (registers : Registers α) (name : String) : Option α :=
  (registers.find? fun entry => entry.1 == name).map (·.2)

/-- Puts a value under a name. -/
def put (registers : Registers α) (name : String) (value : α) : Registers α :=
  match registers with
  | [] => [(name, value)]
  | entry :: rest => if entry.1 == name then (name, value) :: rest else entry :: put rest name value

/-- Empties the register of a name. -/
def clear (registers : Registers α) (name : String) : Registers α :=
  registers.filter fun entry => entry.1 != name

end Registers

end Inference.Session
