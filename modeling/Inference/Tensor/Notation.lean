/-
Descriptors as text.

Dimensions are written `3:224:224:1`, types `uint8`, names as they are; the entries of
several tensors stand side by side with commas between them.  White space around an
entry or an extent does not matter.  A text that is read sets the number of tensors to
the number of its entries; what the text does not mention stays as it was.

A standard descriptor prints four extents per tensor.  An extended one prints as many
as are needed to show the last extent that is not one, and never fewer than four.
-/
import Inference.Tensor.Descriptor
import Inference.Text.Split
import Inference.Text.Blank

namespace Inference.Descriptor

/-- Entries of a list written with commas, without the white space around them. -/
def entries (text : List Char) : List (List Char) := (Text.split ',' text).map Text.trim

/-! ### Printing -/

/-- The axes that are written: trailing ones are left out, but not the first four axes. -/
def shownAxes (axes : List UInt32) : List UInt32 :=
  let needed := (axes.reverse.dropWhile (· == 1)).length
  axes.take (max (max needed 1) (min axes.length RankClass.standard.limit))

/-- The extents of one tensor. -/
def showExtents (axes : List UInt32) : List Char :=
  Text.join [':'] ((shownAxes axes).map fun axis => Text.decimal axis.toNat)

/-- The dimensions of all tensors. -/
def dimensionsText (d : Descriptor) : String :=
  String.ofList (Text.join [','] (d.tensors.map fun tensor =>
    showExtents (tensor.shape.used d.rank)))

/-- The types of all tensors. -/
def typesText (d : Descriptor) : String :=
  String.ofList (Text.join [','] (d.tensors.map fun tensor => tensor.type.name.toList))

/-- The names of all tensors; a missing name is written as nothing. -/
def namesText (d : Descriptor) : String :=
  String.ofList (Text.join [','] (d.tensors.map fun tensor => (tensor.name.getD "").toList))

/-! ### Reading -/

/-- Reads one extent: a number from one up to the largest 32-bit word. -/
def readExtent? (text : List Char) : Option UInt32 :=
  match Text.readBelow? shortWordLimit (Text.trim text) with
  | some value => if value = 0 then none else some (UInt32.ofNat value)
  | none => none

/-- Text in single quotes. -/
def quoted (text : List Char) : String := "'" ++ String.ofList text ++ "'"

/-- Reads the extents of one tensor. -/
def readExtents (rank : RankClass) (text : List Char) : Except Fault (List UInt32) := do
  let extents ← (Text.split ':' text).mapM fun part =>
    match readExtent? part with
    | some extent => Except.ok extent
    | none => .error (.invalidParameter ("invalid dimension " ++ quoted part ++ " in "
        ++ quoted text))
  if extents.length > rank.limit then
    .error (.invalidParameter (quoted text ++ " has rank " ++ Text.showNat extents.length
      ++ ", the limit is " ++ Text.showNat rank.limit))
  else .ok extents

/-- Reads one type. -/
def readType (text : List Char) : Except Fault ElementType :=
  match ElementType.ofName? text with
  | some type => .ok type
  | none => .error (.invalidParameter ("unknown tensor type " ++ quoted text))

/-- Writes a value into each entry in turn, from `index` on, until one is refused. -/
def writeFrom {α : Type} (write : Descriptor → Nat → α → Edited Unit) (index : Nat) :
    List α → Descriptor → Edited Unit
  | [], d => (.ok (), d)
  | value :: rest, d =>
    match write d index value with
    | (.ok (), d) => writeFrom write (index + 1) rest d
    | (.error fault, d) => (.error fault, d)

/-- Gives the descriptor as many tensors as there are values, and writes one into each. -/
def writeAll {α : Type} (write : Descriptor → Nat → α → Edited Unit) (values : List α)
    (d : Descriptor) : Edited Unit :=
  (d.setCount values.length).andThen (writeFrom write 0 values)

/-- Sets the dimensions of all tensors from text. -/
def setDimensionsText (d : Descriptor) (text : String) : Edited Unit :=
  match (entries text.toList).mapM (readExtents d.rank) with
  | .error fault => (.error fault, d)
  | .ok shapes => writeAll setExtents shapes d

/-- Sets the types of all tensors from text. -/
def setTypesText (d : Descriptor) (text : String) : Edited Unit :=
  match (entries text.toList).mapM readType with
  | .error fault => (.error fault, d)
  | .ok types => writeAll setType types d

/-- The name an entry stands for; an empty entry is no name. -/
def readName (text : List Char) : Option String :=
  if text.isEmpty then none else some (String.ofList text)

/-- Sets the names of all tensors from text. -/
def setNamesText (d : Descriptor) (text : String) : Edited Unit :=
  writeAll setName ((entries text.toList).map readName) d

end Inference.Descriptor
