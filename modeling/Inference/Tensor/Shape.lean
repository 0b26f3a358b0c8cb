/-
Shapes of tensors.

A shape always stores sixteen axes.  How many of them may differ from one depends on
the rank class of the descriptor that holds the shape: four in a standard descriptor,
all sixteen in an extended one.  Axes nobody has set are zero.
-/
namespace Inference

/-- Number of axes every shape stores. -/
def axisCount : Nat := 16

/-- How many axes of its shapes a descriptor uses. -/
inductive RankClass where
  | standard
  | extended
  deriving DecidableEq, Repr, Inhabited

namespace RankClass

/-- Number of axes in use. -/
def limit : RankClass → Nat
  | standard => 4
  | extended => axisCount

theorem limit_le (rank : RankClass) : rank.limit ≤ axisCount := by
  cases rank <;> decide

end RankClass

/-- The extents of a tensor along its sixteen axes. -/
structure Shape where
  axes : List UInt32
  length_axes : axes.length = axisCount
  deriving DecidableEq

namespace Shape

/-- The shape of a tensor whose extents have not been set. -/
def unset : Shape := ⟨List.replicate axisCount 0, List.length_replicate⟩

instance : Inhabited Shape := ⟨unset⟩

/-- The given extents, followed by ones. -/
def ofList (extents : List UInt32) : Shape :=
  ⟨(extents ++ List.replicate axisCount 1).take axisCount, by simp⟩

/-- The shape with exactly these extents, if there are sixteen of them. -/
def ofAxes? (axes : List UInt32) : Option Shape :=
  if h : axes.length = axisCount then some ⟨axes, h⟩ else none

/-- The axes a descriptor of the given rank class uses. -/
def used (shape : Shape) (rank : RankClass) : List UInt32 := shape.axes.take rank.limit

/-- The axes beyond those in use. -/
def unused (shape : Shape) (rank : RankClass) : List UInt32 := shape.axes.drop rank.limit

end Shape

end Inference
