import Mathlib.Data.Int.Cast.Defs
import Mathlib.Order.Defs.Unbundled

/-!
# The numbers of a program

The arithmetic that a program does on its numbers, without any law. The definitions take
it as it comes, so that the results can choose: floats with their rounding, rationals
that compute, or reals.
-/

namespace UntitledGame

/-- The operations, the comparisons and the literals of a type of numbers. -/
class Scalar (F : Type*) extends Add F, Sub F, Mul F, Div F, Neg F, LT F, LE F, OfScientific F,
    NatCast F, IntCast F where
  decidableLT : DecidableLT F
  decidableLE : DecidableLE F

namespace Scalar

attribute [reducible, instance] decidableLT decidableLE

/-- A type that has them is one of numbers. -/
instance (priority := low) ofParts {F : Type*} [Add F] [Sub F] [Mul F] [Div F] [Neg F] [LT F]
    [LE F] [DecidableLT F] [DecidableLE F] [OfScientific F] [NatCast F] [IntCast F] :
    Scalar F where
  decidableLT := inferInstance
  decidableLE := inferInstance

end Scalar

end UntitledGame
