/-!
# Words of a fixed width

Numbers in documents and on command lines are kept in words.  A width in bits gives the bound of the
natural numbers that fit, and the range of the integers that fit.
-/

namespace QualityGate
namespace Word

/-- The natural numbers below this bound have the given width in bits. -/
def bound (width : Nat) : Nat :=
  Nat.pow 2 width

/-- The integer lies from the least one of `low + 1` bits up to the greatest natural number of
`high` bits. -/
def spans (low high : Nat) (value : Int) : Bool :=
  -(bound low : Int) ≤ value && value < (bound high : Int)

end Word
end QualityGate
