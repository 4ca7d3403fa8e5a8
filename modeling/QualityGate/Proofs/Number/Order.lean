import Mathlib.Data.Int.Order.Basic
import Mathlib.Data.Prod.Lex

/-!
# The order of numbers

Floating-point numbers are compared by class first, from minus infinity up to plus infinity, and
within the finite numbers of one sign by exponent and mantissa.  These make up a key in a linear
order, from which the laws of comparison follow.  NaN has no key: it is neither below nor above
anything.
-/

namespace QualityGate
namespace Number

open Float.Model

/-- What numbers are compared by: class, exponent and mantissa. -/
abbrev Key := Int ×ₗ Int ×ₗ Int

namespace Key

/-- The key with the given parts. -/
def of (sort exponent mantissa : Int) : Key :=
  toLex (sort, toLex (exponent, mantissa))

theorem of_lt_of_iff (sort exponent mantissa sort' exponent' mantissa' : Int) :
    of sort exponent mantissa < of sort' exponent' mantissa' ↔
      sort < sort' ∨
        sort = sort' ∧ (exponent < exponent' ∨ exponent = exponent' ∧ mantissa < mantissa') := by
  simp only [of, Prod.Lex.toLex_lt_toLex]

theorem of_eq_of_iff (sort exponent mantissa sort' exponent' mantissa' : Int) :
    of sort exponent mantissa = of sort' exponent' mantissa' ↔
      sort = sort' ∧ exponent = exponent' ∧ mantissa = mantissa' := by
  simp only [of, EmbeddingLike.apply_eq_iff_eq, Prod.mk.injEq]

end Key

/-- The key of an unpacked number.  The two zeros have the same one, and the order of negative
numbers is turned round. -/
def keyOf? : UnpackedFloat → Option Key
  | .notANumber => none
  | .infinity .negative => some (.of (-2) 0 0)
  | .finite .negative mantissa exponent _ => some (.of (-1) (-exponent) (-mantissa))
  | .zero _ => some (.of 0 0 0)
  | .finite .positive mantissa exponent _ => some (.of 1 exponent mantissa)
  | .infinity .positive => some (.of 2 0 0)

/-- One unpacked number is below another exactly if its key is. -/
theorem compare_eq_lt_iff (first second : UnpackedFloat) :
    first.compare second = some .lt ↔
      ∃ key ∈ keyOf? first, ∃ key' ∈ keyOf? second, key < key' := by
  rcases first with (_ | _) | _ | _ | ⟨_ | _, mantissa, exponent, _⟩ <;>
    rcases second with (_ | _) | _ | _ | ⟨_ | _, mantissa', exponent', _⟩ <;>
    dsimp only [UnpackedFloat.compare, keyOf?] <;>
    simp [Key.of_lt_of_iff, Ordering.then_eq_lt, Ordering.then_eq_gt, compare_lt_iff_lt,
      compare_gt_iff_gt]
  decide

/-- Unpacked numbers are equal exactly if their keys are. -/
theorem compare_eq_eq_iff (first second : UnpackedFloat) :
    first.compare second = some .eq ↔
      ∃ key ∈ keyOf? first, ∃ key' ∈ keyOf? second, key = key' := by
  rcases first with (_ | _) | _ | _ | ⟨_ | _, mantissa, exponent, _⟩ <;>
    rcases second with (_ | _) | _ | _ | ⟨_ | _, mantissa', exponent', _⟩ <;>
    dsimp only [UnpackedFloat.compare, keyOf?] <;>
    simp [Key.of_eq_of_iff, Ordering.then_eq_eq]
  · decide
  · decide
  · omega
  · omega

/-- One number is below another exactly if its key is. -/
theorem lt_iff (first second : Float) :
    first < second ↔
      ∃ key ∈ keyOf? first.toModel.unpack, ∃ key' ∈ keyOf? second.toModel.unpack, key < key' := by
  have unfolded : first < second ↔ first.toModel.unpack.lt second.toModel.unpack = true :=
    decide_eq_true_iff
  rw [unfolded, UnpackedFloat.lt, beq_iff_eq, compare_eq_lt_iff]

/-- One number is not above another exactly if its key is not. -/
theorem le_iff (first second : Float) :
    first ≤ second ↔
      ∃ key ∈ keyOf? first.toModel.unpack, ∃ key' ∈ keyOf? second.toModel.unpack, key ≤ key' := by
  have unfolded : first ≤ second ↔ first.toModel.unpack.le second.toModel.unpack = true :=
    decide_eq_true_iff
  rw [unfolded, UnpackedFloat.le, Option.any_eq_true]
  constructor
  · rintro ⟨order, compared, isLE⟩
    cases order with
    | lt =>
      obtain ⟨key, isKey, key', isKey', below⟩ := (compare_eq_lt_iff _ _).mp compared
      exact ⟨key, isKey, key', isKey', below.le⟩
    | eq =>
      obtain ⟨key, isKey, key', isKey', equal⟩ := (compare_eq_eq_iff _ _).mp compared
      exact ⟨key, isKey, key', isKey', equal.le⟩
    | gt => cases isLE
  · rintro ⟨key, isKey, key', isKey', atMost⟩
    rcases atMost.lt_or_eq with below | equal
    · exact ⟨.lt, (compare_eq_lt_iff _ _).mpr ⟨key, isKey, key', isKey', below⟩, rfl⟩
    · exact ⟨.eq, (compare_eq_eq_iff _ _).mpr ⟨key, isKey, key', isKey', equal⟩, rfl⟩

/-- What is below a number is below every number that the first one is not above. -/
theorem lt_of_lt_of_le
    {first second third : Float}
    (below : first < second)
    (atMost : second ≤ third) :
    first < third := by
  obtain ⟨key, isKey, middle, isMiddle, before⟩ := (lt_iff first second).mp below
  obtain ⟨middle', isMiddle', last, isLast, after⟩ := (le_iff second third).mp atMost
  cases Option.mem_unique isMiddle isMiddle'
  exact (lt_iff first third).mpr ⟨key, isKey, last, isLast, before.trans_le after⟩

/-- NaN is what has no key. -/
theorem isNaN_iff (number : Float) :
    number.isNaN = true ↔ keyOf? number.toModel.unpack = none := by
  have unfolded : number.isNaN = number.toModel.unpack.isNaN := rfl
  rw [unfolded]
  cases number.toModel.unpack with
  | notANumber => exact iff_of_true rfl rfl
  | infinity sign => cases sign <;> exact iff_of_false nofun nofun
  | zero sign => exact iff_of_false nofun nofun
  | finite sign => cases sign <;> exact iff_of_false nofun nofun

/-- A number that is neither NaN nor at most another number is above it. -/
theorem not_le_iff
    (first second : Float) :
    ¬first ≤ second ↔ first.isNaN = true ∨ second.isNaN = true ∨ second < first := by
  rw [le_iff, lt_iff, isNaN_iff, isNaN_iff]
  cases keyOf? first.toModel.unpack with
  | none => simp
  | some key =>
    cases keyOf? second.toModel.unpack with
    | none => simp
    | some key' => simp

end Number
end QualityGate
