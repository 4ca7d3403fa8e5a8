import QualityGate.Text.Basic
import Mathlib.Data.List.DropRight

/-!
# The ends of texts

A text without the blanks at its ends has no further blanks to lose, and a text does not begin in
two ways that exclude each other.
-/

namespace QualityGate
namespace Text

theorem dropEnd_eq_rdropWhile (accepts : Char → Bool) (characters : List Char) :
    dropEnd accepts characters = characters.rdropWhile accepts := rfl

/-- What was removed at the front does not come back when something is removed at the back. -/
theorem dropStart_dropEnd_dropStart (accepts : Char → Bool) (characters : List Char) :
    dropStart accepts (dropEnd accepts (dropStart accepts characters)) =
      dropEnd accepts (dropStart accepts characters) := by
  rw [dropEnd_eq_rdropWhile]
  refine List.dropWhile_eq_self_iff.mpr fun nonempty => ?_
  -- the first character that is left is the first one behind what was removed at the front
  have isPrefix := List.rdropWhile_prefix accepts (dropStart accepts characters)
  rw [isPrefix.getElem nonempty]
  exact List.dropWhile_get_zero_not accepts characters (nonempty.trans_le isPrefix.length_le)

theorem strip_strip (characters : List Char) : strip (strip characters) = strip characters := by
  unfold strip
  rw [dropStart_dropEnd_dropStart, dropEnd_eq_rdropWhile, dropEnd_eq_rdropWhile,
    List.rdropWhile_idempotent]

@[simp] theorem trim_trim (text : String) : trim (trim text) = trim text := by
  simp [trim, onCharacters, strip_strip]

/-- An ending that is not there is not removed. -/
theorem dropEndings_of_not_suffix
    {ending characters : List Char}
    (absent : ¬ending <:+ characters)
    (fuel : Nat) :
    dropEndings ending fuel characters = characters := by
  cases fuel with
  | zero => rfl
  | succ fuel =>
    have notThere : ending.isSuffixOf characters = false := by
      rw [← Bool.not_eq_true, List.isSuffixOf_iff_suffix]
      exact absent
    rw [dropEndings, notThere, Bool.and_false, if_neg Bool.false_ne_true]

/-- A text does not begin in a way that its own beginning excludes. -/
theorem startsWith_append_eq_false
    {start wanted : String}
    (notShorter : ¬wanted.toList <+: start.toList)
    (notLonger : ¬start.toList <+: wanted.toList)
    (ending : String) :
    startsWith (start ++ ending) wanted = false := by
  rw [startsWith, ← Bool.not_eq_true, List.isPrefixOf_iff_prefix, String.toList_append]
  intro begins
  rcases List.prefix_or_prefix_of_prefix begins (List.prefix_append _ _) with shorter | longer
  · exact notShorter shorter
  · exact notLonger longer

end Text
end QualityGate
