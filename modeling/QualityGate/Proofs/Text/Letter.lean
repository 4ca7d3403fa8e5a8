import QualityGate.Text.Letter
import Mathlib.Data.List.Basic

/-!
# Lowercase of basic texts

Texts that differ from a basic one only in the case of the letters `A` to `Z` are basic themselves,
and have the same lowercase form.
-/

namespace QualityGate
namespace Text

/-- What holds of all basic characters can be checked for one after the other. -/
theorem of_basic
    (holds : Char → Prop)
    (checked : ∀ code < 128, holds (Char.ofNat code))
    {character : Char}
    (basic : character.toNat < 128) :
    holds character := by
  rw [← Char.ofNat_toNat character]
  exact checked _ basic

/-- A character with a basic lowercase form is basic. -/
theorem toNat_lt_of_toLower
    {character : Char}
    (basic : character.toLower.toNat < 128) :
    character.toNat < 128 := by
  unfold Char.toLower at basic
  split at basic
  · rename_i upper
    have atMost : character.toNat ≤ 'Z'.toNat := upper.2
    exact Nat.lt_of_le_of_lt atMost (by decide)
  · exact basic

/-- Only the empty text has an empty lowercase form. -/
theorem lower_ne_empty {text : String} (nonempty : text ≠ "") : lower text ≠ "" := by
  cases characters : text.toList with
  | nil => exact absurd (String.toList_eq_nil_iff.mp characters) nonempty
  | cons character following =>
    intro empty
    rw [← String.toList_eq_nil_iff, lower, onCharacters, String.toList_ofList, characters,
      lowerFrom, List.append_eq_nil_iff] at empty
    have nothing := empty.1
    split at nothing
    · cases nothing
    · unfold lowerCharacter at nothing
      split at nothing
      · cases nothing
      · split at nothing <;> cases nothing

/-- The lowercase form of a basic text is taken letter by letter. -/
theorem lowerFrom_of_basic
    (passed : List Char)
    {characters : List Char}
    (basic : ∀ character ∈ characters, character.toNat < 128) :
    lowerFrom passed characters = characters.map Char.toLower := by
  induction characters generalizing passed with
  | nil => rfl
  | cons character following inductionHypothesis =>
    have here := basic character List.mem_cons_self
    have noSigma : (character == 'Σ') = false := by
      rw [beq_eq_false_iff_ne]
      rintro rfl
      exact absurd here (by decide)
    rw [lowerFrom, noSigma, lowerCharacter, if_pos here,
      inductionHypothesis _ fun other member => basic other (List.mem_cons_of_mem _ member)]
    rfl

/-- A text that is a basic one up to the case of letters has the same lowercase form. -/
theorem lower_eq_of_equalIgnoringCase
    {text other : String}
    (equal : equalIgnoringCase text other = true)
    (basic : ∀ character ∈ other.toList, character.toLower.toNat < 128) :
    lower text = lower other := by
  have same : text.toList.map Char.toLower = other.toList.map Char.toLower := by
    simpa [equalIgnoringCase] using equal
  have textBasic : ∀ character ∈ text.toList, character.toNat < 128 := by
    intro character member
    apply toNat_lt_of_toLower
    have lowered : character.toLower ∈ other.toList.map Char.toLower := by
      rw [← same]
      exact List.mem_map_of_mem member
    obtain ⟨counterpart, isCounterpart, equal⟩ := List.mem_map.mp lowered
    rw [← equal]
    exact basic counterpart isCounterpart
  have otherBasic : ∀ character ∈ other.toList, character.toNat < 128 :=
    fun character member => toNat_lt_of_toLower (basic character member)
  rw [lower, lower, onCharacters, onCharacters, lowerFrom_of_basic [] textBasic,
    lowerFrom_of_basic [] otherBasic, same]

end Text
end QualityGate
