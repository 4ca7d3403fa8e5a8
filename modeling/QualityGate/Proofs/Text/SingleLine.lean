import QualityGate.Decimal
import QualityGate.Pattern
import QualityGate.Text.Quoted
import QualityGate.Proofs.Text.Letter
import QualityGate.Proofs.Text.Lines
import Mathlib.Data.List.DropRight

/-!
# Texts on a single line

A text without line feeds stays one whatever is cut off it, and is put together from such texts.
Neither numbers, nor quoted texts, nor lowercase forms have line feeds of their own.
-/

namespace QualityGate
namespace Text

/-- The text has no line feed. -/
def IsSingleLine (text : String) : Prop :=
  '\n' ∉ text.toList

instance : DecidablePred IsSingleLine :=
  fun text => inferInstanceAs (Decidable ('\n' ∉ text.toList))

variable {text other : String}

/-! ## Parts and wholes -/

theorem isSingleLine_ofList_iff (characters : List Char) :
    IsSingleLine (String.ofList characters) ↔ '\n' ∉ characters := by
  rw [IsSingleLine, String.toList_ofList]

@[simp] theorem isSingleLine_append_iff (first second : String) :
    IsSingleLine (first ++ second) ↔ IsSingleLine first ∧ IsSingleLine second := by
  simp [IsSingleLine, String.toList_append]

/-- What has no other characters than a text on a single line is on a single line. -/
theorem IsSingleLine.of_subset
    (single : IsSingleLine text)
    (subset : other.toList ⊆ text.toList) :
    IsSingleLine other :=
  fun inside => single (subset inside)

theorem isSingleLine_singleton_iff (character : Char) :
    IsSingleLine (String.singleton character) ↔ character ≠ '\n' := by
  rw [IsSingleLine, String.toList_singleton, List.mem_singleton, ne_comm]

/-- Texts with a separator between them are on a single line if each of them is. -/
theorem IsSingleLine.intercalate
    {separator : String}
    (single : IsSingleLine separator)
    {texts : List String}
    (singles : ∀ text ∈ texts, IsSingleLine text) :
    IsSingleLine (String.intercalate separator texts) := by
  induction texts with
  | nil => exact (by decide : IsSingleLine "")
  | cons first rest inductionHypothesis =>
    obtain ⟨firstSingle, restSingles⟩ := List.forall_mem_cons.mp singles
    cases rest with
    | nil => exact firstSingle
    | cons second others =>
      rw [String.intercalate_cons_of_ne_nil (List.cons_ne_nil second others)]
      simp [firstSingle, single, inductionHypothesis restSingles]

/-- A line is on a single line. -/
theorem isSingleLine_of_mem_lines {line : String} (member : line ∈ lines text) :
    IsSingleLine line :=
  not_mem_of_mem_lines member

/-! ## What is cut off -/

theorem strip_subset (characters : List Char) : strip characters ⊆ characters :=
  ((List.rdropWhile_prefix _ _).sublist.trans (List.dropWhile_sublist _)).subset

section Cut

variable (single : IsSingleLine text)
include single

theorem IsSingleLine.stretch (bounds : Nat × Nat) : IsSingleLine (Pattern.stretch text bounds) := by
  refine single.of_subset ?_
  rw [Pattern.stretch, String.toList_ofList]
  exact fun character inside => List.drop_subset _ _ (List.take_subset _ _ inside)

/-- What a pattern finds in a text on a single line is on a single line. -/
theorem IsSingleLine.findText?
    {pattern : Pattern}
    {found : String}
    (isFound : pattern.findText? text = some found) :
    IsSingleLine found := by
  obtain ⟨place, -, rfl⟩ := Option.map_eq_some_iff.mp isFound
  exact single.stretch _

theorem IsSingleLine.of_mem_splitWhere
    {accepts : Char → Bool}
    {piece : String}
    (member : piece ∈ splitWhere accepts text) :
    IsSingleLine piece := by
  obtain ⟨characters, isPiece, rfl⟩ := List.mem_map.mp member
  refine single.of_subset ?_
  rw [String.toList_ofList]
  exact subset_of_mem_splitOnP isPiece

theorem IsSingleLine.trim : IsSingleLine (trim text) := by
  refine single.of_subset ?_
  rw [Text.trim, onCharacters, String.toList_ofList]
  exact strip_subset text.toList

theorem IsSingleLine.truncate (limit : Nat) : IsSingleLine (truncate limit text) := by
  unfold Text.truncate
  split
  · exact single
  · rw [isSingleLine_append_iff, isSingleLine_ofList_iff]
    exact ⟨fun inside => single (List.take_subset _ _ inside), by decide⟩

end Cut

/-! ## Numbers and quoted texts -/

theorem digitChar_ne_lineFeed (digit : Nat) : Nat.digitChar digit ≠ '\n' := by
  by_cases small : digit < 16
  · exact (by decide : ∀ digit < 16, Nat.digitChar digit ≠ '\n') digit small
  · simp (disch := omega) only [Nat.digitChar, if_neg]
    decide

/-- No number has a line feed, whatever its base. -/
theorem not_mem_toDigits {base : Nat} (many : 1 < base) (value : Nat) :
    '\n' ∉ Nat.toDigits base value := by
  induction value using Nat.strong_induction_on with
  | _ value inductionHypothesis =>
    rw [Nat.toDigits_eq_if many]
    split
    · rw [List.mem_singleton]
      exact (digitChar_ne_lineFeed value).symm
    · rename_i large
      have smaller : value / base < value := Nat.div_lt_self (by omega) many
      rw [List.mem_append, List.mem_singleton, not_or]
      exact ⟨inductionHypothesis _ smaller, (digitChar_ne_lineFeed _).symm⟩

@[simp] theorem isSingleLine_decimal (value : Nat) : IsSingleLine (decimal value) := by
  rw [decimal, isSingleLine_ofList_iff]
  exact not_mem_toDigits (by decide) value

theorem not_mem_render (digits : Decimal.Digits) : '\n' ∉ digits.render := by
  have noLineFeed (value : Nat) : '\n' ∉ Nat.toDigits 10 value := not_mem_toDigits (by decide) value
  unfold Decimal.Digits.render
  extract_lets figures count point mark exponent
  have figures_apart : '\n' ∉ figures := noLineFeed _
  have exponent_apart : '\n' ∉ exponent := by
    simp only [exponent, List.mem_cons, not_or]
    exact ⟨by split <;> decide, noLineFeed _⟩
  clear_value figures exponent
  have taken (places : Nat) : '\n' ∉ figures.take places := fun inside =>
    figures_apart (List.take_subset _ _ inside)
  have left (places : Nat) : '\n' ∉ figures.drop places := fun inside =>
    figures_apart (List.drop_subset _ _ inside)
  split
  · simp [figures_apart]
  split
  · simp [taken, left]
  split
  · simp [figures_apart]
  · split
    · rename_i figure
      simp only [List.mem_singleton] at figures_apart
      simp [figures_apart, exponent_apart]
    · rename_i figure others _
      simp only [List.mem_cons, not_or] at figures_apart
      simp [figures_apart, exponent_apart]
    · exact List.not_mem_nil

/-- A number in its shortest decimal form has no line feed. -/
theorem isSingleLine_render (value : Float) : IsSingleLine (Decimal.render value) := by
  unfold Decimal.render
  extract_lets number sign
  have sign_apart : '\n' ∉ sign := by
    simp only [sign]
    split <;> decide
  split
  · rw [isSingleLine_ofList_iff]
    simp [sign_apart]
  · simp [isSingleLine_ofList_iff, sign_apart, not_mem_render]

theorem not_mem_quotedCharacter (character : Char) : '\n' ∉ quotedCharacter character := by
  unfold quotedCharacter
  split
  · decide
  · decide
  · decide
  · decide
  · decide
  · rename_i noLineFeed _ _
    split
    · decide
    · split
      · simpa [shortHex] using not_mem_toDigits (by decide) _
      · simpa using Ne.symm noLineFeed

/-- A line feed between quotes is escaped. -/
theorem isSingleLine_quoted (text : String) : IsSingleLine (quoted text) := by
  rw [quoted, isSingleLine_ofList_iff]
  simpa using fun character _ => not_mem_quotedCharacter character

/-! ## Lowercase -/

theorem stays_above_lineFeed : ∀ shift ∈ Table.toLowercase.shifts.toList,
    shift.upward = true ∨ 10 + shift.distance < shift.range.first := by
  unfold Table.toLowercase CodeShifts.ofLines
  simp only [List.flatMap_cons]
  -- the characters of a line of the table are read off its literal, which need not be decoded
  repeat rw [String.toList_ofList]
  decide +kernel

/-- No character beyond the basic block has a line feed as its lowercase form: what is moved down
stays above it. -/
theorem apply_toLowercase_ne {code : Nat} (notBasic : 128 ≤ code) :
    Table.toLowercase.apply code ≠ 10 := by
  rw [CodeShifts.apply]
  cases found : Table.toLowercase.shifts.findSome? fun shift => shift.image? code with
  | none =>
    rw [Option.getD_none]
    omega
  | some image =>
    obtain ⟨shift, isShift, image_eq⟩ := Array.exists_of_findSome?_eq_some found
    have above := stays_above_lineFeed shift (Array.mem_toList_iff.mpr isShift)
    unfold CodeShift.image? at image_eq
    split at image_eq
    · rename_i inside
      simp only [CodeRange.contains, Bool.and_eq_true, decide_eq_true_eq] at inside
      cases image_eq
      rw [Option.getD_some]
      split
      · omega
      · rename_i downward
        have := above.resolve_left downward
        omega
    · cases image_eq

theorem eq_of_ofNat_eq_lineFeed {code : Nat} (equal : Char.ofNat code = '\n') : code = 10 := by
  have code_eq : (Char.ofNat code).toNat = 10 := congrArg Char.toNat equal
  by_cases valid : code.isValidChar
  · rw [Char.ofNat, dif_pos valid] at code_eq
    exact code_eq
  · rw [Char.ofNat, dif_neg valid] at code_eq
    cases code_eq

theorem lineFeed_mem_lowerCharacter_iff (character : Char) :
    '\n' ∈ lowerCharacter character ↔ character = '\n' := by
  unfold lowerCharacter
  split
  · rename_i basic
    rw [List.mem_singleton]
    exact of_basic (fun character => '\n' = character.toLower ↔ character = '\n')
      (by decide +kernel) basic
  · rename_i notBasic
    have other : character ≠ '\n' := by
      rintro rfl
      exact notBasic (by decide)
    split
    · simp [other]
    · simp only [List.mem_singleton, other, iff_false]
      exact fun image_eq => apply_toLowercase_ne (Nat.le_of_not_lt notBasic)
        (eq_of_ofNat_eq_lineFeed image_eq.symm)

theorem lineFeed_mem_lowerFrom_iff (passed characters : List Char) :
    '\n' ∈ lowerFrom passed characters ↔ '\n' ∈ characters := by
  induction characters generalizing passed with
  | nil => rfl
  | cons character following inductionHypothesis =>
    rw [lowerFrom, List.mem_append, inductionHypothesis, List.mem_cons]
    refine or_congr_left ?_
    split
    · rename_i isSigma
      rw [eq_of_beq isSigma, List.mem_singleton]
      refine iff_of_false ?_ (by decide)
      split <;> decide
    · rw [lineFeed_mem_lowerCharacter_iff, eq_comm]

/-- Lowercase neither makes nor removes line feeds. -/
@[simp] theorem isSingleLine_lower_iff (text : String) :
    IsSingleLine (lower text) ↔ IsSingleLine text := by
  rw [lower, onCharacters, isSingleLine_ofList_iff, lineFeed_mem_lowerFrom_iff, IsSingleLine]

end Text
end QualityGate
