import QualityGate.Text.Basic
import Mathlib.Data.List.Basic

/-!
# Pieces of texts

The pieces between separators have no separator in them.  Pieces without separators are told from
their text: they are the pieces of the text that has a separator between any two of them.
-/

namespace QualityGate
namespace Text

/-- What stands between separators is no separator. -/
theorem not_accepts_of_mem_splitOnP
    {accepts : Char → Bool}
    {characters piece : List Char}
    (member : piece ∈ characters.splitOnP accepts)
    {character : Char}
    (inside : character ∈ piece) :
    accepts character = false := by
  induction characters generalizing piece with
  | nil =>
    rw [List.splitOnP_nil, List.mem_singleton] at member
    simp [member] at inside
  | cons first rest inductionHypothesis =>
    rw [List.splitOnP_cons_eq_if_modifyHead] at member
    cases separates : accepts first with
    | true =>
      rw [separates, if_pos rfl] at member
      rcases List.mem_cons.mp member with rfl | later
      · cases inside
      · exact inductionHypothesis later inside
    | false =>
      rw [separates, if_neg (by simp)] at member
      obtain ⟨head, tail, pieces⟩ := List.exists_cons_of_ne_nil (List.splitOnP_ne_nil accepts rest)
      rw [pieces, List.modifyHead_cons] at member
      rcases List.mem_cons.mp member with rfl | later
      · rcases List.mem_cons.mp inside with rfl | behind
        · exact separates
        · exact inductionHypothesis (by rw [pieces]; exact List.mem_cons_self) behind
      · exact inductionHypothesis (by rw [pieces]; exact List.mem_cons_of_mem _ later) inside

/-- The characters of a piece are those of the whole. -/
theorem subset_of_mem_splitOnP
    {accepts : Char → Bool}
    {characters piece : List Char}
    (member : piece ∈ characters.splitOnP accepts) :
    piece ⊆ characters := by
  induction characters generalizing piece with
  | nil =>
    rw [List.splitOnP_nil, List.mem_singleton] at member
    rw [member]
    exact List.Subset.refl []
  | cons first rest inductionHypothesis =>
    rw [List.splitOnP_cons_eq_if_modifyHead] at member
    split at member
    · rcases List.mem_cons.mp member with rfl | later
      · exact List.nil_subset _
      · exact List.subset_cons_of_subset _ (inductionHypothesis later)
    · obtain ⟨head, tail, pieces⟩ := List.exists_cons_of_ne_nil (List.splitOnP_ne_nil accepts rest)
      rw [pieces, List.modifyHead_cons] at member
      rcases List.mem_cons.mp member with rfl | later
      · exact List.cons_subset_cons _ (inductionHypothesis (by rw [pieces]; exact List.mem_cons_self))
      · exact List.subset_cons_of_subset _
          (inductionHypothesis (by rw [pieces]; exact List.mem_cons_of_mem _ later))

variable {separator : Char}

/-- A piece has no separator. -/
theorem not_mem_of_mem_splitWhere
    {text piece : String}
    (member : piece ∈ splitWhere (· == separator) text) :
    separator ∉ piece.toList := by
  obtain ⟨characters, isPiece, rfl⟩ := List.mem_map.mp member
  rw [String.toList_ofList]
  intro inside
  have differs := not_accepts_of_mem_splitOnP isPiece inside
  rw [beq_self_eq_true] at differs
  cases differs

/-- The pieces of a text, with separators between them, are the text. -/
theorem intercalate_splitWhere (text : String) :
    String.intercalate (String.singleton separator) (splitWhere (· == separator) text) = text := by
  have characters : (splitWhere (· == separator) text).map String.toList =
      text.toList.splitOn separator := by
    rw [splitWhere, List.map_map]
    exact (List.map_congr_left fun piece _ => String.toList_ofList).trans (List.map_id _)
  rw [← String.toList_inj, String.toList_intercalate, characters, String.toList_singleton,
    List.intercalate_splitOn]

/-- Texts without separators are the pieces of what they are with separators between them. -/
theorem splitWhere_intercalate
    {pieces : List String}
    (filled : pieces ≠ [])
    (apart : ∀ piece ∈ pieces, separator ∉ piece.toList) :
    splitWhere (· == separator) (String.intercalate (String.singleton separator) pieces) =
      pieces := by
  have characters : (String.intercalate (String.singleton separator) pieces).toList.splitOn
      separator = pieces.map String.toList := by
    rw [String.toList_intercalate, String.toList_singleton]
    exact List.splitOn_intercalate separator (List.forall_mem_map.mpr apart) (by simpa using filled)
  rw [splitWhere, ← List.splitOn_eq_splitOnP, characters, List.map_map]
  exact (List.map_congr_left fun piece _ => String.ofList_toList).trans (List.map_id _)

end Text
end QualityGate
