import QualityGate.Proofs.Text.Split

/-!
# Lines of texts

A line has no line feed, and a text without line feeds is its own only line.
-/

namespace QualityGate
namespace Text

theorem mem_of_mem_dropReturn
    {character : Char}
    {characters : List Char}
    (member : character ∈ dropReturn characters) :
    character ∈ characters := by
  rw [dropReturn] at member
  split at member
  · exact List.dropLast_subset _ member
  · exact member

/-- A line has no line feed. -/
theorem not_mem_of_mem_lines
    {text line : String}
    (member : line ∈ lines text) :
    '\n' ∉ line.toList := by
  obtain ⟨characters, isLine, rfl⟩ := List.mem_map.mp member
  rw [String.toList_ofList]
  intro inside
  have isPiece : ∃ piece ∈ text.toList.splitOnP (· == '\n'), '\n' ∈ piece := by
    unfold linesOf at isLine
    extract_lets pieces ended at isLine
    have endedPiece (among : characters ∈ ended) : ∃ piece ∈ pieces, '\n' ∈ piece := by
      obtain ⟨piece, early, rfl⟩ := List.mem_map.mp among
      exact ⟨piece, List.dropLast_subset _ early, mem_of_mem_dropReturn inside⟩
    split at isLine
    · rename_i character rest last
      rcases List.mem_append.mp isLine with among | isLast
      · exact endedPiece among
      · rw [List.mem_singleton.mp isLast] at inside
        exact ⟨_, List.mem_of_getLast? last, inside⟩
    · exact endedPiece isLine
  obtain ⟨piece, isPiece, inPiece⟩ := isPiece
  have differs := not_accepts_of_mem_splitOnP isPiece inPiece
  cases differs

/-- A text without line feeds is its only line; the empty text has none. -/
theorem lines_of_not_mem
    {text : String}
    (apart : '\n' ∉ text.toList) :
    lines text = if text = "" then [] else [text] := by
  have pieces : text.toList.splitOnP (· == '\n') = [text.toList] :=
    List.splitOnP_eq_singleton fun character member => beq_eq_false_iff_ne.mpr fun equal =>
      apart (equal ▸ member)
  rw [lines, linesOf, pieces]
  cases characters : text.toList with
  | nil => rw [if_pos (String.toList_eq_nil_iff.mp characters)]; rfl
  | cons character rest =>
    have filled : text ≠ "" := by
      rintro rfl
      cases characters
    rw [if_neg filled, ← String.ofList_toList (s := text), characters]
    rfl

end Text
end QualityGate
