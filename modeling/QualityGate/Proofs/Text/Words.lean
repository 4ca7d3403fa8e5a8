import QualityGate.Proofs.Text.Blanks
import QualityGate.Proofs.Text.Split

/-!
# Words of texts

A word is a text without blanks that is not empty.  The words of a text are such words, and words
with blanks between them are the words of the text that they make up.
-/

namespace QualityGate
namespace Text

/-- A word has no blank. -/
theorem isBlank_eq_false_of_mem_word
    {text word : String}
    (member : word ∈ words text)
    {character : Char}
    (inside : character ∈ word.toList) :
    isBlank character = false := by
  obtain ⟨piece, isPiece, rfl⟩ := List.mem_map.mp member
  rw [String.toList_ofList] at inside
  exact not_accepts_of_mem_splitOnP (List.mem_filter.mp isPiece).1 inside

/-- The text is one word. -/
structure IsWord (text : String) : Prop where
  filled : text ≠ ""
  unbroken : ∀ character ∈ text.toList, isBlank character = false

theorem isWord_of_mem_words {text word : String} (member : word ∈ words text) : IsWord word := by
  refine ⟨?_, fun character inside => isBlank_eq_false_of_mem_word member inside⟩
  obtain ⟨piece, isPiece, rfl⟩ := List.mem_map.mp member
  rw [Ne, ← String.toList_eq_nil_iff, String.toList_ofList]
  simpa using (List.mem_filter.mp isPiece).2

/-- A word is its only word. -/
theorem IsWord.words_eq {text : String} (isWord : IsWord text) : words text = [text] := by
  have kept : (!text.toList.isEmpty) = true := by
    rw [Bool.not_eq_true', List.isEmpty_eq_false_iff]
    exact mt String.toList_eq_nil_iff.mp isWord.filled
  rw [words, wordsOf, List.splitOnP_eq_singleton isWord.unbroken, List.filter_singleton, kept]
  exact congrArg (fun word => [word]) String.ofList_toList

/-- No word goes on over a blank between two texts. -/
theorem words_append_blank
    (front : String)
    {blank : Char}
    (blanks : isBlank blank = true)
    (behind : String) :
    words (front ++ String.singleton blank ++ behind) = words front ++ words behind := by
  have characters : (front ++ String.singleton blank ++ behind).toList =
      front.toList ++ blank :: behind.toList := by
    simp
  rw [words, characters, wordsOf_append_blank _ blanks, List.map_append, words, words]

/-- Words are read from the text that has a blank between any two of them. -/
theorem words_intercalate
    {texts : List String}
    (areWords : ∀ text ∈ texts, IsWord text) :
    words (String.intercalate " " texts) = texts := by
  induction texts with
  | nil => rfl
  | cons text others inductionHypothesis =>
    obtain ⟨isWord, othersWords⟩ := List.forall_mem_cons.mp areWords
    cases others with
    | nil => rw [String.intercalate_singleton, isWord.words_eq]
    | cons second rest =>
      have blank : isBlank ' ' = true := by decide
      rw [String.intercalate_cons_cons]
      refine (words_append_blank text blank _).trans ?_
      rw [isWord.words_eq, inductionHypothesis othersWords, List.singleton_append]

end Text
end QualityGate
