import QualityGate.Proofs.Text.Ends

/-!
# Blanks around a text

Blanks before and behind a text change neither its words nor what is left when the blanks at its
ends are removed.
-/

namespace QualityGate
namespace Text

/-- Nothing but blanks. -/
def AreBlank (characters : List Char) : Prop :=
  ∀ character ∈ characters, isBlank character = true

theorem areBlank_nil : AreBlank [] :=
  List.forall_mem_nil _

theorem AreBlank.of_cons
    {character : Char}
    {following : List Char}
    (blank : AreBlank (character :: following)) :
    isBlank character = true ∧ AreBlank following :=
  List.forall_mem_cons.mp blank

/-! ## Words -/

/-- No word goes on over a blank. -/
theorem wordsOf_append_blank
    (front : List Char)
    {blank : Char}
    (isBlank : isBlank blank = true)
    (behind : List Char) :
    wordsOf (front ++ blank :: behind) = wordsOf front ++ wordsOf behind := by
  rw [wordsOf, List.splitOnP_append_cons front behind isBlank, List.filter_append, wordsOf, wordsOf]

theorem wordsOf_append_of_areBlank
    {blanks : List Char}
    (areBlank : AreBlank blanks)
    (characters : List Char) :
    wordsOf (blanks ++ characters) = wordsOf characters := by
  induction blanks with
  | nil => rfl
  | cons blank blanks inductionHypothesis =>
    obtain ⟨isBlank, areBlank⟩ := areBlank.of_cons
    have split := wordsOf_append_blank [] isBlank (blanks ++ characters)
    have nothing : wordsOf [] = [] := rfl
    rw [nothing, List.nil_append, List.nil_append, inductionHypothesis areBlank] at split
    exact split

theorem wordsOf_append_areBlank
    (characters : List Char)
    {blanks : List Char}
    (areBlank : AreBlank blanks) :
    wordsOf (characters ++ blanks) = wordsOf characters := by
  cases blanks with
  | nil => rw [List.append_nil]
  | cons blank blanks =>
    obtain ⟨isBlank, areBlank⟩ := areBlank.of_cons
    have nothing : wordsOf blanks = [] := by
      simpa [wordsOf] using wordsOf_append_of_areBlank areBlank []
    rw [wordsOf_append_blank characters isBlank, nothing, List.append_nil]

/-! ## Ends -/

theorem dropStart_append_of_areBlank
    {blanks : List Char}
    (areBlank : AreBlank blanks)
    (characters : List Char) :
    dropStart isBlank (blanks ++ characters) = dropStart isBlank characters :=
  List.dropWhile_append_of_pos areBlank

theorem dropEnd_append_areBlank
    (characters : List Char)
    {blanks : List Char}
    (areBlank : AreBlank blanks) :
    dropEnd isBlank (characters ++ blanks) = dropEnd isBlank characters := by
  have reversed : AreBlank blanks.reverse := fun character member =>
    areBlank character (List.mem_reverse.mp member)
  rw [dropEnd, dropEnd, List.reverse_append, List.dropWhile_append_of_pos reversed]

/-- Blanks at both ends of a text are removed with those that it has itself. -/
theorem strip_append
    {front behind : List Char}
    (frontBlank : AreBlank front)
    (behindBlank : AreBlank behind)
    (characters : List Char) :
    strip (front ++ characters ++ behind) = strip characters := by
  rw [List.append_assoc, strip, strip, dropStart_append_of_areBlank frontBlank, dropStart,
    List.dropWhile_append]
  split
  · rename_i nothing
    have gone : behind.dropWhile isBlank = [] := List.dropWhile_eq_nil_iff.mpr behindBlank
    rw [gone, dropStart, List.isEmpty_iff.mp nothing]
  · rw [dropEnd_append_areBlank _ behindBlank, dropStart]

/-! ## Padding -/

/-- The second text is the first one between blanks. -/
def Pads (text padded : String) : Prop :=
  ∃ front behind, AreBlank front ∧ AreBlank behind ∧
    padded.toList = front ++ text.toList ++ behind

theorem Pads.refl (text : String) : Pads text text :=
  ⟨[], [], areBlank_nil, areBlank_nil, by simp⟩

theorem Pads.trim_eq
    {text padded : String}
    (pads : Pads text padded) :
    trim padded = trim text := by
  obtain ⟨front, behind, frontBlank, behindBlank, padded_eq⟩ := pads
  rw [trim, trim, onCharacters, onCharacters, padded_eq, strip_append frontBlank behindBlank]

theorem Pads.isBlankText_eq
    {text padded : String}
    (pads : Pads text padded) :
    isBlankText padded = isBlankText text := by
  obtain ⟨front, behind, frontBlank, behindBlank, padded_eq⟩ := pads
  rw [isBlankText, isBlankText, padded_eq, List.all_append, List.all_append,
    List.all_eq_true.mpr frontBlank, List.all_eq_true.mpr behindBlank, Bool.true_and,
    Bool.and_true]

end Text
end QualityGate
