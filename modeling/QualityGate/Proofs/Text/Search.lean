import QualityGate.Text.Basic
import Mathlib.Data.List.Basic

/-!
# Searching in texts

A search succeeds exactly if what is searched for is a contiguous part of the text.
-/

namespace QualityGate
namespace Text

/-- A needle is found exactly in the texts of which it is a contiguous part. -/
theorem isSome_splitAt?_iff (needle characters : List Char) :
    (splitAt? needle characters).isSome = true ↔ needle <:+: characters := by
  constructor
  · intro found
    obtain ⟨⟨before, after⟩, split⟩ := Option.isSome_iff_exists.mp found
    exact ⟨before, after, (eq_append_of_splitAt? split).symm⟩
  · intro contained
    induction characters with
    | nil =>
      rw [List.infix_nil.mp contained]
      rfl
    | cons character following inductionHypothesis =>
      unfold splitAt?
      split
      · rfl
      · rename_i notInFront
        rcases List.infix_cons_iff.mp contained with ⟨rest, inFront⟩ | further
        · rw [List.isPrefixOf?_eq_some_iff_append_eq.mpr inFront] at notInFront
          cases notInFront
        · simpa using inductionHypothesis further

/-- Of several occurrences the first is found: none begins before it. -/
theorem not_infix_of_splitAt? {needle characters before after : List Char} (nonempty : needle ≠ [])
    (found : splitAt? needle characters = some (before, after)) :
    ¬ needle <:+: before ++ needle.dropLast := by
  fun_induction splitAt? needle characters generalizing before with
  | case1 =>
    obtain ⟨rest, atFront, -⟩ := Option.map_eq_some_iff.1 found
    have empty := eq_append_of_isPrefixOf? atFront
    simp [nonempty] at empty
  | case2 character following rest atFront =>
    cases found
    intro occurs
    have shorter := occurs.length_le
    have := List.length_pos_iff.2 nonempty
    simp only [List.nil_append, List.length_dropLast] at shorter
    omega
  | case3 character following notAtFront ih =>
    obtain ⟨⟨inside, rest⟩, further, equal⟩ := Option.map_eq_some_iff.1 found
    cases equal
    rw [List.cons_append, List.infix_cons_iff]
    rintro (atFront | later)
    · -- an occurrence at the front would end before the one that was found
      have whole : character :: (inside ++ needle.dropLast) <+: character :: following := by
        rw [eq_append_of_splitAt? further, List.append_assoc]
        exact List.cons_prefix_cons.2 ⟨rfl, (List.prefix_append_right_inj inside).2
          ((List.dropLast_prefix needle).trans (List.prefix_append _ _))⟩
      obtain ⟨rest, equal⟩ := atFront.trans whole
      rw [List.isPrefixOf?_eq_some_iff_append_eq.mpr equal] at notAtFront
      cases notAtFront
    · exact ih further later

/-- The first occurrence stays the first one where something is written behind the text. -/
theorem splitAt?_append {needle characters before after : List Char}
    (found : splitAt? needle characters = some (before, after)) (behind : List Char) :
    splitAt? needle (characters ++ behind) = some (before, after ++ behind) := by
  have inFront {text rest : List Char} (found : needle.isPrefixOf? text = some rest) :
      needle.isPrefixOf? (text ++ behind) = some (rest ++ behind) := by
    rw [List.isPrefixOf?_eq_some_iff_append_eq, ← List.append_assoc,
      List.isPrefixOf?_eq_some_iff_append_eq.mp found]
  fun_induction splitAt? needle characters generalizing before with
  | case1 =>
    obtain ⟨rest, atFront, equal⟩ := Option.map_eq_some_iff.1 found
    cases equal
    have empty := (eq_append_of_isPrefixOf? atFront).symm
    rw [List.append_eq_nil_iff] at empty
    obtain ⟨rfl, rfl⟩ := empty
    cases behind <;> rfl
  | case2 character following rest atFront =>
    cases found
    rw [List.cons_append, splitAt?, ← List.cons_append, inFront atFront]
  | case3 character following notAtFront ih =>
    obtain ⟨⟨inside, rest⟩, further, equal⟩ := Option.map_eq_some_iff.1 found
    cases equal
    -- the needle occurs further on, so it is too short to begin here and end behind the text
    have short : needle.length ≤ (character :: following).length := by
      have contained := (isSome_splitAt?_iff needle following).1 (by simp [further])
      exact Nat.le_trans contained.length_le (Nat.le_succ _)
    have still : needle.isPrefixOf? (character :: (following ++ behind)) = none := by
      refine Option.eq_none_iff_forall_ne_some.2 fun later atFront => ?_
      have isPrefix : needle <+: character :: following :=
        List.prefix_of_prefix_length_le
          ⟨later, List.isPrefixOf?_eq_some_iff_append_eq.1 atFront⟩
          (List.prefix_append (character :: following) behind) short
      obtain ⟨others, equal⟩ := isPrefix
      rw [List.isPrefixOf?_eq_some_iff_append_eq.mpr equal] at notAtFront
      cases notAtFront
    rw [List.cons_append, splitAt?, still, ih further]
    rfl

/-- What lacks the characters of a needle is no part of its first occurrence. -/
theorem splitAt?_append_of_notMem {needle front : List Char} (nonempty : needle ≠ [])
    (absent : ∀ character ∈ front, character ∉ needle) (characters : List Char) :
    splitAt? needle (front ++ characters) =
      (splitAt? needle characters).map fun parts => (front ++ parts.1, parts.2) := by
  induction front with
  | nil => simp
  | cons character following ih =>
    obtain ⟨here, further⟩ := List.forall_mem_cons.1 absent
    have notAtFront : needle.isPrefixOf? (character :: (following ++ characters)) = none := by
      refine Option.eq_none_iff_forall_ne_some.2 fun rest atFront => ?_
      have whole := eq_append_of_isPrefixOf? atFront
      cases needle with
      | nil => exact nonempty rfl
      | cons first others =>
        rw [List.cons_append, List.cons.injEq] at whole
        exact here (by simp [whole.1])
    rw [List.cons_append, splitAt?, notAtFront]
    dsimp only
    rw [ih further, Option.map_map]
    rfl

/-- A part at the front that lacks the next character ends before it. -/
theorem isPrefix_of_isPrefix_append_cons {part front behind : List Char} {next : Char}
    (absent : next ∉ part) (atFront : part <+: front ++ next :: behind) : part <+: front := by
  rcases List.prefix_or_prefix_of_prefix atFront (List.prefix_append front _) with
    shorter | ⟨others, longer⟩
  · exact shorter
  · subst longer
    cases others with
    | nil => simp
    | cons first others =>
      have further := (List.prefix_append_right_inj front).1 atFront
      rw [(List.cons_prefix_cons.1 further).1] at absent
      simp at absent

theorem contains_iff (text needle : String) :
    contains text needle = true ↔ needle.toList <:+: text.toList :=
  isSome_splitAt?_iff needle.toList text.toList

end Text
end QualityGate
