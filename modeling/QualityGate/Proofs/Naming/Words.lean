import QualityGate.Detector.Naming.Segment
import QualityGate.Proofs.Text.Letter
import Mathlib.Data.List.Basic

/-!
# Words of a name

The words of a name are stretches of its letters and numbers.  None of these characters is lost or
moved, and no word goes on over a character that is neither.  So the words of several texts with
such a character between them are the words of each text.
-/

namespace QualityGate
namespace Naming

open Text

/-! ## Nothing is lost -/

/-- The parts are stretches of letters and numbers of a name, one behind the other, and around them
is nothing else that is a letter or a number. -/
inductive Divides : List Char → List (List Char) → Prop where
  | done : Divides [] []
  | separator {character : Char} {name : List Char} {parts : List (List Char)}
      (separates : isAlphanumeric character = false) (rest : Divides name parts) :
      Divides (character :: name) parts
  | word {part name : List Char} {parts : List (List Char)} (nonempty : part ≠ [])
      (within : ∀ character ∈ part, isAlphanumeric character = true) (rest : Divides name parts) :
      Divides (part ++ name) (part :: parts)

namespace Divides

variable {name other : List Char} {parts others : List (List Char)}

/-- The parts of two names are those of the first one and those of the second one. -/
theorem append (first : Divides name parts) (second : Divides other others) :
    Divides (name ++ other) (parts ++ others) := by
  induction first with
  | done => exact second
  | separator separates rest inductionHypothesis => exact .separator separates inductionHypothesis
  | word nonempty within rest inductionHypothesis =>
    rw [List.append_assoc]
    exact .word nonempty within inductionHypothesis

/-- The parts hold the letters and numbers of the name in their order. -/
theorem flatten_eq (divides : Divides name parts) : parts.flatten = name.filter isAlphanumeric := by
  induction divides with
  | done => rfl
  | separator separates rest inductionHypothesis =>
    rw [inductionHypothesis, List.filter_cons_of_neg (by simp [separates])]
  | word nonempty within rest inductionHypothesis =>
    rw [List.flatten_cons, inductionHypothesis, List.filter_append, List.filter_eq_self.mpr within]

theorem ne_nil (divides : Divides name parts) : ∀ part ∈ parts, part ≠ [] := by
  induction divides with
  | done => exact List.forall_mem_nil _
  | separator separates rest inductionHypothesis => exact inductionHypothesis
  | word nonempty within rest inductionHypothesis =>
    exact List.forall_mem_cons.mpr ⟨nonempty, inductionHypothesis⟩

/-- A part stands in the name as it is, without anything that is no letter and no number. -/
theorem stretch (divides : Divides name parts) :
    ∀ part ∈ parts, part <:+: name ∧ ∀ character ∈ part, isAlphanumeric character = true := by
  induction divides with
  | done => exact List.forall_mem_nil _
  | separator separates rest inductionHypothesis =>
    intro part member
    obtain ⟨isInfix, within⟩ := inductionHypothesis part member
    exact ⟨isInfix.trans (List.suffix_cons _ _).isInfix, within⟩
  | word nonempty within rest inductionHypothesis =>
    refine List.forall_mem_cons.mpr ⟨⟨(List.prefix_append _ _).isInfix, within⟩, ?_⟩
    intro part member
    obtain ⟨isInfix, within⟩ := inductionHypothesis part member
    exact ⟨isInfix.trans (List.suffix_append _ _).isInfix, within⟩

end Divides

theorem chunks_ne_nil (characters : List Char) : ∀ chunk ∈ chunks characters, chunk ≠ [] := by
  fun_induction chunks characters with
  | case1 => exact List.forall_mem_nil _
  | case2 only => simp
  | case3 first second rest following begins inductionHypothesis =>
    exact List.forall_mem_cons.mpr ⟨List.cons_ne_nil _ _, inductionHypothesis⟩
  | case4 first second rest following goesOn isNil inductionHypothesis => simp
  | case5 first second rest following goesOn chunk others isCons inductionHypothesis =>
    have kept : ∀ chunk ∈ following, chunk ≠ [] := inductionHypothesis
    rw [isCons] at kept
    exact List.forall_mem_cons.mpr ⟨List.cons_ne_nil _ _, (List.forall_mem_cons.mp kept).2⟩

/-- Parts of letters and numbers divide what they are parts of. -/
theorem divides_flatten
    {parts : List (List Char)}
    (nonempty : ∀ part ∈ parts, part ≠ [])
    (within : ∀ character ∈ parts.flatten, isAlphanumeric character = true) :
    Divides parts.flatten parts := by
  induction parts with
  | nil => exact .done
  | cons part others inductionHypothesis =>
    obtain ⟨filled, othersFilled⟩ := List.forall_mem_cons.mp nonempty
    rw [List.flatten_cons, List.forall_mem_append] at within
    exact .word filled within.1 (inductionHypothesis othersFilled within.2)

/-- A text without separators is one stretch. -/
theorem nameChunks_of_alphanumeric
    {name : List Char}
    (within : ∀ character ∈ name, isAlphanumeric character = true) :
    nameChunks name = chunks name := by
  have kept : ∀ character ∈ name, (!isAlphanumeric character) = false := fun character member => by
    rw [within character member, Bool.not_true]
  rw [nameChunks, List.splitOnP_eq_singleton kept, List.flatMap_singleton]

/-- No word goes on over a separator. -/
theorem nameChunks_append_separator
    (front : List Char)
    {separator : Char}
    (separates : isAlphanumeric separator = false)
    (behind : List Char) :
    nameChunks (front ++ separator :: behind) = nameChunks front ++ nameChunks behind := by
  have splits : (!isAlphanumeric separator) = true := by rw [separates, Bool.not_false]
  rw [nameChunks, List.splitOnP_append_cons front behind splits, List.flatMap_append, nameChunks,
    nameChunks]

/-- The words of a name divide it. -/
theorem divides_nameChunks (name : List Char) : Divides name (nameChunks name) := by
  generalize length_eq : name.length = length
  induction length using Nat.strongRecOn generalizing name with
  | ind length inductionHypothesis =>
    by_cases within : ∀ character ∈ name, isAlphanumeric character = true
    · have divides := divides_flatten (chunks_ne_nil name) (by rwa [flatten_chunks])
      rwa [flatten_chunks, ← nameChunks_of_alphanumeric within] at divides
    · -- what stands before and behind a separator is shorter than the name
      simp only [not_forall, Bool.not_eq_true] at within
      obtain ⟨separator, member, separates⟩ := within
      obtain ⟨front, behind, rfl⟩ := List.append_of_mem member
      rw [List.length_append, List.length_cons] at length_eq
      have frontDivides := inductionHypothesis front.length (by omega) front rfl
      have behindDivides := inductionHypothesis behind.length (by omega) behind rfl
      rw [nameChunks_append_separator front separates]
      exact frontDivides.append (.separator separates behindDivides)

/-! ## Texts with separators between them -/

theorem segments_append_separator
    (front : String)
    {separator : Char}
    (separates : isAlphanumeric separator = false)
    (behind : String) :
    segments (front ++ String.singleton separator ++ behind) =
      segments front ++ segments behind := by
  have characters : (front ++ String.singleton separator ++ behind).toList =
      front.toList ++ separator :: behind.toList := by
    simp
  rw [segments, characters, nameChunks_append_separator _ separates, List.map_append, segments,
    segments]

/-- The words of texts with a separator between them are the words of the texts. -/
theorem segments_intercalate
    {separator : Char}
    (separates : isAlphanumeric separator = false)
    (texts : List String) :
    segments (String.intercalate (String.singleton separator) texts) =
      texts.flatMap segments := by
  induction texts with
  | nil => rw [String.intercalate_nil]; rfl
  | cons text others inductionHypothesis =>
    cases others with
    | nil => rw [String.intercalate_singleton, List.flatMap_singleton]
    | cons second rest =>
      rw [String.intercalate_cons_cons, segments_append_separator text separates,
        inductionHypothesis, ← List.flatMap_cons]

end Naming
end QualityGate
