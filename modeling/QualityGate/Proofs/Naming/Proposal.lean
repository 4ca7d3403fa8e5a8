import QualityGate.Proofs.Location.Rename
import QualityGate.Proofs.Naming.Style

/-!
# Proposed names

A finding about a file proposes a name without the first banned modifier of the stem.  Another
modifier of the stem stays in the proposed name, and then a file of that name is flagged again.
-/

namespace QualityGate
namespace Naming

open Text

/-! ## Words of basic names -/

/-- In lowercase a letter or a digit of the basic alphabet is plain. -/
theorem isPlain_toLower
    {character : Char}
    (basic : character.toNat < 128)
    (within : isAlphanumeric character = true) :
    IsPlain character.toLower :=
  of_basic (fun character => isAlphanumeric character = true → IsPlain character.toLower)
    (by decide +kernel) basic within

/-- The words of a basic name are plain. -/
theorem isPlainText_of_mem_segments
    {name : String}
    (basic : ∀ character ∈ name.toList, character.toNat < 128)
    {word : String}
    (member : word ∈ segments name) :
    IsPlainText word := by
  obtain ⟨part, isPart, rfl⟩ := List.mem_map.mp member
  have divides := divides_nameChunks name.toList
  obtain ⟨stretch, within⟩ := divides.stretch part isPart
  have partBasic : ∀ character ∈ part, character.toNat < 128 :=
    fun character inside => basic character (stretch.subset inside)
  constructor
  · apply lower_ne_empty
    rw [Ne, ← String.toList_eq_nil_iff, String.toList_ofList]
    exact divides.ne_nil part isPart
  · rw [lower, onCharacters, String.toList_ofList, String.toList_ofList,
      lowerFrom_of_basic [] partBasic]
    exact List.forall_mem_map.mpr fun character inside =>
      isPlain_toLower (partBasic character inside) (within character inside)

/-- Words that are joined are divided one by one. -/
theorem segments_joined (words : List String) :
    segments (String.intercalate "_" words) = words.flatMap segments := by
  have separates : isAlphanumeric '_' = false := by decide
  exact segments_intercalate separates words

/-- Words that are joined are not empty and have no character but theirs and underscores. -/
theorem joined_of_plain
    {words : List String}
    (nonempty : words ≠ [])
    (plain : ∀ word ∈ words, IsPlainText word) :
    String.intercalate "_" words ≠ "" ∧
      ∀ character ∈ (String.intercalate "_" words).toList, character = '_' ∨ IsPlain character := by
  induction words with
  | nil => exact absurd rfl nonempty
  | cons word others inductionHypothesis =>
    obtain ⟨isPlainText, othersPlain⟩ := List.forall_mem_cons.mp plain
    cases others with
    | nil =>
      rw [String.intercalate_singleton]
      exact ⟨isPlainText.filled, fun character member => .inr (isPlainText.plain character member)⟩
    | cons second rest =>
      obtain ⟨-, behind⟩ := inductionHypothesis (List.cons_ne_nil _ _) othersPlain
      rw [String.intercalate_cons_cons]
      refine ⟨by simp [isPlainText.filled], fun character member => ?_⟩
      rw [String.toList_append, String.toList_append, List.mem_append, List.mem_append] at member
      rcases member with (inWord | isUnderscore) | inOthers
      · exact .inr (isPlainText.plain character inWord)
      · exact .inl (by simpa using isUnderscore)
      · exact behind character inOthers

/-! ## What a finding proposes -/

theorem proposal_inj {name other : String} (same : proposal name = proposal other) :
    name = other := by
  unfold proposal at same
  generalize "Rename to describe what it does, e.g. '" = front at same
  generalize "'" = behind at same
  have characters := congrArg String.toList same
  simp only [String.toList_append, List.append_cancel_right_eq,
    List.append_cancel_left_eq] at characters
  exact String.toList_inj.mp characters

/-- The proposed name consists of the words of the stem that are not the flagged one. -/
theorem exists_of_proposal
    {settings : NamingSettings}
    {path name : String}
    {finding : Finding}
    (flagged : checkFileName settings path = some finding)
    (proposes : finding.suggestion? = some (proposal name)) :
    ∃ stem modifier : String,
      Location.stem? path = some stem ∧
        bannedAmong? settings (segments stem) = some modifier ∧
        (segments stem).filter (· != modifier) ≠ [] ∧
        name = String.intercalate "_" ((segments stem).filter (· != modifier)) := by
  obtain ⟨stem, isStem⟩ := exists_stem_of_checkFileName flagged
  have suggestion := map_suggestion_checkFileName settings isStem
  rw [flagged, Option.map_some, proposes] at suggestion
  obtain ⟨modifier, isModifier, proposed⟩ := Option.map_eq_some_iff.mp suggestion.symm
  obtain ⟨other, isOther, same⟩ := Option.map_eq_some_iff.mp proposed
  cases proposal_inj same
  refine ⟨stem, modifier, isStem, isModifier, ?_⟩
  unfold proposedName? at isOther
  split at isOther
  · cases isOther
  · rename_i nonempty
    exact ⟨nonempty, (Option.some.inj isOther).symm⟩

/-- The verdict on a file whose name consists of joined words. -/
theorem checkFileName_joined_iff
    (settings : NamingSettings)
    {path : String}
    {words : List String}
    (isStem : Location.stem? path = some (String.intercalate "_" words)) :
    checkFileName settings path = none ↔
      (words.flatMap segments).length < 2 ∨
        ∀ word ∈ words.flatMap segments, isBanned settings word = false := by
  rw [checkFileName_eq_none_iff settings isStem, bannedAmong?_eq_none_iff, segments_joined]

/-- Plain words stay as they are when they are divided once more. -/
theorem flatMap_segments_of_plain
    {words : List String}
    (plain : ∀ word ∈ words, IsPlainText word) :
    words.flatMap segments = words := by
  induction words with
  | nil => rfl
  | cons word others inductionHypothesis =>
    obtain ⟨isPlainText, othersPlain⟩ := List.forall_mem_cons.mp plain
    rw [List.flatMap_cons, isPlainText.segments_eq, inductionHypothesis othersPlain,
      List.singleton_append]

/-- The words without a modifier are not flagged if it is the only banned one. -/
theorem forall_filter_isBanned_iff
    (settings : NamingSettings)
    (words : List String)
    (modifier : String) :
    (∀ word ∈ words.filter (· != modifier), isBanned settings word = false) ↔
      ∀ word ∈ words, isBanned settings word = true → word = modifier := by
  constructor
  · intro kept word member banned
    by_contra other
    have allowed := kept word (List.mem_filter.mpr ⟨member, by simpa using other⟩)
    rw [banned] at allowed
    cases allowed
  · intro only word member
    obtain ⟨inStem, other⟩ := List.mem_filter.mp member
    rw [Bool.eq_false_iff]
    intro banned
    rw [only word inStem banned, bne_self_eq_false] at other
    cases other

/-- A file can have a name that is proposed for a basic one. -/
theorem exists_isRenamed_of_basic
    {path stem modifier : String}
    (isStem : Location.stem? path = some stem)
    (basic : ∀ character ∈ stem.toList, character.toNat < 128)
    (nonempty : (segments stem).filter (· != modifier) ≠ []) :
    ∃ beside, Location.IsRenamed path
      (String.intercalate "_" ((segments stem).filter (· != modifier))) beside := by
  obtain ⟨filled, characters⟩ := joined_of_plain nonempty fun word member =>
    isPlainText_of_mem_segments basic (List.mem_filter.mp member).1
  have lacks (mark : Char) (notUnderscore : mark ≠ '_') (notPlain : ¬IsPlain mark) :
      mark ∉ (String.intercalate "_" ((segments stem).filter (· != modifier))).toList :=
    fun member => (characters mark member).elim notUnderscore notPlain
  exact Location.exists_isRenamed isStem filled (lacks '.' (by decide) (by decide))
    (lacks '/' (by decide) (by decide))

/-- A file with the proposed name has no finding exactly if the words that are left, divided once
more, have no banned modifier among them or are too few.  For a basic stem there is such a file,
and that says that the flagged modifier is the only one of the stem or just one word is left. -/
theorem checkFileName_proposed
    {settings : NamingSettings}
    {path name : String}
    {finding : Finding}
    (flagged : checkFileName settings path = some finding)
    (proposes : finding.suggestion? = some (proposal name)) :
    ∃ (stem modifier : String) (left : List String),
      Location.stem? path = some stem ∧
        bannedAmong? settings (segments stem) = some modifier ∧
        left = (segments stem).filter (· != modifier) ∧
        left ≠ [] ∧
        name = String.intercalate "_" left ∧
        (∀ beside, Location.IsRenamed path name beside →
          (checkFileName settings beside = none ↔
            (left.flatMap segments).length < 2 ∨
              ∀ word ∈ left.flatMap segments, isBanned settings word = false)) ∧
        ((∀ character ∈ stem.toList, character.toNat < 128) →
          (∃ beside, Location.IsRenamed path name beside) ∧
            ∀ beside, Location.IsRenamed path name beside →
              (checkFileName settings beside = none ↔
                left.length < 2 ∨
                  ∀ word ∈ segments stem, isBanned settings word = true → word = modifier)) := by
  obtain ⟨stem, modifier, isStem, isModifier, nonempty, rfl⟩ := exists_of_proposal flagged proposes
  refine ⟨stem, modifier, _, isStem, isModifier, rfl, nonempty, rfl,
    fun beside renamed => checkFileName_joined_iff settings renamed.isStem,
    fun basic => ⟨exists_isRenamed_of_basic isStem basic nonempty, fun beside renamed => ?_⟩⟩
  have whole : ((segments stem).filter (· != modifier)).flatMap segments =
      (segments stem).filter (· != modifier) :=
    flatMap_segments_of_plain fun word member =>
      isPlainText_of_mem_segments basic (List.mem_filter.mp member).1
  rw [checkFileName_joined_iff settings renamed.isStem, whole, forall_filter_isBanned_iff]

/-- The name that is proposed for a new improved parser is flagged itself. -/
theorem checkFileName_proposed_of_two_modifiers :
    (checkFileName {} "src/new_improved_parser.rs").map Finding.suggestion? =
        some (some (proposal "improved_parser")) ∧
      Location.IsRenamed "src/new_improved_parser.rs" "improved_parser"
        "src/improved_parser.rs" ∧
      (checkFileName {} "src/improved_parser.rs").isSome = true := by
  have proposed : (checkFileName {} "src/new_improved_parser.rs").map Finding.suggestion? =
      some (some (proposal "improved_parser")) := by
    decide +kernel
  have renamed : Location.IsRenamed "src/new_improved_parser.rs" "improved_parser"
      "src/improved_parser.rs" :=
    ⟨by decide +kernel, by decide +kernel, by decide +kernel⟩
  obtain ⟨finding, flagged, proposes⟩ := Option.map_eq_some_iff.mp proposed
  obtain ⟨stem, modifier, left, isStem, isModifier, isLeft, -, -, -, ofBasic⟩ :=
    checkFileName_proposed flagged proposes
  have stemHere : Location.stem? "src/new_improved_parser.rs" = some "new_improved_parser" := by
    decide +kernel
  obtain rfl : "new_improved_parser" = stem := Option.some.inj (stemHere.symm.trans isStem)
  have modifierHere : bannedAmong? {} (segments "new_improved_parser") = some "new" := by
    decide +kernel
  obtain rfl : "new" = modifier := Option.some.inj (modifierHere.symm.trans isModifier)
  obtain rfl : left = ["improved", "parser"] := isLeft.trans (by decide +kernel)
  have verdict := (ofBasic (by simp)).2 "src/improved_parser.rs" renamed
  refine ⟨proposed, renamed, Option.isSome_iff_ne_none.mpr (mt verdict.mp ?_)⟩
  decide +kernel

end Naming
end QualityGate
