import QualityGate.Proofs.Naming.Verdict
import QualityGate.Proofs.Naming.Words

/-!
# Styles of names

The same words can be written with separators between them, or one behind the other with capitals
where a word begins.  Words of at least two letters or digits are found again in every style, so
the verdict on a name does not depend on the style in which it is written.
-/

namespace QualityGate
namespace Naming

open Text

/-! ## Words and their spellings -/

/-- The character is a lowercase letter or a digit of the basic alphabet. -/
def IsPlain (character : Char) : Prop :=
  character.isLower = true ∨ character.isDigit = true

/-- A lowercase letter of the basic alphabet, and behind it at least one more letter or digit. -/
structure PlainWord where
  first : Char
  rest : List Char
  firstLower : first.isLower = true
  restNonempty : rest ≠ []
  restPlain : ∀ character ∈ rest, IsPlain character

namespace PlainWord

/-- The word as it is. -/
def text (word : PlainWord) : String :=
  String.ofList (word.first :: word.rest)

/-- The word with a capital in front. -/
def capitalized (word : PlainWord) : String :=
  String.ofList (word.first.toUpper :: word.rest)

end PlainWord

/-- A way to write several words as one name. -/
inductive Style where
  | snake
  | kebab
  | dotted
  | camel
  | pascal
deriving Repr, DecidableEq

/-- Words with a separator between them. -/
def separated (separator : Char) (words : List PlainWord) : String :=
  String.intercalate (String.singleton separator) (words.map PlainWord.text)

/-- Several words in a style. -/
def Style.spell : Style → List PlainWord → String
  | .snake, words => separated '_' words
  | .kebab, words => separated '-' words
  | .dotted, words => separated '.' words
  | .camel, [] => ""
  | .camel, first :: others => first.text ++ String.join (others.map PlainWord.capitalized)
  | .pascal, words => String.join (words.map PlainWord.capitalized)

/-! ## Characters of words -/

instance (character : Char) : Decidable (IsPlain character) :=
  inferInstanceAs (Decidable (_ ∨ _))

theorem IsPlain.toNat_lt {character : Char} (plain : IsPlain character) :
    character.toNat < 128 := by
  rcases plain with lower | digit
  · obtain ⟨-, notAbove⟩ := Bool.and_eq_true_iff.mp lower
    have atMost : character.toNat ≤ 'z'.toNat := of_decide_eq_true notAbove
    exact Nat.lt_of_le_of_lt atMost (by decide)
  · exact Nat.lt_of_le_of_lt (Char.isDigit_iff_toNat.mp digit).2 (by decide)

/-- A plain character is part of a word and begins none. -/
theorem IsPlain.goesOn {character : Char} (plain : IsPlain character) :
    isAlphanumeric character = true ∧ isUppercase character = false ∧
      (isLowercase character || character.isDigit) = true ∧ character.toLower = character :=
  of_basic
    (fun character => IsPlain character →
      isAlphanumeric character = true ∧ isUppercase character = false ∧
        (isLowercase character || character.isDigit) = true ∧ character.toLower = character)
    (by decide +kernel) plain.toNat_lt plain

/-- A capital is part of a word and begins one. -/
theorem capital_begins {letter : Char} (lower : letter.isLower = true) :
    letter.toUpper.toNat < 128 ∧ isAlphanumeric letter.toUpper = true ∧
      isUppercase letter.toUpper = true ∧ letter.toUpper.toLower = letter :=
  of_basic
    (fun letter => letter.isLower = true →
      letter.toUpper.toNat < 128 ∧ isAlphanumeric letter.toUpper = true ∧
        isUppercase letter.toUpper = true ∧ letter.toUpper.toLower = letter)
    (by decide +kernel) (IsPlain.toNat_lt (.inl lower)) lower

/-! ## Words in front of a capital -/

/-- No word begins at a character without a capital. -/
theorem startsWord_eq_false
    {current : Char}
    (goesOn : isUppercase current = false)
    (before : Char)
    (after? : Option Char) :
    startsWord before current after? = false := by
  rw [startsWord, goesOn, Bool.false_and]

/-- A word begins at a capital behind a lowercase letter or a digit. -/
theorem startsWord_eq_true
    {before current : Char}
    (begins : isUppercase current = true)
    (ended : (isLowercase before || before.isDigit) = true)
    (after? : Option Char) :
    startsWord before current after? = true := by
  rw [startsWord, begins, ended, Bool.true_and, Bool.true_or]

/-- A word ends in front of a capital and at the end of the name, and not before. -/
theorem chunks_append
    {first : Char}
    {rest behind : List Char}
    (plain : ∀ character ∈ rest, IsPlain character)
    (ended : rest = [] → IsPlain first)
    (begins : ∀ character ∈ behind.head?, isUppercase character = true) :
    chunks (first :: (rest ++ behind)) = (first :: rest) :: chunks behind := by
  induction rest generalizing first with
  | nil =>
    cases behind with
    | nil => rfl
    | cons capital following =>
      have capitalBegins := begins capital rfl
      rw [List.nil_append, chunks,
        startsWord_eq_true capitalBegins (ended rfl).goesOn.2.2.1, if_pos rfl]
  | cons second others inductionHypothesis =>
    obtain ⟨isPlain, othersPlain⟩ := List.forall_mem_cons.mp plain
    rw [List.cons_append, chunks, startsWord_eq_false isPlain.goesOn.2.1, if_neg Bool.false_ne_true,
      inductionHypothesis othersPlain fun _ => isPlain]

/-! ## Plain words -/

/-- A name without separators has the words into which it is cut by its capitals. -/
theorem segments_of_alphanumeric
    {name : String}
    (within : ∀ character ∈ name.toList, isAlphanumeric character = true) :
    segments name = (chunks name.toList).map fun chunk => lower (String.ofList chunk) := by
  rw [segments, nameChunks_of_alphanumeric within]

/-- Plain characters are lowercase. -/
theorem map_toLower_of_plain
    {characters : List Char}
    (plain : ∀ character ∈ characters, IsPlain character) :
    characters.map Char.toLower = characters :=
  (List.map_congr_left fun character member =>
    (plain character member).goesOn.2.2.2).trans (List.map_id _)

/-- The text is not empty and has plain characters only. -/
structure IsPlainText (text : String) : Prop where
  filled : text ≠ ""
  plain : ∀ character ∈ text.toList, IsPlain character

namespace IsPlainText

variable {text : String}

/-- A plain text is lowercase. -/
theorem lower_eq (isPlainText : IsPlainText text) : lower text = text := by
  have basic : ∀ character ∈ text.toList, character.toNat < 128 :=
    fun character member => (isPlainText.plain character member).toNat_lt
  rw [lower, onCharacters, lowerFrom_of_basic [] basic, map_toLower_of_plain isPlainText.plain,
    String.ofList_toList]

/-- A plain text is a single word. -/
theorem segments_eq (isPlainText : IsPlainText text) : segments text = [text] := by
  have single : chunks text.toList = [text.toList] := by
    obtain ⟨first, rest, characters⟩ :=
      List.exists_cons_of_ne_nil (mt String.toList_eq_nil_iff.mp isPlainText.filled)
    have plain := isPlainText.plain
    rw [characters] at plain ⊢
    obtain ⟨firstPlain, restPlain⟩ := List.forall_mem_cons.mp plain
    have whole : chunks (first :: (rest ++ [])) = (first :: rest) :: chunks [] :=
      chunks_append restPlain (fun _ => firstPlain) (by simp)
    rwa [List.append_nil] at whole
  rw [segments_of_alphanumeric fun character member =>
      (isPlainText.plain character member).goesOn.1,
    single, List.map_singleton, String.ofList_toList, isPlainText.lower_eq]

end IsPlainText

/-! ## Words in every style -/

namespace PlainWord

variable (word : PlainWord)

/-- The characters of the word with a capital in front. -/
def capital : List Char :=
  word.first.toUpper :: word.rest

theorem firstPlain : IsPlain word.first :=
  .inl word.firstLower

theorem isAlphanumeric_of_mem :
    ∀ character ∈ word.first :: word.rest, isAlphanumeric character = true :=
  List.forall_mem_cons.mpr
    ⟨word.firstPlain.goesOn.1, fun character member => (word.restPlain character member).goesOn.1⟩

theorem isAlphanumeric_of_mem_capital :
    ∀ character ∈ word.capital, isAlphanumeric character = true :=
  List.forall_mem_cons.mpr
    ⟨(capital_begins word.firstLower).2.1,
      fun character member => (word.restPlain character member).goesOn.1⟩

theorem toList_text : word.text.toList = word.first :: word.rest :=
  String.toList_ofList

theorem isPlainText_text : IsPlainText word.text := by
  constructor
  · rw [Ne, ← String.toList_eq_nil_iff, word.toList_text]
    exact List.cons_ne_nil _ _
  · rw [word.toList_text]
    exact List.forall_mem_cons.mpr ⟨word.firstPlain, word.restPlain⟩

/-- In lowercase the capital is the letter that it stands for. -/
theorem lower_capital : lower (String.ofList word.capital) = word.text := by
  obtain ⟨capitalBasic, -, -, lowered⟩ := capital_begins word.firstLower
  have basic : ∀ character ∈ word.capital, character.toNat < 128 :=
    List.forall_mem_cons.mpr
      ⟨capitalBasic, fun character member => (word.restPlain character member).toNat_lt⟩
  rw [lower, onCharacters, String.toList_ofList, lowerFrom_of_basic [] basic, capital,
    List.map_cons, map_toLower_of_plain word.restPlain, lowered, text]

/-- A word that is followed by capitals or by nothing ends where they begin. -/
theorem chunks_append_capitals (others : List PlainWord) {first : Char} :
    chunks (first :: (word.rest ++ others.flatMap capital)) =
      (first :: word.rest) :: chunks (others.flatMap capital) := by
  apply chunks_append word.restPlain (fun empty => absurd empty word.restNonempty)
  cases others with
  | nil => simp
  | cons second rest =>
    intro character atFront
    cases atFront
    exact (capital_begins second.firstLower).2.2.1

/-- Capitals divide words. -/
theorem chunks_flatMap_capital (words : List PlainWord) :
    chunks (words.flatMap capital) = words.map capital := by
  induction words with
  | nil => rfl
  | cons word others inductionHypothesis =>
    rw [List.flatMap_cons, capital, List.cons_append, word.chunks_append_capitals,
      inductionHypothesis, List.map_cons, capital]

end PlainWord

/-- The words of capitalized words behind a first one, which may have a capital itself. -/
theorem toList_join_capitalized (words : List PlainWord) :
    (String.join (words.map PlainWord.capitalized)).toList = words.flatMap PlainWord.capital := by
  have characters (word : PlainWord) : word.capitalized.toList = word.capital :=
    String.toList_ofList
  rw [String.toList_join, List.flatMap_map]
  simp only [characters]

theorem segments_pascal (words : List PlainWord) :
    segments (Style.spell .pascal words) = words.map PlainWord.text := by
  have characters : (Style.spell .pascal words).toList = words.flatMap PlainWord.capital :=
    toList_join_capitalized words
  have within : ∀ character ∈ words.flatMap PlainWord.capital, isAlphanumeric character = true :=
    List.forall_mem_flatMap.mpr fun word _ => word.isAlphanumeric_of_mem_capital
  rw [segments_of_alphanumeric (characters ▸ within), characters,
    PlainWord.chunks_flatMap_capital, List.map_map]
  exact List.map_congr_left fun word _ => word.lower_capital

theorem segments_camel (words : List PlainWord) :
    segments (Style.spell .camel words) = words.map PlainWord.text := by
  cases words with
  | nil => rfl
  | cons word others =>
    have characters : (Style.spell .camel (word :: others)).toList =
        word.first :: (word.rest ++ others.flatMap PlainWord.capital) := by
      rw [Style.spell, String.toList_append, toList_join_capitalized]
      exact congrArg (· ++ _) String.toList_ofList
    have within : ∀ character ∈ word.first :: (word.rest ++ others.flatMap PlainWord.capital),
        isAlphanumeric character = true := by
      rw [← List.cons_append]
      exact List.forall_mem_append.mpr ⟨word.isAlphanumeric_of_mem,
        List.forall_mem_flatMap.mpr fun other _ => other.isAlphanumeric_of_mem_capital⟩
    rw [segments_of_alphanumeric (characters ▸ within), characters, word.chunks_append_capitals,
      PlainWord.chunks_flatMap_capital, List.map_cons, List.map_cons, List.map_map]
    exact congrArg₂ List.cons word.isPlainText_text.lower_eq
      (List.map_congr_left fun other _ => other.lower_capital)

theorem segments_separated
    {separator : Char}
    (separates : isAlphanumeric separator = false)
    (words : List PlainWord) :
    segments (separated separator words) = words.map PlainWord.text := by
  rw [separated, segments_intercalate separates, List.flatMap_map]
  simp only [(PlainWord.isPlainText_text _).segments_eq]
  exact List.map_eq_flatMap.symm

/-- Words are found again in every style. -/
theorem segments_spell (style : Style) (words : List PlainWord) :
    segments (style.spell words) = words.map PlainWord.text := by
  cases style with
  | snake => exact segments_separated (by decide) words
  | kebab => exact segments_separated (by decide) words
  | dotted => exact segments_separated (by decide) words
  | camel => exact segments_camel words
  | pascal => exact segments_pascal words

/-! ## Verdicts in every style -/

/-- The words of a name are its letters and numbers in lowercase, in their order and divided at
everything else.  Plain words are found again in each style, so a file is flagged with the same
suggestion, and a type for the same modifier, however the words are written. -/
theorem segments_exact :
    (∀ name : String, ∃ parts : List (List Char),
      segments name = (parts.map fun part => lower (String.ofList part)) ∧
        Divides name.toList parts ∧
        parts.flatten = name.toList.filter isAlphanumeric ∧
        ∀ part ∈ parts, part ≠ [] ∧ part <:+: name.toList ∧
          ∀ character ∈ part, isAlphanumeric character = true) ∧
    ∀ words : List PlainWord,
      (∀ style : Style, segments (style.spell words) = words.map PlainWord.text) ∧
      ∀ (settings : NamingSettings) (style other : Style),
        (∀ path beside : String,
          Location.stem? path = some (style.spell words) →
          Location.stem? beside = some (other.spell words) →
          (checkFileName settings path).isSome = (checkFileName settings beside).isSome ∧
            (checkFileName settings path).map Finding.suggestion? =
              (checkFileName settings beside).map Finding.suggestion?) ∧
        symbolModifier? settings .type (style.spell words) =
          symbolModifier? settings .type (other.spell words) ∧
        ∀ (language : Language) (file : String) (line : Nat),
          (checkSymbol settings language file line .type (style.spell words)).any isAboutModifier =
            (checkSymbol settings language file line .type (other.spell words)).any
              isAboutModifier := by
  refine ⟨fun name => ?_, fun words => ⟨fun style => segments_spell style words, ?_⟩⟩
  · have divides := divides_nameChunks name.toList
    exact ⟨nameChunks name.toList, rfl, divides, divides.flatten_eq, fun part member =>
      ⟨divides.ne_nil part member, divides.stretch part member⟩⟩
  · intro settings style other
    have sameWords : segments (style.spell words) = segments (other.spell words) := by
      rw [segments_spell, segments_spell]
    have sameModifier : symbolModifier? settings .type (style.spell words) =
        symbolModifier? settings .type (other.spell words) := by
      rw [symbolModifier?, symbolModifier?, sameWords]
    refine ⟨fun path beside isStem isOtherStem => ?_, sameModifier, fun language file line => ?_⟩
    · have sameSuggestion : (checkFileName settings path).map Finding.suggestion? =
          (checkFileName settings beside).map Finding.suggestion? := by
        rw [map_suggestion_checkFileName settings isStem,
          map_suggestion_checkFileName settings isOtherStem, sameWords]
      have sameVerdict := congrArg Option.isSome sameSuggestion
      rw [Option.isSome_map, Option.isSome_map] at sameVerdict
      exact ⟨sameVerdict, sameSuggestion⟩
    · rw [any_isAboutModifier_checkSymbol, any_isAboutModifier_checkSymbol, sameModifier]

/-- The words `user`, `service` and `v2`. -/
def revisedService : List PlainWord :=
  [⟨'u', ['s', 'e', 'r'], by decide, by decide, by simp [IsPlain]⟩,
    ⟨'s', ['e', 'r', 'v', 'i', 'c', 'e'], by decide, by decide, by simp [IsPlain]⟩,
    ⟨'v', ['2'], by decide, by decide, by simp [IsPlain]⟩]

/-- The second version of a service is flagged with dots and with capitals. -/
theorem segments_exact_revisedService :
    segments "user.service.v2" = ["user", "service", "v2"] ∧
      segments "UserServiceV2" = ["user", "service", "v2"] ∧
      (checkFileName {} "src/user.service.v2.rs").isSome = true ∧
      (checkFileName {} "src/user.service.v2.rs").isSome =
        (checkFileName {} "lib/UserServiceV2.ts").isSome := by
  have inStyle := segments_exact.2 revisedService
  have sameVerdict := ((inStyle.2 {} .dotted .pascal).1 "src/user.service.v2.rs"
    "lib/UserServiceV2.ts" (by decide +kernel) (by decide +kernel)).1
  exact ⟨inStyle.1 .dotted, inStyle.1 .pascal, by decide +kernel, sameVerdict⟩

end Naming
end QualityGate
