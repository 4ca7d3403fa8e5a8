import QualityGate.Proofs.Comment.Factorization

/-!
# Character literals

A character literal is a character or an escape between single quotes.  It is recognised whole,
whatever follows it, except an escape with six hexadecimal digits: a scan looks for its closing
quote among eight characters and would find it as the ninth.  Its quotes are then read one by one,
like those of lifetimes, which does no harm unless the closing one seems to open a literal with what
follows.  Apart from that, a line of code and character literals is split at the marker behind them.
-/

namespace QualityGate
namespace Comment

/-! ## Literals -/

/-- A digit of a number in base sixteen. -/
def IsHexDigit (digit : Char) : Prop :=
  (Text.hexValue? digit).isSome = true

instance : DecidablePred IsHexDigit :=
  fun digit => inferInstanceAs (Decidable ((Text.hexValue? digit).isSome = true))

/-- An escape: what stands for a character behind a backslash. -/
inductive Escape where
  | simple (escaped : Char) (known : escaped ∈ ['n', 'r', 't', '0', '\\', '\'', '"'])
  | byte (high low : Char) (areDigits : IsHexDigit high ∧ IsHexDigit low)
  | codePoint (digits : List Char) (areDigits : ∀ digit ∈ digits, IsHexDigit digit)
      (count : 1 ≤ digits.length ∧ digits.length ≤ 6)

namespace Escape

/-- The character behind the backslash. -/
def kind : Escape → Char
  | simple escaped _ => escaped
  | byte _ _ _ => 'x'
  | codePoint _ _ _ => 'u'

/-- What an escape consists of behind its first character. -/
def body : Escape → List Char
  | simple _ _ => []
  | byte high low _ => [high, low]
  | codePoint digits _ _ => '\x7b' :: (digits ++ ['\x7d'])

/-- The escape has six digits, the most there are. -/
def HasSixDigits : Escape → Prop
  | codePoint digits _ _ => digits.length = 6
  | _ => False

instance : DecidablePred HasSixDigits
  | simple _ _ => inferInstanceAs (Decidable False)
  | byte _ _ _ => inferInstanceAs (Decidable False)
  | codePoint digits _ _ => inferInstanceAs (Decidable (digits.length = 6))

end Escape

/-- A character literal: a character that needs no escape, or an escape. -/
inductive CharacterLiteral where
  | plain (character : Char) (isPlain : character ≠ '\'' ∧ character ≠ '\\')
  | escape (escaped : Escape)

namespace CharacterLiteral

/-- How a character literal is written. -/
def source : CharacterLiteral → List Char
  | plain character _ => ['\'', character, '\'']
  | escape escaped => '\'' :: '\\' :: escaped.kind :: (escaped.body ++ ['\''])

/-- The literal is an escape with six digits. -/
def HasSixDigits : CharacterLiteral → Prop
  | plain _ _ => False
  | escape escaped => escaped.HasSixDigits

instance : DecidablePred HasSixDigits
  | plain _ _ => inferInstanceAs (Decidable False)
  | escape escaped => inferInstanceAs (Decidable escaped.HasSixDigits)

end CharacterLiteral

/-- A digit is none of the characters that have no value. -/
theorem IsHexDigit.ne {digit other : Char} (isDigit : IsHexDigit digit)
    (valueless : Text.hexValue? other = none) : digit ≠ other := by
  rintro rfl
  rw [IsHexDigit, valueless] at isDigit
  cases isDigit

theorem Escape.quote_notMem_body (escaped : Escape) : '\'' ∉ escaped.body := by
  have noQuote {digit : Char} (isDigit : IsHexDigit digit) : '\'' ≠ digit :=
    (isDigit.ne rfl).symm
  cases escaped with
  | simple => exact List.not_mem_nil
  | byte high low areDigits => simp [body, noQuote areDigits.1, noQuote areDigits.2]
  | codePoint digits areDigits =>
    simpa [body] using fun member => noQuote (areDigits _ member) rfl

/-- Only six digits make the body of an escape as long as the stretch that is searched. -/
theorem Escape.length_body_lt_iff (escaped : Escape) :
    escaped.body.length < 8 ↔ ¬escaped.HasSixDigits := by
  cases escaped with
  | simple => simp [body, HasSixDigits]
  | byte => simp [body, HasSixDigits]
  | codePoint digits areDigits count =>
    simp only [body, HasSixDigits, List.length_cons, List.length_append, List.length_nil]
    omega

/-! ## Recognition -/

/-- The first quote among the next eight characters is found if it is one of them. -/
theorem findIdx?_take_eight {inside : List Char} (free : '\'' ∉ inside) (following : List Char) :
    ((inside ++ '\'' :: following).take 8).findIdx? (· == '\'') =
      if inside.length < 8 then some inside.length else none := by
  have skipped {characters : List Char} (part : characters.Sublist inside) :
      characters.findIdx? (· == '\'') = none := by
    rw [List.findIdx?_eq_none_iff]
    intro character member
    rw [beq_eq_false_iff_ne]
    rintro rfl
    exact free (part.subset member)
  rw [List.take_append, List.findIdx?_append]
  split
  · rename_i short
    obtain ⟨left, enough⟩ : ∃ left, 8 - inside.length = left + 1 := ⟨7 - inside.length, by omega⟩
    rw [List.take_of_length_le (by omega), skipped (List.Sublist.refl _), enough,
      List.take_succ_cons, List.findIdx?_cons]
    simp
  · rename_i long
    rw [Nat.sub_eq_zero_of_le (by omega), skipped (List.take_sublist 8 inside)]
    simp

/-- A literal is recognised whole unless it has six digits, and then not at all. -/
theorem characterLiteralLength?_source (literal : CharacterLiteral) (following : List Char) :
    characterLiteralLength? (literal.source ++ following) =
      if literal.HasSixDigits then none else some literal.source.length := by
  cases literal with
  | plain character isPlain =>
    change characterLiteralLength? ('\'' :: character :: '\'' :: following) = some 3
    rw [characterLiteralLength?.eq_2 _ _ _ _ isPlain.2]
    rfl
  | escape escaped =>
    have found := findIdx?_take_eight escaped.quote_notMem_body following
    simp only [escaped.length_body_lt_iff] at found
    simp only [CharacterLiteral.source, CharacterLiteral.HasSixDigits, List.cons_append,
      List.append_assoc, List.nil_append, characterLiteralLength?, found]
    split <;> simp_all

/-! ## Lines -/

/-- A character of code that begins neither a literal nor a comment. -/
def IsFree (character : Char) : Prop :=
  character ≠ '\'' ∧ character ≠ '"' ∧ character ≠ '/'

instance : DecidablePred IsFree :=
  fun character => inferInstanceAs (Decidable (character ≠ '\'' ∧ character ≠ '"' ∧ character ≠ '/'))

/-- A part of a line before its comment. -/
inductive Segment where
  | code (characters : List Char) (areFree : ∀ character ∈ characters, IsFree character)
  | literal (written : CharacterLiteral)

namespace Segment

/-- The characters of a part of a line. -/
def source : Segment → List Char
  | code characters _ => characters
  | literal written => written.source

end Segment

/-- The characters of consecutive parts of a line. -/
def sourceOf (segments : List Segment) : List Char :=
  segments.flatMap Segment.source

/-- A quote in front of the characters does not seem to open a literal: neither does an escape
follow, nor a character and another quote. -/
def OpensNothing (characters : List Char) : Prop :=
  characters[0]? ≠ some '\\' ∧ characters[1]? ≠ some '\''

/-- What follows a literal with six digits does not look like the inside of another one. -/
def AreApart : List Segment → Prop
  | [] => True
  | .code _ _ :: following => AreApart following
  | .literal written :: following =>
    (written.HasSixDigits → OpensNothing (sourceOf following)) ∧ AreApart following

/-- A line that starts outside of blocks has the given code and comment, and ends outside. -/
structure SplitsInto (line code comment : List Char) : Prop where
  code_eq : (pieces .slashesWithLifetimes false line).1.flatMap Piece.codePart = code
  comment_eq : (pieces .slashesWithLifetimes false line).1.flatMap Piece.commentPart = comment
  outside : (pieces .slashesWithLifetimes false line).2 = false

theorem SplitsInto.splitLine_eq {line code comment : List Char}
    (splits : SplitsInto line code comment) :
    splitLine .slashesWithLifetimes false (String.ofList line) =
      (⟨String.ofList code, String.ofList comment⟩, false) := by
  rw [splitLine, String.toList_ofList, ← splits.code_eq, ← splits.comment_eq]
  exact Prod.ext rfl splits.outside

/-- All of the text behind a marker is comment. -/
theorem splitsInto_marker (text : List Char) : SplitsInto ('/' :: '/' :: text) [] text := by
  have found : pieces .slashesWithLifetimes false ('/' :: '/' :: text) =
      ([.marker ['/', '/'], .comment text], false) := rfl
  refine ⟨?_, ?_, ?_⟩ <;> simp [found, Piece.codePart, Piece.commentPart]

/-- No comment starts with a character that is not a slash. -/
theorem piecesFrom_of_ne_slash {character : Char} {rest taken after : List Char} {mode : Mode}
    (noSlash : character ≠ '/')
    (step : codeStep .slashesWithLifetimes character rest = (taken, after, mode))
    (fuel : Nat) :
    piecesFrom .slashesWithLifetimes (fuel + 1) .code (character :: rest) =
      (.code taken :: (piecesFrom .slashesWithLifetimes fuel mode after).1,
        (piecesFrom .slashesWithLifetimes fuel mode after).2) := by
  have noMarker : markerAt? .slashesWithLifetimes (character :: rest) = none := by
    simp [markerAt?, CommentStyle.slashesWithLifetimes, noSlash.symm]
  have noBlock : (CommentStyle.slashesWithLifetimes.block?.bind fun block =>
      (block.1.toList.isPrefixOf? (character :: rest)).map fun after => (block.1, after)) =
        none := by
    simp [CommentStyle.slashesWithLifetimes, List.isPrefixOf?, noSlash.symm]
  simp only [piecesFrom, noMarker, noBlock, step]

/-- What a step through code takes is code. -/
theorem SplitsInto.codeStep {character : Char} {rest taken after code comment : List Char}
    (noSlash : character ≠ '/')
    (step : Comment.codeStep .slashesWithLifetimes character rest = (taken, after, .code))
    (later : SplitsInto after code comment) :
    SplitsInto (character :: rest) (taken ++ code) comment := by
  have proper : CommentStyle.slashesWithLifetimes.IsProper :=
    CommentStyle.isProper_of_mem_all (by decide)
  have nonempty : taken ≠ [] := by
    simpa [step] using codeStep_fst_ne_nil .slashesWithLifetimes character rest
  have split : character :: rest = taken ++ after := by
    simpa [step] using (codeStep_append .slashesWithLifetimes character rest).symm
  have shorter : after.length ≤ (character :: rest).length :=
    length_le_of_cons_eq_append split nonempty _ (Nat.le_succ _)
  -- one step less is enough fuel for what is left
  have cut : Cuts .slashesWithLifetimes .code after (pieces .slashesWithLifetimes false after) :=
    cuts_pieces proper (fun inside : false = true => nomatch inside) after
  have found : pieces .slashesWithLifetimes false (character :: rest) =
      (.code taken :: (pieces .slashesWithLifetimes false after).1,
        (pieces .slashesWithLifetimes false after).2) := by
    rw [← cut.steps _ shorter]
    exact piecesFrom_of_ne_slash noSlash step _
  refine ⟨?_, ?_, ?_⟩
  · rw [found, List.flatMap_cons, later.code_eq]
    rfl
  · rw [found, List.flatMap_cons, later.comment_eq]
    rfl
  · rw [found, later.outside]

/-- Characters that begin nothing are code. -/
theorem SplitsInto.free {characters after code comment : List Char}
    (areFree : ∀ character ∈ characters, IsFree character)
    (later : SplitsInto after code comment) :
    SplitsInto (characters ++ after) (characters ++ code) comment := by
  induction characters with
  | nil => exact later
  | cons character rest ih =>
    obtain ⟨noQuote, noDoubleQuote, noSlash⟩ := areFree character List.mem_cons_self
    have step : Comment.codeStep .slashesWithLifetimes character (rest ++ after) =
        ([character], rest ++ after, .code) := by
      simp [Comment.codeStep, CommentStyle.slashesWithLifetimes, noQuote, noDoubleQuote]
    have further := ih fun other member => areFree other (List.mem_cons_of_mem _ member)
    change SplitsInto (character :: (rest ++ after)) ([character] ++ (rest ++ code)) comment
    exact further.codeStep noSlash step

/-- A quote takes along the literal that is recognised with it, or stands alone. -/
theorem SplitsInto.quote (inside : List Char) {after code comment : List Char}
    (length_eq : (characterLiteralLength? ('\'' :: (inside ++ after))).getD 1 = inside.length + 1)
    (later : SplitsInto after code comment) :
    SplitsInto ('\'' :: (inside ++ after)) ('\'' :: (inside ++ code)) comment := by
  have step : Comment.codeStep .slashesWithLifetimes '\'' (inside ++ after) =
      ('\'' :: inside, after, .code) := by
    simp [Comment.codeStep, CommentStyle.slashesWithLifetimes, length_eq]
  exact later.codeStep (by decide) step

theorem OpensNothing.characterLiteralLength?_eq {characters : List Char}
    (opensNothing : OpensNothing characters) :
    characterLiteralLength? ('\'' :: characters) = none := by
  obtain ⟨noEscape, noQuote⟩ := opensNothing
  unfold characterLiteralLength?
  split <;> simp_all

/-- The marker behind a line does not look like the inside of a literal. -/
theorem OpensNothing.append_marker {characters : List Char}
    (opensNothing : OpensNothing characters) (text : List Char) :
    OpensNothing (characters ++ '/' :: '/' :: text) := by
  match characters, opensNothing with
  | [], _ => simp [OpensNothing]
  | [_], opensNothing => simpa [OpensNothing] using opensNothing.1
  | _ :: _ :: _, opensNothing => exact opensNothing

/-- Between the quotes of a literal with six digits there is nothing but code. -/
theorem Escape.areFree {escaped : Escape} (six : escaped.HasSixDigits) :
    ∀ character ∈ '\\' :: escaped.kind :: escaped.body, IsFree character := by
  cases escaped with
  | simple => cases six
  | byte => cases six
  | codePoint digits areDigits =>
    intro character member
    simp only [kind, body, List.mem_cons, List.mem_append, List.not_mem_nil, or_false] at member
    obtain rfl | rfl | rfl | isDigit | rfl := member
    case inr.inr.inr.inl =>
      have isDigit := areDigits character isDigit
      exact ⟨isDigit.ne rfl, isDigit.ne rfl, isDigit.ne rfl⟩
    all_goals exact ⟨by decide, by decide, by decide⟩

theorem CharacterLiteral.exists_source_eq (written : CharacterLiteral) :
    ∃ inside, written.source = '\'' :: inside := by
  cases written <;> exact ⟨_, rfl⟩

/-- A literal in front of a line is code, if what follows six digits does not look like the inside
of another literal. -/
theorem SplitsInto.literal {written : CharacterLiteral} {after code comment : List Char}
    (apart : written.HasSixDigits → OpensNothing after)
    (later : SplitsInto after code comment) :
    SplitsInto (written.source ++ after) (written.source ++ code) comment := by
  have length_eq := characterLiteralLength?_source written after
  by_cases six : written.HasSixDigits
  · rw [if_pos six] at length_eq
    cases written with
    | plain => cases six
    | escape escaped =>
      simp only [CharacterLiteral.source, List.cons_append, List.append_assoc, List.nil_append]
        at length_eq ⊢
      -- both quotes stand alone, and what is between them is code
      have closing := later.quote [] (by simp [(apart six).characterLiteralLength?_eq])
      have between := closing.free (Escape.areFree six)
      exact between.quote [] (by simp [length_eq])
  · rw [if_neg six] at length_eq
    obtain ⟨inside, source_eq⟩ := written.exists_source_eq
    rw [source_eq] at length_eq ⊢
    exact later.quote inside (by simpa using congrArg (Option.getD · 1) length_eq)

/-- A line of code and literals is split at the marker behind them. -/
theorem splitsInto_sourceOf {segments : List Segment} (areApart : AreApart segments)
    (text : List Char) :
    SplitsInto (sourceOf segments ++ '/' :: '/' :: text) (sourceOf segments) text := by
  induction segments with
  | nil => exact splitsInto_marker text
  | cons segment following ih =>
    rw [sourceOf, List.flatMap_cons, List.append_assoc]
    cases segment with
    | code characters areFree => exact (ih areApart).free areFree
    | literal written =>
      exact (ih areApart.2).literal fun six => (areApart.1 six).append_marker text

/-! ## Recognition of literals and of the comment behind them -/

/-- The number of bytes of the literal that is recognised at the front. -/
def characterLiteralSize? (characters : List Char) : Option Nat :=
  (characterLiteralLength? characters).map fun length =>
    (String.ofList (characters.take length)).utf8ByteSize

/-- A literal is recognised in all its characters and bytes, whatever follows it, exactly unless it
has six digits; then nothing is recognised.  A line of code and literals has exactly the text behind
its marker as its comment, if what follows six digits does not look like the inside of another
literal. -/
theorem recognises_literals_below_six_digits
    (written : CharacterLiteral)
    (following : List Char)
    (segments : List Segment)
    (text : List Char) :
    (characterLiteralLength? (written.source ++ following) =
        if written.HasSixDigits then none else some written.source.length) ∧
      (characterLiteralSize? (written.source ++ following) =
        if written.HasSixDigits then none
        else some (String.ofList written.source).utf8ByteSize) ∧
      (AreApart segments →
        splitLine (Profile.ofLanguage (some .rust)).comments false
            (String.ofList (sourceOf segments ++ '/' :: '/' :: text)) =
          (⟨String.ofList (sourceOf segments), String.ofList text⟩, false)) := by
  have length_eq := characterLiteralLength?_source written following
  refine ⟨length_eq, ?_, fun areApart => (splitsInto_sourceOf areApart text).splitLine_eq⟩
  rw [characterLiteralSize?, length_eq]
  split <;> simp

/-- With six digits, the quote of the next literal opens a text if it stands too close, and the
comment is lost. -/
theorem recognises_literals_below_six_digits_in_lists :
    ∃ (highest : CharacterLiteral) (spaced close : List Segment),
      highest.source = "'\\u\x7b10FFFF\x7d'".toList ∧
        sourceOf spaced = "'\\u\x7b10FFFF\x7d', '\"'".toList ∧
        sourceOf close = "'\\u\x7b10FFFF\x7d','\"'".toList ∧
        characterLiteralLength? (highest.source ++ [',', ' ']) = none ∧
        AreApart spaced ∧
        splitLine (Profile.ofLanguage (some .rust)).comments false
            (String.ofList (sourceOf spaced ++ ['/', '/', 't'])) =
          (⟨String.ofList (sourceOf spaced), "t"⟩, false) ∧
        splitLine (Profile.ofLanguage (some .rust)).comments false
            (String.ofList (sourceOf close ++ ['/', '/', 't'])) =
          (⟨String.ofList (sourceOf close ++ ['/', '/', 't']), ""⟩, false) := by
  let highest : CharacterLiteral :=
    .escape (.codePoint ['1', '0', 'F', 'F', 'F', 'F']
      (by simp [IsHexDigit, Text.hexValue?]) (by decide))
  let quote : CharacterLiteral := .plain '"' (by decide)
  let spaced : List Segment :=
    [.literal highest, .code [',', ' '] (by simp [IsFree]), .literal quote]
  have last : AreApart [.literal quote] := ⟨False.elim, trivial⟩
  have areApart : AreApart spaced := ⟨fun _ => ⟨by decide, by decide⟩, last⟩
  obtain ⟨unrecognised, -, split⟩ :=
    recognises_literals_below_six_digits highest [',', ' '] spaced ['t']
  exact ⟨highest, spaced, [.literal highest, .code [','] (by simp [IsFree]), .literal quote],
    rfl, rfl, rfl, unrecognised, areApart, split areApart, by decide +kernel⟩

end Comment
end QualityGate
