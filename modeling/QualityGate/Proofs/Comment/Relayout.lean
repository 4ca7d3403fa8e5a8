import QualityGate.Proofs.Comment.CharacterLiteral
import QualityGate.Proofs.Comment.Scan
import QualityGate.Proofs.Text.Blanks

/-!
# Layout of lines

A line can be indented in another way, and a comment can be written behind it, apart from it.  Its
code keeps its words, and the next line starts where it started before.
-/

namespace QualityGate
namespace Comment

/-! ## Blanks in front of a line -/

section Blanks

variable {style : CommentStyle}

theorem isBlank_eq_false_of_mem_delimiter
    (listed : style ∈ CommentStyle.all)
    {delimiter : List Char}
    (isDelimiter : IsDelimiter style delimiter)
    {character : Char}
    (member : character ∈ delimiter) :
    Text.isBlank character = false := by
  have noBlank : (CommentStyle.all.all fun style => (delimiters style).all fun delimiter =>
      delimiter.all fun character => !Text.isBlank character) = true := by
    decide
  simp only [List.all_eq_true, Bool.not_eq_true'] at noBlank
  exact noBlank style listed delimiter ((isDelimiter_iff_mem delimiter).mp isDelimiter) character
    member

theorem isBlank_eq_false_of_mem_closing
    (listed : style ∈ CommentStyle.all)
    {opening closing : String}
    (block : style.block? = some (opening, closing))
    {character : Char}
    (member : character ∈ closing.toList) :
    Text.isBlank character = false := by
  have noBlank : (CommentStyle.all.all fun style => style.block?.toList.all fun block =>
      block.2.toList.all fun character => !Text.isBlank character) = true := by
    decide
  simp only [List.all_eq_true, Bool.not_eq_true'] at noBlank
  exact noBlank style listed (opening, closing) (by simp [block]) character member

/-- A blank begins neither a comment nor a literal. -/
theorem steps_blank
    (listed : style ∈ CommentStyle.all)
    {blank : Char}
    (isBlank : Text.isBlank blank = true)
    (rest : List Char) :
    Steps style .code (blank :: rest) [.code [blank]] .code rest := by
  have noQuote : (CommentStyle.all.all fun style =>
      style.quotes.all fun quote => !Text.isBlank quote) = true := by
    decide
  simp only [List.all_eq_true, Bool.not_eq_true'] at noQuote
  refine .code (fun delimiter isDelimiter atFront => ?_) ?_
  · obtain ⟨first, others, rfl⟩ := List.exists_cons_of_ne_nil (isDelimiter.ne_nil listed)
    have dark := isBlank_eq_false_of_mem_delimiter listed isDelimiter List.mem_cons_self
    rw [(List.cons_prefix_cons.mp atFront).1, isBlank] at dark
    cases dark
  · have noCharacter : blank ≠ '\'' := by
      rintro rfl
      cases isBlank
    have noText : blank ∉ style.quotes := fun member => by
      have dark := noQuote style listed blank member
      rw [isBlank] at dark
      cases dark
    simp [codeStep, noCharacter, noText]

theorem codePart_blanks (blanks : List Char) :
    (blanks.map fun blank => Piece.code [blank]).flatMap Piece.codePart = blanks := by
  simp [List.flatMap_map, Piece.codePart]

/-- Blanks outside of comments are code, and the scan goes on behind them. -/
theorem Scans.append_blanks
    (listed : style ∈ CommentStyle.all)
    {blanks characters : List Char}
    {found : List Piece}
    {ending : Ending}
    (areBlank : Text.AreBlank blanks)
    (scans : Scans style .code characters found ending) :
    Scans style .code (blanks ++ characters) (blanks.map (fun blank => .code [blank]) ++ found)
      ending := by
  induction blanks with
  | nil => exact scans
  | cons blank blanks inductionHypothesis =>
    obtain ⟨isBlank, areBlank⟩ := areBlank.of_cons
    have whole := Scans.step (steps_blank listed isBlank _) (inductionHypothesis areBlank)
    exact whole

/-- Blanks inside a block belong to its comment. -/
theorem Scans.append_blanks_of_block
    (listed : style ∈ CommentStyle.all)
    (stands : style.block? ≠ none)
    {blanks characters : List Char}
    {found : List Piece}
    {ending : Ending}
    (areBlank : Text.AreBlank blanks)
    (scans : Scans style .block characters found ending) :
    ∃ whole, Scans style .block (blanks ++ characters) whole ending ∧
      whole.flatMap Piece.codePart = found.flatMap Piece.codePart := by
  obtain ⟨⟨opening, closing⟩, block⟩ := Option.ne_none_iff_exists'.mp stands
  have nonempty := (CommentStyle.isProper_of_mem_all listed opening closing block).2
  have further : Text.splitAt? closing.toList (blanks ++ characters) =
      (Text.splitAt? closing.toList characters).map fun parts => (blanks ++ parts.1, parts.2) := by
    refine Text.splitAt?_append_of_notMem nonempty (fun character member closes => ?_) characters
    have dark := isBlank_eq_false_of_mem_closing listed block closes
    rw [areBlank character member] at dark
    cases dark
  have stays {line : List Char} (unclosed : Text.splitAt? closing.toList line = none) :
      ∃ whole, Scans style .block line whole .block ∧ whole.flatMap Piece.codePart = [] := by
    cases line with
    | nil => exact ⟨[], .done .block, rfl⟩
    | cons character rest => exact ⟨_, .stays block unclosed, rfl⟩
  cases scans with
  | done =>
    have nothing : Text.splitAt? closing.toList [] = none := by
      rw [← Option.not_isSome_iff_eq_none, Text.isSome_splitAt?_iff, List.infix_nil]
      exact nonempty
    refine stays ?_
    rw [further, nothing]
    rfl
  | stays other unclosed =>
    cases block.symm.trans other
    refine stays ?_
    rw [further, unclosed]
    rfl
  | step steps later =>
    cases steps with
    | closes other first =>
      cases block.symm.trans other
      rw [first] at further
      exact ⟨_, .step (.closes block further) later, rfl⟩

/-- A line that is indented in another way ends where it ended, with the same words of code. -/
theorem Scans.indent
    (listed : style ∈ CommentStyle.all)
    {inBlock : Bool}
    (stands : inBlock = true → style.block? ≠ none)
    {blanks characters : List Char}
    {found : List Piece}
    {ending : Ending}
    (areBlank : Text.AreBlank blanks)
    (scans : Scans style (if inBlock then .block else .code) characters found ending) :
    ∃ whole, Scans style (if inBlock then .block else .code) (blanks ++ characters) whole ending ∧
      Text.wordsOf (whole.flatMap Piece.codePart) =
        Text.wordsOf (found.flatMap Piece.codePart) := by
  cases inBlock with
  | false =>
    refine ⟨_, scans.append_blanks listed areBlank, ?_⟩
    rw [List.flatMap_append, codePart_blanks, Text.wordsOf_append_of_areBlank areBlank]
  | true =>
    obtain ⟨whole, wholeScan, code⟩ :=
      scans.append_blanks_of_block listed (stands rfl) areBlank
    exact ⟨whole, wholeScan, by rw [code]⟩

end Blanks

/-! ## Comments behind a line -/

/-- The line ends outside of blocks and of literals that are not closed, and no escape begins in it
that could look like a character literal. -/
structure TakesComment (style : CommentStyle) (inBlock : Bool) (line : String) : Prop where
  ends : EndsIn style inBlock line .code ∨ EndsIn style inBlock line .comment
  noEscape : style.characterLiterals = true → ¬['\'', '\\'] <:+: line.toList

/-- Blanks keep a marker apart from the line before it.  Without them, the line must not end with
the character that the marker begins with. -/
structure IsTrailing (style : CommentStyle) (line gap marker : String) : Prop where
  isMarker : marker ∈ style.markers
  areBlank : Text.AreBlank gap.toList
  apart : gap = "" → line.toList.getLast? ≠ marker.toList.head?

section Trailing

variable {style : CommentStyle} {line gap marker : String}

/-- A delimiter that goes on with the first character of a marker has that character twice. -/
theorem getLast?_eq_of_delimiter
    (listed : style ∈ CommentStyle.all)
    (isMarker : marker ∈ style.markers)
    {front others : List Char}
    {first : Char}
    (nonempty : front ≠ [])
    (isDelimiter : IsDelimiter style (front ++ first :: others))
    (begins : marker.toList.head? = some first) :
    front.getLast? = some first := by
  have twice : ∀ style ∈ CommentStyle.all, ∀ marker ∈ style.markers,
      ∀ delimiter ∈ delimiters style, ∀ place ∈ List.range delimiter.length,
        delimiter[place + 1]? = marker.toList.head? →
          delimiter[place]? = marker.toList.head? := by
    decide
  have positive := List.length_pos_iff.mpr nonempty
  have before := twice style listed marker isMarker _ ((isDelimiter_iff_mem _).mp isDelimiter)
    (front.length - 1) (by simp; omega)
  rw [Nat.sub_add_cancel positive, List.getElem?_append_right (Nat.le_refl _), Nat.sub_self,
    List.getElem?_append_left (by omega), begins] at before
  rw [List.getLast?_eq_getElem?]
  exact before rfl

/-- No delimiter goes on from a line into a comment behind it. -/
theorem IsTrailing.isPrefix
    (listed : style ∈ CommentStyle.all)
    (trailing : IsTrailing style line gap marker)
    (text : List Char)
    {rest delimiter : List Char}
    (isSuffix : rest <:+ line.toList)
    (nonempty : rest ≠ [])
    (isDelimiter : IsDelimiter style delimiter)
    (atFront : delimiter <+: rest ++ (gap.toList ++ (marker.toList ++ text))) :
    delimiter <+: rest := by
  cases gap_eq : gap.toList with
  | cons blank blanks =>
    have isBlank := trailing.areBlank blank (by simp [gap_eq])
    rw [gap_eq, List.cons_append] at atFront
    refine Text.isPrefix_of_isPrefix_append_cons (fun member => ?_) atFront
    have dark := isBlank_eq_false_of_mem_delimiter listed isDelimiter member
    rw [isBlank] at dark
    cases dark
  | nil =>
    rw [gap_eq, List.nil_append] at atFront
    rcases List.prefix_or_prefix_of_prefix atFront (List.prefix_append rest _) with
      shorter | ⟨others, rfl⟩
    · exact shorter
    -- the delimiter would go on with the marker, which the line then already ends with
    · cases others with
      | nil => simp
      | cons next others =>
        have isDelimiterOfMarker : IsDelimiter style marker.toList :=
          .inl ⟨marker, trailing.isMarker, rfl⟩
        obtain ⟨first, following, marker_eq⟩ :=
          List.exists_cons_of_ne_nil (isDelimiterOfMarker.ne_nil listed)
        rw [marker_eq] at atFront
        have same := (List.cons_prefix_cons.mp ((List.prefix_append_right_inj rest).mp atFront)).1
        subst same
        have begins : marker.toList.head? = some next := by rw [marker_eq, List.head?_cons]
        have last := getLast?_eq_of_delimiter listed trailing.isMarker nonempty isDelimiter begins
        have lineLast := trailing.apart (String.toList_eq_nil_iff.mp gap_eq)
        obtain ⟨front, split⟩ := isSuffix
        rw [← split, List.getLast?_append_of_ne_nil _ nonempty, last, begins] at lineLast
        exact absurd rfl lineLast

/-- A comment behind the first characters of a line does not make a character literal of them. -/
theorem opensNothing_append
    {front gap : List Char}
    (short : front.length < 2)
    (noEscape : front[0]? ≠ some '\\')
    (areBlank : Text.AreBlank gap)
    (text : List Char) :
    OpensNothing (front ++ (gap ++ '/' :: '/' :: text)) := by
  have plain {blank : Char} (isBlank : Text.isBlank blank = true) :
      blank ≠ '\\' ∧ blank ≠ '\'' := by
    constructor <;> rintro rfl <;> cases isBlank
  match front, gap with
  | [], [] => exact ⟨by simp, by simp⟩
  | [], [blank] =>
    have here := plain (areBlank blank (by simp))
    exact ⟨by simpa using here.1, by simp⟩
  | [], blank :: other :: _ =>
    have here := plain (areBlank blank (by simp))
    have next := plain (areBlank other (by simp))
    exact ⟨by simpa using here.1, by simpa using next.2⟩
  | [_], [] => exact ⟨by simpa using noEscape, by simp⟩
  | [_], blank :: _ =>
    have here := plain (areBlank blank (by simp))
    exact ⟨by simpa using noEscape, by simpa using here.2⟩

/-- Whether a character literal is recognised is decided by the line and not by a comment behind
it. -/
theorem characterLiteralLength?_append
    {rest gap : List Char}
    (noEscape : rest[0]? ≠ some '\\')
    (areBlank : Text.AreBlank gap)
    (text : List Char) :
    characterLiteralLength? ('\'' :: rest ++ (gap ++ '/' :: '/' :: text)) =
      characterLiteralLength? ('\'' :: rest) := by
  match rest with
  | [] =>
    have behind : OpensNothing ([] ++ (gap ++ '/' :: '/' :: text)) :=
      opensNothing_append (by simp) noEscape areBlank text
    exact behind.characterLiteralLength?_eq
  | [character] =>
    have opens : OpensNothing [character] := ⟨noEscape, by simp⟩
    have behind : OpensNothing ([character] ++ (gap ++ '/' :: '/' :: text)) :=
      opensNothing_append (by simp) noEscape areBlank text
    rw [opens.characterLiteralLength?_eq]
    exact behind.characterLiteralLength?_eq
  | first :: second :: others =>
    have plain : first ≠ '\\' := by simpa using noEscape
    simp [characterLiteralLength?]

theorem IsTrailing.apart_of_takes
    (listed : style ∈ CommentStyle.all)
    {inBlock : Bool}
    (takes : TakesComment style inBlock line)
    (trailing : IsTrailing style line gap marker)
    (text : List Char) :
    Apart style line.toList (gap.toList ++ (marker.toList ++ text)) where
  delimiter rest isSuffix nonempty delimiter isDelimiter atFront :=
    trailing.isPrefix listed text isSuffix nonempty isDelimiter atFront
  literal recognised rest isSuffix := by
    have slashes : ∀ style ∈ CommentStyle.all, style.characterLiterals = true →
        style.markers = ["//"] := by
      decide
    have isSlashes : marker = "//" := by
      simpa [slashes style listed recognised] using trailing.isMarker
    have noEscape : rest[0]? ≠ some '\\' := by
      intro escape
      obtain ⟨others, rfl⟩ : ∃ others, rest = '\\' :: others := by
        cases rest with
        | nil => cases escape
        | cons first others =>
          rw [List.getElem?_cons_zero, Option.some.injEq] at escape
          exact ⟨others, by rw [escape]⟩
      have isPrefix : ['\'', '\\'] <+: '\'' :: '\\' :: others := ⟨others, rfl⟩
      exact takes.noEscape recognised (isPrefix.isInfix.trans isSuffix.isInfix)
    subst isSlashes
    exact characterLiteralLength?_append noEscape trailing.areBlank text

/-- What stands behind a line that ends in code adds nothing but blanks to its code. -/
theorem IsTrailing.exists_scans
    (listed : style ∈ CommentStyle.all)
    (trailing : IsTrailing style line gap marker)
    (text : List Char) :
    ∃ later, Scans style .code (gap.toList ++ (marker.toList ++ text)) later .comment ∧
      Text.AreBlank (later.flatMap Piece.codePart) := by
  have isDelimiter : IsDelimiter style marker.toList := .inl ⟨marker, trailing.isMarker, rfl⟩
  obtain ⟨first, following, marker_eq⟩ :=
    List.exists_cons_of_ne_nil (isDelimiter.ne_nil listed)
  have isMarker := markerAt?_append listed trailing.isMarker text
  rw [marker_eq, List.cons_append] at isMarker ⊢
  refine ⟨_, (Scans.marker isMarker).append_blanks listed trailing.areBlank, ?_⟩
  rw [List.flatMap_append, codePart_blanks]
  simpa [Piece.codePart] using trailing.areBlank

end Trailing

/-! ## Lines and files -/

/-- Two lines that differ in their layout only: blanks in front of them, and a comment behind. -/
inductive RelaidLine (style : CommentStyle) (inBlock : Bool) : String → String → Prop
  | indented {indent other : String} (body : String)
      (areBlank : Text.AreBlank indent.toList) (otherBlank : Text.AreBlank other.toList) :
      RelaidLine style inBlock (indent ++ body) (other ++ body)
  | commented {indent other gap marker : String} (body text : String)
      (areBlank : Text.AreBlank indent.toList) (otherBlank : Text.AreBlank other.toList)
      (takes : TakesComment style inBlock (indent ++ body))
      (trailing : IsTrailing style (indent ++ body) gap marker) :
      RelaidLine style inBlock (indent ++ body) (other ++ body ++ (gap ++ marker ++ text))

/-- Two lists of lines that differ in the layout of their lines only.  Whether a line can take a
comment depends on the lines before it. -/
inductive Relaid (style : CommentStyle) : Bool → List String → List String → Prop
  | nil (inBlock : Bool) : Relaid style inBlock [] []
  | cons {inBlock : Bool} {line other : String} {lines others : List String}
      (first : RelaidLine style inBlock line other)
      (further : Relaid style (splitLine style inBlock line).2 lines others) :
      Relaid style inBlock (line :: lines) (other :: others)

section Lines

variable {style : CommentStyle} {inBlock : Bool}

/-- What a scan finds in a line decides about the words of its code. -/
theorem Scans.words_eq
    (proper : style.IsProper)
    {line other : String}
    {found whole : List Piece}
    {ending otherEnding : Ending}
    (scans : Scans style (if inBlock then .block else .code) line.toList found ending)
    (others : Scans style (if inBlock then .block else .code) other.toList whole otherEnding)
    (words : Text.wordsOf (whole.flatMap Piece.codePart) =
      Text.wordsOf (found.flatMap Piece.codePart))
    (sameBlock : (otherEnding == .block) = (ending == .block)) :
    Text.words (splitLine style inBlock other).1.code =
        Text.words (splitLine style inBlock line).1.code ∧
      (splitLine style inBlock other).2 = (splitLine style inBlock line).2 := by
  rw [scans.splitLine_eq proper, others.splitLine_eq proper]
  refine ⟨?_, sameBlock⟩
  simp only [Text.words, LineParts.ofPieces, String.toList_ofList, words]

theorem RelaidLine.words_eq
    (listed : style ∈ CommentStyle.all)
    (stands : inBlock = true → style.block? ≠ none)
    {line other : String}
    (relaid : RelaidLine style inBlock line other) :
    Text.words (splitLine style inBlock other).1.code =
        Text.words (splitLine style inBlock line).1.code ∧
      (splitLine style inBlock other).2 = (splitLine style inBlock line).2 := by
  have proper := CommentStyle.isProper_of_mem_all listed
  cases relaid with
  | @indented indent otherIndent body areBlank otherBlank =>
    obtain ⟨found, ending, scans⟩ := exists_scans proper stands body.toList
    obtain ⟨whole, wholeScan, words⟩ := scans.indent listed stands areBlank
    obtain ⟨others, otherScan, otherWords⟩ := scans.indent listed stands otherBlank
    rw [← String.toList_append] at wholeScan otherScan
    exact wholeScan.words_eq proper otherScan (otherWords.trans words.symm) rfl
  | @commented indent otherIndent gap marker body text areBlank otherBlank takes trailing =>
    obtain ⟨found, ending, scans⟩ := exists_scans proper stands body.toList
    obtain ⟨whole, wholeScan, words⟩ := scans.indent listed stands areBlank
    rw [← String.toList_append] at wholeScan
    have apart : Apart style body.toList (gap.toList ++ (marker.toList ++ text.toList)) :=
      (trailing.apart_of_takes listed takes text.toList).suffix (by simp)
    -- behind the body the scan goes on with the comment, and what it finds there is no word
    have further : ∃ behind, Scans style (if inBlock then .block else .code)
        (body.toList ++ (gap.toList ++ (marker.toList ++ text.toList))) behind .comment ∧
        Text.wordsOf (behind.flatMap Piece.codePart) =
          Text.wordsOf (found.flatMap Piece.codePart) := by
      obtain inCode | inComment := takes.ends
      · obtain rfl := wholeScan.endsIn.unique proper inCode
        obtain ⟨later, laterScan, noWord⟩ := trailing.exists_scans listed text.toList
        refine ⟨_, scans.append proper apart laterScan, ?_⟩
        rw [List.flatMap_append, Text.wordsOf_append_areBlank _ noWord]
      · obtain rfl := wholeScan.endsIn.unique proper inComment
        obtain ⟨behind, behindScan, code⟩ := scans.append_comment proper apart
        exact ⟨behind, behindScan, by rw [code]⟩
    obtain ⟨behind, behindScan, behindWords⟩ := further
    obtain ⟨others, otherScan, otherWords⟩ := behindScan.indent listed stands otherBlank
    have other_eq : otherIndent.toList ++
        (body.toList ++ (gap.toList ++ (marker.toList ++ text.toList))) =
          (otherIndent ++ body ++ (gap ++ marker ++ text)).toList := by
      simp
    rw [other_eq] at otherScan
    have sameBlock : (Ending.comment == .block) = (ending == .block) := by
      obtain inCode | inComment := takes.ends
      · rw [wholeScan.endsIn.unique proper inCode]
        rfl
      · rw [wholeScan.endsIn.unique proper inComment]
    exact wholeScan.words_eq proper otherScan ((otherWords.trans behindWords).trans words.symm)
      sameBlock

/-- Lines that differ in their layout only have the same words of code, line by line. -/
theorem Relaid.words_eq
    (listed : style ∈ CommentStyle.all)
    (stands : inBlock = true → style.block? ≠ none)
    {lines others : List String}
    (relaid : Relaid style inBlock lines others) :
    (splitFrom style inBlock others).map (fun parts => Text.words parts.code) =
      (splitFrom style inBlock lines).map fun parts => Text.words parts.code := by
  have proper := CommentStyle.isProper_of_mem_all listed
  induction relaid with
  | nil => rfl
  | @cons inBlock line other lines others relaidLine further inductionHypothesis =>
    obtain ⟨words, sameBlock⟩ := relaidLine.words_eq listed stands
    have later := inductionHypothesis
      ((factors_splitLine proper stands line).layout.block?_ne_none stands)
    rw [splitFrom, splitFrom, List.map_cons, List.map_cons, words, sameBlock, later]

end Lines

end Comment
end QualityGate
