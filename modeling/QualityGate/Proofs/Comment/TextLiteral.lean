import QualityGate.Proofs.Comment.Scan

/-!
# Text literals

A text literal is code from its opening quote to its closing one, whatever stands between them: a
marker or a delimiter of blocks in it starts no comment.  What is written behind it is split as if
it stood alone.  Where blocks are delimited by the quotes themselves, the opening quote must not be
part of such a delimiter.
-/

namespace QualityGate

namespace CommentStyle

/-- Quotes protect and mark nothing: no quote is a backslash, and none is part of a marker. -/
structure KeepsQuotes (style : CommentStyle) : Prop where
  notEscape : ∀ quote ∈ style.quotes, quote ≠ '\\'
  notInMarker : ∀ quote ∈ style.quotes, ∀ marker ∈ style.markers, quote ∉ marker.toList

theorem keepsQuotes_of_mem_all {style : CommentStyle} (listed : style ∈ all) :
    style.KeepsQuotes := by
  have notEscape : (all.all fun style => style.quotes.all (· != '\\')) = true := by
    decide
  have notInMarker : (all.all fun style => style.quotes.all fun quote =>
      style.markers.all fun marker => marker.toList.all (· != quote)) = true := by
    decide
  simp only [List.all_eq_true, bne_iff_ne] at notEscape notInMarker
  exact ⟨notEscape style listed, fun quote isQuote marker isMarker inMarker =>
    notInMarker style listed quote isQuote marker isMarker quote inMarker rfl⟩

end CommentStyle

namespace Comment

/-- No occurrence of the part in the line covers the character at the place. -/
def LeavesFree (part line : List Char) (place : Nat) : Prop :=
  ∀ before after, line = before ++ part ++ after →
    before.length + part.length ≤ place ∨ place < before.length

/-- Where a block is opened by the quote itself, the quote behind the front is part of no such
delimiter. -/
def QuoteIsFree (style : CommentStyle) (quote : Char) (front behind : List Char) : Prop :=
  ∀ opening closing, style.block? = some (opening, closing) → quote ∈ opening.toList →
    LeavesFree opening.toList (front ++ quote :: behind) front.length

section Quote

variable {style : CommentStyle} {quote : Char} {front behind : List Char}

/-- A delimiter lacks the quote, or it opens blocks and leaves the quote free. -/
theorem absent_or_leavesFree
    (keeps : style.KeepsQuotes)
    (isQuote : quote ∈ style.quotes)
    (free : QuoteIsFree style quote front behind)
    {delimiter : List Char}
    (isDelimiter : IsDelimiter style delimiter) :
    quote ∉ delimiter ∨ LeavesFree delimiter (front ++ quote :: behind) front.length := by
  obtain ⟨marker, listed, rfl⟩ | ⟨opening, closing, block, rfl⟩ := isDelimiter
  · exact .inl (keeps.notInMarker quote isQuote marker listed)
  · by_cases member : quote ∈ opening.toList
    · exact .inr (free opening closing block member)
    · exact .inl member

/-- No delimiter begins before a free quote and ends behind it. -/
theorem apart_of_quoteIsFree
    (keeps : style.KeepsQuotes)
    (noCharacters : style.characterLiterals = false)
    (isQuote : quote ∈ style.quotes)
    (free : QuoteIsFree style quote front behind) :
    Apart style front (quote :: behind) where
  delimiter rest isSuffix nonempty delimiter isDelimiter atFront := by
    rcases absent_or_leavesFree keeps isQuote free isDelimiter with absent | leavesFree
    · exact Text.isPrefix_of_isPrefix_append_cons absent atFront
    · obtain ⟨before, rfl⟩ := isSuffix
      obtain ⟨after, split⟩ := atFront
      have := List.length_pos_iff.mpr nonempty
      have ends := leavesFree before after (by rw [List.append_assoc, ← split, List.append_assoc])
      rw [List.length_append] at ends
      exact List.prefix_of_prefix_length_le ⟨after, split⟩ (List.prefix_append _ _) (by omega)
  literal recognised := by
    rw [noCharacters] at recognised
    cases recognised

/-- A free quote begins no comment. -/
theorem noComment_of_quoteIsFree
    (listed : style ∈ CommentStyle.all)
    (keeps : style.KeepsQuotes)
    (isQuote : quote ∈ style.quotes)
    (free : QuoteIsFree style quote front behind) :
    ∀ delimiter, IsDelimiter style delimiter → ¬delimiter <+: quote :: behind := by
  intro delimiter isDelimiter atFront
  have nonempty := isDelimiter.ne_nil listed
  rcases absent_or_leavesFree keeps isQuote free isDelimiter with absent | leavesFree
  · have empty : delimiter <+: [] := Text.isPrefix_of_isPrefix_append_cons absent atFront
    exact nonempty (List.prefix_nil.mp empty)
  · obtain ⟨after, split⟩ := atFront
    have := List.length_pos_iff.mpr nonempty
    have ends := leavesFree front after (by rw [List.append_assoc, split])
    omega

/-- From its opening quote to its closing one a literal is code, and the scan goes on behind it. -/
theorem scans_literal
    {body rest : List Char}
    {later : List Piece}
    {ending : Ending}
    (noCharacters : style.characterLiterals = false)
    (isQuote : quote ∈ style.quotes)
    (notEscape : quote ≠ '\\')
    (noComment : ∀ delimiter, IsDelimiter style delimiter →
      ¬delimiter <+: quote :: (body ++ quote :: rest))
    (isBody : IsBody quote body)
    (further : Scans style .code rest later ending) :
    Scans style .code (quote :: (body ++ quote :: rest))
      ([.code [quote], .code (body ++ [quote])] ++ later) ending := by
  have opened : codeStep style quote (body ++ quote :: rest) =
      ([quote], body ++ quote :: rest, .literal quote) := by
    simp [codeStep, noCharacters, isQuote]
  have inside : Steps style (.literal quote) (body ++ quote :: rest) [.code (body ++ [quote])]
      .code rest := .literal ⟨notEscape, isBody, rfl⟩
  have whole := Scans.step (.code noComment opened) (.step inside further)
  exact whole

end Quote

/-- Outside of comments and literals, a literal is code in full, and what is written behind it is
split as if it stood alone. -/
theorem splitLine_around_literal
    {style : CommentStyle}
    (carried : style.IsCarried)
    (noCharacters : style.characterLiterals = false)
    {quote : Char}
    (isQuote : quote ∈ style.quotes)
    {front : String}
    (clear : EndsIn style false front .code)
    {body : String}
    (isBody : IsBody quote body.toList)
    (rest : String)
    (free : QuoteIsFree style quote front.toList (body.toList ++ quote :: rest.toList)) :
    let literal := String.singleton quote ++ body ++ String.singleton quote
    let before := (splitLine style false front).1
    let after := (splitLine style false rest).1
    splitLine style false (front ++ literal ++ rest) =
      (⟨before.code ++ literal ++ after.code, before.comment ++ after.comment⟩,
        (splitLine style false rest).2) := by
  intro literal before after
  have proper := carried.isProper
  have keeps := CommentStyle.keepsQuotes_of_mem_all carried.mem_all
  obtain ⟨found, frontScan⟩ := clear
  have outside : false = true → style.block? ≠ none := nofun
  obtain ⟨later, ending, restScan⟩ := exists_scans proper outside rest.toList
  have literalScan := scans_literal noCharacters isQuote (keeps.notEscape quote isQuote)
    (noComment_of_quoteIsFree carried.mem_all keeps isQuote free) isBody restScan
  have lineScan := frontScan.append proper
    (apart_of_quoteIsFree keeps noCharacters isQuote free) literalScan
  have line_eq : (front ++ literal ++ rest).toList =
      front.toList ++ quote :: (body.toList ++ quote :: rest.toList) := by
    simp [literal]
  have literal_eq :
      LineParts.ofPieces [.code [quote], .code (body.toList ++ [quote])] = ⟨literal, ""⟩ := by
    simp [LineParts.ofPieces, Piece.codePart, Piece.commentPart, literal, ← String.toList_inj]
  rw [← line_eq] at lineScan
  have before_eq : before = LineParts.ofPieces found :=
    congrArg Prod.fst (frontScan.splitLine_eq proper)
  have rest_eq : splitLine style false rest = (LineParts.ofPieces later, ending == .block) :=
    restScan.splitLine_eq proper
  have after_eq : after = LineParts.ofPieces later := congrArg Prod.fst rest_eq
  rw [lineScan.splitLine_eq proper, rest_eq, before_eq, after_eq, Prod.mk.injEq,
    LineParts.mk.injEq]
  simp only [code_ofPieces_append, comment_ofPieces_append, literal_eq, String.append_assoc,
    String.empty_append, and_self]

/-- In a line with triple quotes as blocks, a literal with an escaped quote and a marker. -/
theorem splitLine_around_literal_with_marker :
    let style := CommentStyle.hashesWithDocstrings
    (style.IsCarried ∧ style.characterLiterals = false ∧ '"' ∈ style.quotes) ∧
      EndsIn style false "f('#', " .code ∧ IsBody '"' "\\\"#'".toList ∧
      QuoteIsFree style '"' "f('#', ".toList ("\\\"#'".toList ++ '"' :: ") # \"x".toList) ∧
      splitLine style false "f('#', \"\\\"#'\") # \"x" =
        (⟨"f('#', \"\\\"#'\") ", " \"x"⟩, false) := by
  intro style
  have carried : style.IsCarried := .inr ⟨some .python, rfl⟩
  have inside : IsClosed '\'' ['#', '\'', ',', ' '] ['#'] [',', ' '] :=
    ⟨by decide, .plain (by decide) (by decide) .nil, rfl⟩
  have clear : EndsIn style false "f('#', " .code :=
    ⟨_, .step (.of_codeStep rfl rfl rfl) <| .step (.of_codeStep rfl rfl rfl) <|
      .step (.of_codeStep rfl rfl rfl) <| .step (.literal inside) <|
      .step (.of_codeStep rfl rfl rfl) <| .step (.of_codeStep rfl rfl rfl) <| .done .code⟩
  have isBody : IsBody '"' "\\\"#'".toList := .escaped '"' (.plain (by decide) (by decide)
    (.plain (by decide) (by decide) .nil))
  have free : QuoteIsFree style '"' "f('#', ".toList
      ("\\\"#'".toList ++ '"' :: ") # \"x".toList) := by
    rintro opening closing ⟨⟩ -
    -- nowhere in the line do three quotes stand together
    have nowhere : ¬['"', '"', '"'] <:+:
        "f('#', ".toList ++ '"' :: ("\\\"#'".toList ++ '"' :: ") # \"x".toList) := by
      decide +kernel
    exact fun before after split => absurd ⟨before, after, split.symm⟩ nowhere
  refine ⟨⟨carried, rfl, by decide⟩, clear, isBody, free, ?_⟩
  have whole := splitLine_around_literal carried rfl (by decide) clear isBody ") # \"x" free
  exact whole

end Comment
end QualityGate
