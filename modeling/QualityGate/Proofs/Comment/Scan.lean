import QualityGate.Proofs.Comment.Pieces

/-!
# How the scan of a line goes on

Where the scan of a line ends is told by rules, one for each thing that a line may begin with.
Every line is scanned in one way, and the pieces are those that the rules give.  What a scan finds
does not depend on what is written behind it, as long as no delimiter begins in the one part and
ends in the other.
-/

namespace QualityGate
namespace Comment

/-- Where the scan of a line ends: in code, in a literal that is not closed, in a comment that goes
on to the end of the line, or inside a block. -/
inductive Ending where
  | code
  | literal (quote : Char)
  | comment
  | block
deriving Repr, DecidableEq

/-- Where a scan ends that is through with its line. -/
def Mode.ending : Mode → Ending
  | .code => .code
  | .literal quote => .literal quote
  | .block => .block

/-- What a literal holds between its quotes: a backslash stands before a character that it
protects, and no quote stands unprotected. -/
inductive IsBody (quote : Char) : List Char → Prop
  | nil : IsBody quote []
  | plain {character : Char} {rest : List Char} (noQuote : character ≠ quote)
      (noEscape : character ≠ '\\') (body : IsBody quote rest) : IsBody quote (character :: rest)
  | escaped (character : Char) {rest : List Char} (body : IsBody quote rest) :
      IsBody quote ('\\' :: character :: rest)

/-- The characters close a literal: its body, the quote, and what follows. -/
structure IsClosed (quote : Char) (characters body after : List Char) : Prop where
  notEscape : quote ≠ '\\'
  isBody : IsBody quote body
  source : characters = body ++ quote :: after

/-- The characters start a comment up to the end of the line, or open a block. -/
def IsDelimiter (style : CommentStyle) (delimiter : List Char) : Prop :=
  (∃ marker ∈ style.markers, marker.toList = delimiter) ∨
    ∃ opening closing, style.block? = some (opening, closing) ∧ opening.toList = delimiter

/-- One step of a scan that does not end it: what is found, and where the scan goes on. -/
inductive Steps (style : CommentStyle) : Mode → List Char → List Piece → Mode → List Char → Prop
  | opens {opening closing : String} {after : List Char}
      (block : style.block? = some (opening, closing))
      (noMarker : markerAt? style (opening.toList ++ after) = none) :
      Steps style .code (opening.toList ++ after) [.blockStart opening.toList] .block after
  | code {character : Char} {rest taken after : List Char} {next : Mode}
      (noComment : ∀ delimiter, IsDelimiter style delimiter → ¬delimiter <+: character :: rest)
      (step : codeStep style character rest = (taken, after, next)) :
      Steps style .code (character :: rest) [.code taken] next after
  | literal {quote : Char} {characters body after : List Char}
      (closed : IsClosed quote characters body after) :
      Steps style (.literal quote) characters [.code (body ++ [quote])] .code after
  | closes {opening closing : String} {characters inside after : List Char}
      (block : style.block? = some (opening, closing))
      (first : Text.splitAt? closing.toList characters = some (inside, after)) :
      Steps style .block characters [.comment inside, .blockEnd closing.toList] .code after

/-- How a line is scanned from a mode: what is found, and where the scan ends. -/
inductive Scans (style : CommentStyle) : Mode → List Char → List Piece → Ending → Prop
  | done (mode : Mode) : Scans style mode [] [] mode.ending
  | marker {character : Char} {rest marker : List Char}
      (first : markerAt? style (character :: rest) = some marker) :
      Scans style .code (character :: rest)
        [.marker marker, .comment ((character :: rest).drop marker.length)] .comment
  | unclosed {quote character : Char} {rest : List Char}
      (unclosed : ∀ body after, ¬IsClosed quote (character :: rest) body after) :
      Scans style (.literal quote) (character :: rest) [.code (character :: rest)] (.literal quote)
  | stays {opening closing : String} {character : Char} {rest : List Char}
      (block : style.block? = some (opening, closing))
      (unclosed : Text.splitAt? closing.toList (character :: rest) = none) :
      Scans style .block (character :: rest) [.comment (character :: rest)] .block
  | step {mode next : Mode} {characters after : List Char} {pieces found : List Piece}
      {ending : Ending} (steps : Steps style mode characters pieces next after)
      (further : Scans style next after found ending) :
      Scans style mode characters (pieces ++ found) ending

/-! ## Literals -/

section Literals

variable {quote : Char}

/-- A literal ends with the first quote that nothing protects. -/
theorem IsBody.literalTail_eq
    {body : List Char}
    (isBody : IsBody quote body)
    (notEscape : quote ≠ '\\')
    (after : List Char) :
    literalTail quote (body ++ quote :: after) = (body ++ [quote], after) := by
  induction isBody with
  | nil =>
    rw [List.nil_append, literalTail.eq_4 _ _ _ (fun equal _ => notEscape equal)
      (fun _ _ equal _ => notEscape equal), if_pos (beq_self_eq_true quote), List.nil_append]
  | @plain character rest noQuote noEscape body inductionHypothesis =>
    rw [List.cons_append, literalTail.eq_4 _ _ _ (fun equal _ => noEscape equal)
      (fun _ _ equal _ => noEscape equal), if_neg (by simpa using noQuote), inductionHypothesis]
    rfl
  | escaped character body inductionHypothesis =>
    rw [List.cons_append, List.cons_append, literalTail, inductionHypothesis]
    rfl

theorem IsClosed.literalTail_eq
    {characters body after : List Char}
    (closed : IsClosed quote characters body after) :
    literalTail quote characters = (body ++ [quote], after) := by
  rw [closed.source]
  exact closed.isBody.literalTail_eq closed.notEscape after

/-- A literal is closed, or all that is left of the line belongs to it. -/
theorem closed_or_literalTail_eq (quote : Char) (characters : List Char) :
    (∃ body after, IsClosed quote characters body after) ∨
      literalTail quote characters = (characters, []) := by
  fun_induction literalTail quote characters with
  | case1 => exact .inr rfl
  | case2 => exact .inr rfl
  | case3 escaped rest inside after tail inductionHypothesis =>
    rw [tail] at inductionHypothesis
    rcases inductionHypothesis with ⟨body, behind, notEscape, isBody, rfl⟩ | unclosed
    · exact .inl ⟨_, behind, notEscape, .escaped escaped isBody, rfl⟩
    · cases unclosed
      exact .inr rfl
  | case4 character rest noEnd noEscape isQuote =>
    rw [beq_iff_eq] at isQuote
    subst isQuote
    refine .inl ⟨[], rest, fun equal => ?_, .nil, rfl⟩
    cases rest with
    | nil => exact noEnd equal rfl
    | cons first others => exact noEscape first others equal rfl
  | case5 character rest noEnd noEscape noQuote inside after tail inductionHypothesis =>
    rw [tail] at inductionHypothesis
    have plain : character ≠ '\\' := by
      rintro equal
      cases rest with
      | nil => exact noEnd equal rfl
      | cons first others => exact noEscape first others equal rfl
    rcases inductionHypothesis with ⟨body, behind, notEscape, isBody, rfl⟩ | unclosed
    · exact .inl ⟨_, behind, notEscape, .plain (by simpa using noQuote) plain isBody, rfl⟩
    · cases unclosed
      exact .inr rfl

end Literals

/-! ## Rules and pieces -/

section Pieces

variable {style : CommentStyle}

/-- What starts a comment up to the end of the line or opens a block. -/
def delimiters (style : CommentStyle) : List (List Char) :=
  style.markers.map String.toList ++ (style.block?.map fun block => block.1.toList).toList

theorem isDelimiter_iff_mem (delimiter : List Char) :
    IsDelimiter style delimiter ↔ delimiter ∈ delimiters style := by
  simp only [IsDelimiter, delimiters, List.mem_append, List.mem_map, Option.mem_toList,
    Option.map_eq_some_iff, Prod.exists]

theorem IsDelimiter.ne_nil
    (listed : style ∈ CommentStyle.all)
    {delimiter : List Char}
    (isDelimiter : IsDelimiter style delimiter) :
    delimiter ≠ [] := by
  have nonempty : ∀ style ∈ CommentStyle.all, ∀ delimiter ∈ delimiters style, delimiter ≠ [] := by
    decide
  exact nonempty style listed delimiter ((isDelimiter_iff_mem delimiter).mp isDelimiter)

/-- No other marker is found where one stands. -/
theorem markerAt?_append
    (listed : style ∈ CommentStyle.all)
    {marker : String}
    (isMarker : marker ∈ style.markers)
    (text : List Char) :
    markerAt? style (marker.toList ++ text) = some marker.toList := by
  have apart : ∀ style ∈ CommentStyle.all, ∀ marker ∈ style.markers, ∀ other ∈ style.markers,
      marker.toList <+: other.toList → marker = other := by
    decide
  have atFront : marker.toList.isPrefixOf (marker.toList ++ text) = true :=
    List.isPrefixOf_iff_prefix.mpr (List.prefix_append _ _)
  have isFound : (style.markers.find? fun other =>
      other.toList.isPrefixOf (marker.toList ++ text)).isSome = true :=
    List.find?_isSome.mpr ⟨marker, isMarker, atFront⟩
  obtain ⟨found, isFound⟩ := Option.isSome_iff_exists.mp isFound
  have isOther := List.mem_of_find?_eq_some isFound
  have foundAtFront : found.toList <+: marker.toList ++ text := by
    simpa using List.find?_some isFound
  have equal : found = marker := by
    rcases List.prefix_or_prefix_of_prefix foundAtFront (List.prefix_append _ _) with
      shorter | longer
    · exact apart style listed found isOther marker isMarker shorter
    · exact (apart style listed marker isMarker found isOther longer).symm
  rw [markerAt?, isFound, equal, Option.map_some]

theorem Mode.ending_beq_block (mode : Mode) : (mode.ending == .block) = (mode == .block) := by
  cases mode <;> rfl

/-- The style has no delimiter at the front exactly if the scan finds none there. -/
theorem noComment_iff (characters : List Char) :
    (∀ delimiter, IsDelimiter style delimiter → ¬delimiter <+: characters) ↔
      markerAt? style characters = none ∧
        (style.block?.bind fun block =>
          (block.1.toList.isPrefixOf? characters).map fun after => (block.1, after)) = none := by
  simp only [IsDelimiter, markerAt?, Option.map_eq_none_iff, List.find?_eq_none,
    List.isPrefixOf_iff_prefix, Option.bind_eq_none_iff, Prod.forall]
  constructor
  · refine fun noDelimiter => ⟨fun marker listed => noDelimiter _ (.inl ⟨marker, listed, rfl⟩),
      fun opening closing block => ?_⟩
    have notInFront := noDelimiter _ (.inr ⟨opening, closing, block, rfl⟩)
    refine Option.eq_none_iff_forall_ne_some.mpr fun after inFront => notInFront ?_
    exact ⟨after, List.isPrefixOf?_eq_some_iff_append_eq.mp inFront⟩
  · rintro ⟨noMarker, noOpening⟩ delimiter
      (⟨marker, listed, rfl⟩ | ⟨opening, closing, block, rfl⟩) inFront
    · exact noMarker marker listed inFront
    · obtain ⟨after, split⟩ := inFront
      have found := noOpening opening closing block
      rw [List.isPrefixOf?_eq_some_iff_append_eq.mpr split] at found
      cases found

/-- Where neither a marker nor a block is found, a step goes through code. -/
theorem Steps.of_codeStep
    {character : Char}
    {rest taken after : List Char}
    {next : Mode}
    (noMarker : markerAt? style (character :: rest) = none)
    (noOpening : (style.block?.bind fun block =>
      (block.1.toList.isPrefixOf? (character :: rest)).map fun after => (block.1, after)) = none)
    (step : codeStep style character rest = (taken, after, next)) :
    Steps style .code (character :: rest) [.code taken] next after :=
  .code ((noComment_iff _).mpr ⟨noMarker, noOpening⟩) step

/-- What a step leaves behind is shorter than the line. -/
theorem Steps.length_lt
    (proper : style.IsProper)
    {mode next : Mode}
    {characters after : List Char}
    {pieces : List Piece}
    (steps : Steps style mode characters pieces next after) :
    after.length < characters.length := by
  cases steps with
  | opens block noMarker =>
    have := List.length_pos_iff.mpr (proper _ _ block).1
    rw [List.length_append]
    omega
  | @code character rest taken after next noComment step =>
    have nonempty : taken ≠ [] := by
      simpa [step] using codeStep_fst_ne_nil style character rest
    have split : character :: rest = taken ++ after := by
      simpa [step] using (codeStep_append style character rest).symm
    have := List.length_pos_iff.mpr nonempty
    rw [split, List.length_append]
    omega
  | literal closed =>
    rw [closed.source, List.length_append, List.length_cons]
    omega
  | closes block first =>
    have := List.length_pos_iff.mpr (proper _ _ block).2
    rw [Text.eq_append_of_splitAt? first, List.length_append, List.length_append]
    omega

/-- A step cuts off the pieces that it finds. -/
theorem Steps.piecesFrom_eq
    (proper : style.IsProper)
    {mode next : Mode}
    {characters after : List Char}
    {pieces : List Piece}
    (steps : Steps style mode characters pieces next after)
    (fuel : Nat) :
    piecesFrom style (fuel + 1) mode characters =
      (pieces ++ (piecesFrom style fuel next after).1, (piecesFrom style fuel next after).2) := by
  -- a step needs a first character, for otherwise nothing shorter could be left
  have nonempty : characters ≠ [] := by
    rintro rfl
    exact Nat.not_lt_zero _ (steps.length_lt proper)
  obtain ⟨first, others, split⟩ := List.exists_cons_of_ne_nil nonempty
  cases steps with
  | @opens opening closing after block noMarker =>
    rw [split] at noMarker ⊢
    have inFront : opening.toList.isPrefixOf? (first :: others) = some after :=
      List.isPrefixOf?_eq_some_iff_append_eq.mpr split
    simp only [piecesFrom, noMarker, block, Option.bind_some, inFront, Option.map_some]
    rfl
  | code noComment step =>
    obtain ⟨noMarker, noOpening⟩ := (noComment_iff _).mp noComment
    simp only [piecesFrom, noMarker, noOpening, step]
    rfl
  | literal closed =>
    have tail := closed.literalTail_eq
    rw [split] at tail ⊢
    simp only [piecesFrom, tail]
    rfl
  | closes block found =>
    rw [split] at found ⊢
    simp only [piecesFrom, block, found]
    rfl

/-- A scan finds the pieces of the line, and tells whether it ends inside a block. -/
theorem Scans.piecesFrom_eq
    (proper : style.IsProper)
    {mode : Mode}
    {characters : List Char}
    {found : List Piece}
    {ending : Ending}
    (scans : Scans style mode characters found ending) :
    ∀ fuel, characters.length ≤ fuel →
      piecesFrom style fuel mode characters = (found, ending == .block) := by
  induction scans with
  | done mode =>
    intro fuel _
    rw [(cuts_nil style mode).steps fuel (Nat.zero_le fuel), mode.ending_beq_block]
  | marker first =>
    refine forall_fuel_of_succ fun fuel _ => ?_
    simp only [piecesFrom, first]
    rfl
  | @unclosed quote character rest unclosed =>
    have noEnd : ¬∃ body after, IsClosed quote (character :: rest) body after := by
      rintro ⟨body, after, closed⟩
      exact unclosed body after closed
    have whole := (closed_or_literalTail_eq quote (character :: rest)).resolve_left noEnd
    refine forall_fuel_of_succ fun fuel _ => ?_
    simp only [piecesFrom, whole, (cuts_nil style .code).steps fuel (Nat.zero_le fuel)]
    rfl
  | stays block unclosed =>
    refine forall_fuel_of_succ fun fuel _ => ?_
    simp only [piecesFrom, block, unclosed]
    rfl
  | step steps further inductionHypothesis =>
    intro fuel enough
    have shorter := steps.length_lt proper
    obtain ⟨less, rfl⟩ := Nat.exists_eq_succ_of_ne_zero (n := fuel) (by omega)
    rw [steps.piecesFrom_eq proper, inductionHypothesis less (by omega)]

/-- Every line is scanned in some way. -/
theorem exists_scans_of_fuel
    (proper : style.IsProper)
    (fuel : Nat)
    (mode : Mode)
    (characters : List Char)
    (stands : Stands style mode)
    (enough : characters.length ≤ fuel) :
    ∃ found ending, Scans style mode characters found ending := by
  have after_step {fuel : Nat} {mode next : Mode} {characters after : List Char}
      {pieces : List Piece} (steps : Steps style mode characters pieces next after)
      (enough : characters.length ≤ fuel + 1)
      (further : after.length ≤ fuel → ∃ found ending, Scans style next after found ending) :
      ∃ found ending, Scans style mode characters found ending := by
    have shorter := steps.length_lt proper
    obtain ⟨found, ending, scans⟩ := further (by omega)
    exact ⟨_, _, .step steps scans⟩
  fun_induction piecesFrom style fuel mode characters with
  | case1 mode characters =>
    rw [List.eq_nil_of_length_eq_zero (Nat.le_zero.1 enough)]
    exact ⟨_, _, .done mode⟩
  | case2 fuel mode => exact ⟨_, _, .done mode⟩
  | case3 fuel character rest noBlock => exact absurd noBlock (stands rfl)
  | case4 fuel character rest opening closing block absent => exact ⟨_, _, .stays block absent⟩
  | case5 fuel character rest opening closing block inside after first pieces inBlock scan
      inductionHypothesis =>
    exact after_step (.closes block first) enough (inductionHypothesis (stands_of_ne_block (by simp)))
  | case6 fuel quote character rest inside after literal pieces inBlock scan
      inductionHypothesis =>
    by_cases isClosed : ∃ body after, IsClosed quote (character :: rest) body after
    · obtain ⟨body, behind, closed⟩ := isClosed
      have tail := closed.literalTail_eq
      rw [literal, Prod.mk.injEq] at tail
      obtain ⟨rfl, rfl⟩ := tail
      exact after_step (.literal closed) enough (inductionHypothesis (stands_of_ne_block (by simp)))
    · exact ⟨_, _, .unclosed fun body after closed => isClosed ⟨body, after, closed⟩⟩
  | case7 fuel character rest marker first => exact ⟨_, _, .marker first⟩
  | case8 fuel character rest noMarker opening after first pieces inBlock scan
      inductionHypothesis =>
    obtain ⟨⟨closing, block⟩, split⟩ := eq_append_of_opening first
    rw [split] at noMarker enough ⊢
    exact after_step (.opens block noMarker) enough (inductionHypothesis fun _ => by simp [block])
  | case9 fuel character rest noMarker noOpening taken after mode step pieces inBlock scan
      inductionHypothesis =>
    have other : mode ≠ .block := by
      simpa [step] using codeStep_mode_ne_block style character rest
    exact after_step (.of_codeStep noMarker noOpening step) enough
      (inductionHypothesis (stands_of_ne_block other))

/-- A line that starts inside or outside of a block is scanned in some way. -/
theorem exists_scans
    (proper : style.IsProper)
    {inBlock : Bool}
    (stands : inBlock = true → style.block? ≠ none)
    (characters : List Char) :
    ∃ found ending, Scans style (if inBlock then .block else .code) characters found ending := by
  refine exists_scans_of_fuel proper _ _ characters ?_ (Nat.le_refl _)
  cases inBlock with
  | false => exact stands_of_ne_block (by simp)
  | true => exact fun _ => stands rfl

theorem Scans.pieces_eq
    (proper : style.IsProper)
    {inBlock : Bool}
    {characters : List Char}
    {found : List Piece}
    {ending : Ending}
    (scans : Scans style (if inBlock then .block else .code) characters found ending) :
    pieces style inBlock characters = (found, ending == .block) :=
  scans.piecesFrom_eq proper _ (Nat.le_succ _)

/-! ## Every line is scanned in one way -/

theorem IsClosed.unique
    {quote : Char}
    {characters body after other behind : List Char}
    (first : IsClosed quote characters body after)
    (second : IsClosed quote characters other behind) :
    body = other ∧ after = behind := by
  have equal := first.literalTail_eq.symm.trans second.literalTail_eq
  rw [Prod.mk.injEq] at equal
  exact ⟨List.append_cancel_right equal.1, equal.2⟩

/-- No step begins where a marker stands. -/
theorem Steps.markerAt?_eq_none
    {next : Mode}
    {characters after : List Char}
    {pieces : List Piece}
    (steps : Steps style .code characters pieces next after) :
    markerAt? style characters = none := by
  cases steps with
  | opens block noMarker => exact noMarker
  | code noComment step => exact ((noComment_iff _).mp noComment).1

theorem Steps.unique
    {mode next other : Mode}
    {characters after behind : List Char}
    {pieces found : List Piece}
    (first : Steps style mode characters pieces next after)
    (second : Steps style mode characters found other behind) :
    pieces = found ∧ next = other ∧ after = behind := by
  cases first with
  | @opens opening closing after block noMarker =>
    generalize split : opening.toList ++ after = characters at second
    cases second with
    | opens others _ =>
      cases block.symm.trans others
      exact ⟨rfl, rfl, List.append_cancel_left split⟩
    | code noComment _ =>
      exact absurd ⟨after, split⟩ (noComment _ (.inr ⟨opening, closing, block, rfl⟩))
  | @code character rest taken after next noComment step =>
    generalize split : character :: rest = characters at second
    cases second with
    | @opens opening closing behind block _ =>
      exact absurd ⟨behind, split.symm⟩ (noComment _ (.inr ⟨opening, closing, block, rfl⟩))
    | code _ other =>
      cases split
      cases step.symm.trans other
      exact ⟨rfl, rfl, rfl⟩
  | literal closed =>
    cases second with
    | literal other =>
      obtain ⟨rfl, rfl⟩ := closed.unique other
      exact ⟨rfl, rfl, rfl⟩
  | closes block found =>
    cases second with
    | closes others further =>
      cases block.symm.trans others
      cases found.symm.trans further
      exact ⟨rfl, rfl, rfl⟩

/-- A scan that makes a step does not end with it. -/
theorem Scans.of_steps
    (proper : style.IsProper)
    {mode next : Mode}
    {characters after : List Char}
    {pieces found : List Piece}
    {ending : Ending}
    (steps : Steps style mode characters pieces next after)
    (scans : Scans style mode characters found ending) :
    ∃ later, found = pieces ++ later ∧ Scans style next after later ending := by
  cases scans with
  | done => exact absurd (steps.length_lt proper) (Nat.not_lt_zero _)
  | marker first =>
    rw [steps.markerAt?_eq_none] at first
    cases first
  | unclosed unclosed =>
    cases steps with
    | literal closed => exact absurd closed (unclosed _ _)
  | stays block unclosed =>
    cases steps with
    | closes others first =>
      cases block.symm.trans others
      rw [unclosed] at first
      cases first
  | step other further =>
    obtain ⟨rfl, rfl, rfl⟩ := steps.unique other
    exact ⟨_, rfl, further⟩

theorem Scans.unique
    (proper : style.IsProper)
    {mode : Mode}
    {characters : List Char}
    {found others : List Piece}
    {ending other : Ending}
    (first : Scans style mode characters found ending)
    (second : Scans style mode characters others other) :
    found = others ∧ ending = other := by
  induction first generalizing others with
  | done mode =>
    cases second with
    | done => exact ⟨rfl, rfl⟩
    | step steps _ => exact absurd (steps.length_lt proper) (Nat.not_lt_zero _)
  | step steps _ inductionHypothesis =>
    obtain ⟨later, rfl, further⟩ := second.of_steps proper steps
    obtain ⟨rfl, rfl⟩ := inductionHypothesis further
    exact ⟨rfl, rfl⟩
  | marker first =>
    cases second with
    | marker second =>
      cases first.symm.trans second
      exact ⟨rfl, rfl⟩
    | step steps _ =>
      rw [steps.markerAt?_eq_none] at first
      cases first
  | unclosed unclosed =>
    cases second with
    | unclosed => exact ⟨rfl, rfl⟩
    | step steps _ =>
      cases steps with
      | literal closed => exact absurd closed (unclosed _ _)
  | stays block unclosed =>
    cases second with
    | stays => exact ⟨rfl, rfl⟩
    | step steps _ =>
      cases steps with
      | closes others first =>
        cases block.symm.trans others
        rw [unclosed] at first
        cases first

end Pieces

/-! ## What is written behind a line -/

/-- No delimiter begins in the front and ends behind it, and what is behind it does not decide
whether a character literal of the front is recognised. -/
structure Apart (style : CommentStyle) (front behind : List Char) : Prop where
  delimiter : ∀ rest, rest <:+ front → rest ≠ [] → ∀ delimiter, IsDelimiter style delimiter →
    delimiter <+: rest ++ behind → delimiter <+: rest
  literal : style.characterLiterals = true → ∀ rest, '\'' :: rest <:+ front →
    characterLiteralLength? ('\'' :: rest ++ behind) = characterLiteralLength? ('\'' :: rest)

section Behind

variable {style : CommentStyle} {front behind : List Char}

theorem Apart.suffix
    (apart : Apart style front behind)
    {rest : List Char}
    (isSuffix : rest <:+ front) :
    Apart style rest behind where
  delimiter others further := apart.delimiter others (further.trans isSuffix)
  literal recognised others further := apart.literal recognised others (further.trans isSuffix)

/-- The same marker is found where something is written behind the line. -/
theorem Apart.markerAt?_append
    (apart : Apart style front behind)
    (nonempty : front ≠ []) :
    markerAt? style (front ++ behind) = markerAt? style front := by
  rw [markerAt?, markerAt?, ← List.head?_filter, ← List.head?_filter]
  refine congrArg _ (congrArg _ (List.filter_congr fun marker listed => ?_))
  rw [Bool.eq_iff_iff, List.isPrefixOf_iff_prefix, List.isPrefixOf_iff_prefix]
  exact ⟨apart.delimiter front (List.suffix_refl front) nonempty _ (.inl ⟨marker, listed, rfl⟩),
    fun inFront => inFront.trans (List.prefix_append front behind)⟩

theorem characterLiteralLength?_le
    {characters : List Char}
    {length : Nat}
    (recognised : characterLiteralLength? characters = some length) :
    length ≤ characters.length := by
  unfold characterLiteralLength? at recognised
  split at recognised
  · obtain ⟨index, isIndex, rfl⟩ := Option.map_eq_some_iff.mp recognised
    obtain ⟨inside, -⟩ := List.findIdx?_eq_some_iff_getElem.mp isIndex
    rw [List.length_take] at inside
    simp only [List.length_cons]
    omega
  · split at recognised
    · cases recognised
      simp
    · cases recognised
  · cases recognised

/-- A step through code takes the same characters where something is written behind the line. -/
theorem Apart.codeStep_append
    {character : Char}
    {rest taken after : List Char}
    {next : Mode}
    (apart : Apart style (character :: rest) behind)
    (step : codeStep style character rest = (taken, after, next)) :
    codeStep style character (rest ++ behind) = (taken, after ++ behind, next) := by
  unfold codeStep at step ⊢
  split at step
  · rename_i quoted
    rw [if_pos quoted]
    simp only [Bool.and_eq_true, beq_iff_eq] at quoted
    obtain ⟨rfl, recognised⟩ := quoted
    have same := apart.literal recognised rest (List.suffix_refl _)
    have within : (characterLiteralLength? ('\'' :: rest)).getD 1 ≤ ('\'' :: rest).length := by
      cases found : characterLiteralLength? ('\'' :: rest) with
      | none => simp
      | some length => exact characterLiteralLength?_le found
    simp only [Prod.mk.injEq] at step
    obtain ⟨rfl, rfl, rfl⟩ := step
    dsimp only
    rw [← List.cons_append, same, List.take_append_of_le_length within,
      List.drop_append_of_le_length within]
  · rename_i plain
    rw [if_neg plain]
    split at step <;> rename_i quote <;> simp_all

/-- A step is made in the same way where something is written behind the line. -/
theorem Steps.append
    {mode next : Mode}
    {after : List Char}
    {pieces : List Piece}
    (proper : style.IsProper)
    (steps : Steps style mode front pieces next after)
    (apart : Apart style front behind) :
    Steps style mode (front ++ behind) pieces next (after ++ behind) := by
  have nonempty : front ≠ [] := by
    rintro rfl
    exact Nat.not_lt_zero _ (steps.length_lt proper)
  have same := apart.markerAt?_append nonempty
  cases steps with
  | opens block noMarker =>
    rw [noMarker, List.append_assoc] at same
    rw [List.append_assoc]
    exact .opens block same
  | code noComment step =>
    refine .code (fun delimiter isDelimiter inFront => ?_) (apart.codeStep_append step)
    exact noComment delimiter isDelimiter
      (apart.delimiter _ (List.suffix_refl _) nonempty delimiter isDelimiter inFront)
  | literal closed =>
    refine .literal ⟨closed.notEscape, closed.isBody, ?_⟩
    rw [closed.source, List.append_assoc, List.cons_append]
  | closes block first => exact .closes block (Text.splitAt?_append first behind)

/-- What a step leaves behind is the end of the line. -/
theorem Steps.isSuffix
    {mode next : Mode}
    {after : List Char}
    {pieces : List Piece}
    (steps : Steps style mode front pieces next after) :
    after <:+ front := by
  cases steps with
  | opens block noMarker => exact List.suffix_append _ _
  | @code character rest taken after next noComment step =>
    refine ⟨taken, ?_⟩
    simpa [step] using codeStep_append style character rest
  | @literal quote characters body after closed =>
    rw [closed.source]
    exact (List.suffix_cons quote after).trans (List.suffix_append body _)
  | closes block first =>
    rw [Text.eq_append_of_splitAt? first]
    exact List.suffix_append _ _

/-- Behind a line that ends in code, the scan goes on as if it began there. -/
theorem Scans.append
    {mode : Mode}
    {found later : List Piece}
    {ending : Ending}
    (proper : style.IsProper)
    (scans : Scans style mode front found .code)
    (apart : Apart style front behind)
    (further : Scans style .code behind later ending) :
    Scans style mode (front ++ behind) (found ++ later) ending := by
  generalize inCode : Ending.code = last at scans
  induction scans with
  | done mode =>
    cases mode with
    | code => exact further
    | literal quote => cases inCode
    | block => cases inCode
  | step steps scans inductionHypothesis =>
    rw [List.append_assoc]
    exact .step (steps.append proper apart)
      (inductionHypothesis (apart.suffix steps.isSuffix) inCode)
  | marker => cases inCode
  | unclosed => cases inCode
  | stays => cases inCode

/-- What is written behind a comment that goes on to the end of the line belongs to it. -/
theorem Scans.append_comment
    {mode : Mode}
    {found : List Piece}
    (proper : style.IsProper)
    (scans : Scans style mode front found .comment)
    (apart : Apart style front behind) :
    ∃ whole, Scans style mode (front ++ behind) whole .comment ∧
      whole.flatMap Piece.codePart = found.flatMap Piece.codePart := by
  generalize inComment : Ending.comment = last at scans
  induction scans with
  | done mode => cases mode <;> cases inComment
  | step steps scans inductionHypothesis =>
    obtain ⟨whole, further, code⟩ :=
      inductionHypothesis (apart.suffix steps.isSuffix) inComment
    refine ⟨_, .step (steps.append proper apart) further, ?_⟩
    rw [List.flatMap_append, List.flatMap_append, code]
  | marker first =>
    rw [← apart.markerAt?_append (List.cons_ne_nil _ _)] at first
    exact ⟨_, .marker first, rfl⟩
  | unclosed => cases inComment
  | stays => cases inComment

end Behind

/-! ## Lines -/

/-- The scan of a line that starts inside or outside of a block ends in a certain way. -/
def EndsIn (style : CommentStyle) (inBlock : Bool) (line : String) (ending : Ending) : Prop :=
  ∃ found, Scans style (if inBlock then .block else .code) line.toList found ending

section Lines

variable {style : CommentStyle} {inBlock : Bool}

/-- No line ends in two ways. -/
theorem EndsIn.unique
    (proper : style.IsProper)
    {line : String}
    {ending other : Ending}
    (first : EndsIn style inBlock line ending)
    (second : EndsIn style inBlock line other) :
    ending = other := by
  obtain ⟨found, scans⟩ := first
  obtain ⟨others, further⟩ := second
  exact (scans.unique proper further).2

theorem Scans.endsIn
    {line : String}
    {found : List Piece}
    {ending : Ending}
    (scans : Scans style (if inBlock then .block else .code) line.toList found ending) :
    EndsIn style inBlock line ending :=
  ⟨found, scans⟩

/-- The parts of a line are put together from what its scan finds. -/
theorem Scans.splitLine_eq
    (proper : style.IsProper)
    {line : String}
    {found : List Piece}
    {ending : Ending}
    (scans : Scans style (if inBlock then .block else .code) line.toList found ending) :
    splitLine style inBlock line = (LineParts.ofPieces found, ending == .block) := by
  rw [splitLine, scans.pieces_eq proper]

/-- A line that begins with a marker is a comment. -/
theorem splitLine_marker
    (listed : style ∈ CommentStyle.all)
    {marker : String}
    (isMarker : marker ∈ style.markers)
    (text : String) :
    splitLine style false (marker ++ text) = (⟨"", text⟩, false) := by
  have isDelimiter : IsDelimiter style marker.toList := .inl ⟨marker, isMarker, rfl⟩
  obtain ⟨first, following, marker_eq⟩ := List.exists_cons_of_ne_nil (isDelimiter.ne_nil listed)
  have atFront := markerAt?_append listed isMarker text.toList
  have scan : Scans style (if false then .block else .code) (marker ++ text).toList
      [.marker marker.toList, .comment text.toList] .comment := by
    rw [String.toList_append, marker_eq, List.cons_append]
    rw [marker_eq, List.cons_append] at atFront
    have found := Scans.marker atFront
    rwa [← List.cons_append, List.drop_left] at found
  rw [scan.splitLine_eq (CommentStyle.isProper_of_mem_all listed)]
  simp [LineParts.ofPieces, Piece.codePart, Piece.commentPart]

theorem code_ofPieces_append (first second : List Piece) :
    (LineParts.ofPieces (first ++ second)).code =
      (LineParts.ofPieces first).code ++ (LineParts.ofPieces second).code := by
  simp only [LineParts.ofPieces, List.flatMap_append, String.ofList_append]

theorem comment_ofPieces_append (first second : List Piece) :
    (LineParts.ofPieces (first ++ second)).comment =
      (LineParts.ofPieces first).comment ++ (LineParts.ofPieces second).comment := by
  simp only [LineParts.ofPieces, List.flatMap_append, String.ofList_append]

end Lines

end Comment
end QualityGate
