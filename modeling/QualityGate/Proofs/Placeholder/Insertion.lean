import QualityGate.Proofs.Comment.Factorization
import QualityGate.Proofs.Comment.Scan
import QualityGate.Proofs.Json.Bracketed
import QualityGate.Proofs.Placeholder.Artifact
import QualityGate.Proofs.Placeholder.Omission

/-!
# Declaring a placeholder above a line

A valid declaration that is written into a file, on a line of its own, governs the window below it
and nothing else.  The promises in the window are not reported any more; those above stay, and those
below move down by the one line.

The lines below the declaration keep their distance to each other, but they are one line further
from the declarations above it.  What those cannot reach any more is reached by the new one.
-/

namespace QualityGate
namespace Placeholder

open HiddenTodo (linesOf coverageOf)

/-! ## What is read behind a marker -/

/-- A bracketed text does not end with marks that close a comment. -/
theorem not_suffix_of_isBracketed
    {core ending : List Char}
    (bracketed : Decoder.IsBracketed core)
    {last : Char}
    (closes : ending.getLast? = some last)
    (notBracket : last ∉ [']', '\x7d']) :
    ¬ending <:+ core := by
  rintro ⟨front, rfl⟩
  obtain ⟨opening, inside, closing, core_eq, -, isClosing⟩ := bracketed
  have last_eq := congrArg List.getLast? core_eq
  rw [List.getLast?_append, closes, ← List.cons_append, List.getLast?_append] at last_eq
  cases Option.some.inj last_eq
  exact notBracket isClosing

/-- Blanks around a declaration do not belong to it, and it does not end in marks of a comment. -/
theorem bodyOf_of_isBracketed
    {written : String}
    (bracketed : Decoder.IsBracketed (Text.strip written.toList))
    {front : List Char}
    (frontBlank : Text.AreBlank front) :
    bodyOf (front ++ written.toList) = Text.trim written := by
  have stripped : Text.strip (front ++ written.toList) = Text.strip written.toList := by
    simpa using Text.strip_append frontBlank Text.areBlank_nil written.toList
  have noBlock : ¬['*', '/'] <:+ Text.strip written.toList :=
    not_suffix_of_isBracketed bracketed rfl (by decide)
  have noMarkup : ¬['-', '-', '>'] <:+ Text.strip written.toList :=
    not_suffix_of_isBracketed bracketed rfl (by decide)
  simp only [bodyOf, stripped, Text.dropEndings_of_not_suffix noBlock,
    Text.dropEndings_of_not_suffix noMarkup, Text.strip_strip]
  rfl

/-- A declaration is read from a text whatever blanks stand around it. -/
theorem Declaration.parse_trim
    {written : String}
    {declaration : Declaration}
    (read : Declaration.decoder.parse written = .ok declaration) :
    Decoder.IsBracketed (Text.strip written.toList) ∧
      Declaration.decoder.parse (Text.trim written) = .ok declaration := by
  unfold Declaration.decoder at read ⊢
  refine Decoder.parse_strip ?_ read
  have isLocal := Decoder.isLocal_parsedText "a string" .ok
  simp only [List.forall_mem_cons]
  exact ⟨Decoder.isLocal_nullable "id" isLocal _, Decoder.isLocal_nullable "scope" isLocal _,
    Decoder.isLocal_nullable "reason" isLocal _, Decoder.isLocal_nullable "impact" isLocal _,
    Decoder.isLocal_nullable "fallback" isLocal _, Decoder.isLocal_nullable "debt_note" isLocal _,
    Decoder.isLocal_nullable "expiry" isLocal _, List.forall_mem_nil _⟩

/-- A comment with a declaration behind the marker declares it. -/
theorem declarationIn?_of_parse
    {written : String}
    {declaration : Declaration}
    (read : Declaration.decoder.parse written = .ok declaration)
    (line : Nat) :
    declarationIn? line (" " ++ inlineMarker ++ " " ++ written) =
      some ⟨line, .ok declaration⟩ := by
  obtain ⟨bracketed, readTrimmed⟩ := Declaration.parse_trim read
  have blank : Text.AreBlank [' '] := by simp [Text.AreBlank, Text.isBlank]
  have body := bodyOf_of_isBracketed bracketed blank
  have given : (Text.trim written == "") = false := by
    obtain ⟨opening, inside, closing, core_eq, -⟩ := bracketed
    rw [Text.trim, Text.onCharacters, core_eq]
    simp
  have characters_eq : (" " ++ inlineMarker ++ " " ++ written).toList =
      ' ' :: (inlineMarker.toList ++ ' ' :: written.toList) := by
    simp only [String.toList_append, List.append_assoc]
    rfl
  have split : Text.splitAt? inlineMarker.toList
      (" " ++ inlineMarker ++ " " ++ written).toList = some ([' '], ' ' :: written.toList) := by
    rw [characters_eq]
    rfl
  rw [List.singleton_append] at body
  simp only [declarationIn?, split, Option.map_some, body, given, Bool.false_eq_true, if_false,
    readTrimmed, Except.mapError]

/-! ## Insertion -/

/-- A line with the declaration of a placeholder in a comment. -/
def declaringLine (marker written : String) : String :=
  marker ++ (" " ++ inlineMarker ++ " " ++ written)

/-- The number that a line has when a line is inserted behind the first `place` lines. -/
def movedLine (place line : Nat) : Nat :=
  if line ≤ place then line else line + 1

/-- A line is the one that was inserted or one that was there before. -/
theorem eq_or_exists_movedLine (place line : Nat) :
    line = place + 1 ∨ ∃ earlier, line = movedLine place earlier := by
  by_cases above : line ≤ place
  · exact .inr ⟨line, by rw [movedLine, if_pos above]⟩
  by_cases inserted : line = place + 1
  · exact .inl inserted
  · refine .inr ⟨line - 1, ?_⟩
    rw [movedLine, if_neg (by omega)]
    omega

theorem movedLine_lt_iff (place first line : Nat) :
    movedLine place first < movedLine place line ↔ first < line := by
  unfold movedLine
  split <;> split <;> omega

theorem place_lt_movedLine_iff (place line : Nat) :
    place + 1 < movedLine place line ↔ place < line := by
  unfold movedLine
  split <;> omega

/-- Below a line the window ends where it ended, or one line earlier behind the one that was
inserted; that line is then in the window below the inserted one. -/
theorem reaches_iff (place window : Nat) {first line : Nat} (before : first < line) :
    movedLine place line ≤ movedLine place first + window ∨
        place < line ∧ line ≤ place + window ↔
      line ≤ first + window ∨ place < line ∧ line ≤ place + window := by
  unfold movedLine
  split <;> split <;> omega

/-- The second file is the first one with a line behind the first `place` lines. -/
structure Inserts (source after : Source) (place : Nat) (line : String) : Prop where
  path_eq : after.path = source.path
  inside : place ≤ source.lineCount
  lines_eq : after.lines = source.lines.take place ++ line :: source.lines.drop place

/-- The second file is the first one with a line behind the first `place` lines that has a comment
only, and the comment is that of the line alone. -/
structure InsertsComment (source after : Source) (place : Nat) (comment : String) : Prop where
  path_eq : after.path = source.path
  inside : place ≤ source.lineCount
  linesOf_eq : linesOf after =
    (linesOf source).take place ++ ⟨"", comment⟩ :: (linesOf source).drop place

section Insertion

variable {source after : Source} {place : Nat}

/-- A comment line outside of blocks leaves the comments of the other lines as they are. -/
theorem Inserts.insertsComment
    {marker text : String}
    (inserts : Inserts source after place (marker ++ text))
    (isMarker : marker ∈ (Profile.ofPath source.path).comments.markers)
    (outside :
      Comment.blockAfter (Profile.ofPath source.path).comments (source.lines.take place) = false) :
    InsertsComment source after place text := by
  refine ⟨inserts.path_eq, inserts.inside, ?_⟩
  let style := (Profile.ofPath source.path).comments
  have carried : style.IsCarried := .inl ⟨source.path, rfl⟩
  have sourceLines : linesOf source =
      Comment.split style (source.lines.take place) ++
        Comment.splitFrom style false (source.lines.drop place) := by
    rw [← outside, ← Comment.split_append, List.take_append_drop]
    rfl
  have length_eq : (Comment.split style (source.lines.take place)).length = place := by
    rw [Comment.length_split, List.length_take]
    exact Nat.min_eq_left inserts.inside
  rw [sourceLines, List.take_left' length_eq, List.drop_left' length_eq, linesOf, inserts.path_eq,
    inserts.lines_eq, Comment.split_append, outside, Comment.splitFrom,
    Comment.splitLine_marker carried.mem_all isMarker]

variable {comment : String}

theorem InsertsComment.length_take (inserts : InsertsComment source after place comment) :
    ((linesOf source).take place).length = place := by
  rw [List.length_take, HiddenTodo.length_linesOf]
  exact Nat.min_eq_left inserts.inside

theorem InsertsComment.lineCount_eq (inserts : InsertsComment source after place comment) :
    after.lineCount = source.lineCount + 1 := by
  have inside := inserts.inside
  have length_eq := congrArg List.length inserts.linesOf_eq
  rw [HiddenTodo.length_linesOf, List.length_append, List.length_cons, List.length_take,
    List.length_drop, HiddenTodo.length_linesOf] at length_eq
  omega

/-- Every line of the first file has its comment in the second one. -/
theorem InsertsComment.commentAt?_moved
    (inserts : InsertsComment source after place comment)
    (line : Nat) :
    commentAt? after (movedLine place line) = commentAt? source line := by
  have inside := inserts.inside
  cases line with
  | zero => rw [movedLine, if_pos (Nat.zero_le place)]; rfl
  | succ index =>
    have length_eq := inserts.length_take
    rw [movedLine]
    split
    · rename_i above
      rw [commentAt?, commentAt?, inserts.linesOf_eq, List.getElem?_append_left (by omega),
        List.getElem?_take_of_lt above]
    · rename_i below
      have index_eq : index + 1 - place = index - place + 1 := by omega
      rw [commentAt?, commentAt?, inserts.linesOf_eq, List.getElem?_append_right (by omega),
        length_eq, index_eq, List.getElem?_cons_succ, List.getElem?_drop]
      congr 2
      omega

theorem InsertsComment.commentAt?_inserted
    (inserts : InsertsComment source after place comment) :
    commentAt? after (place + 1) = some comment := by
  have length_eq := inserts.length_take
  rw [commentAt?, inserts.linesOf_eq, List.getElem?_append_right (Nat.le_of_eq length_eq),
    length_eq, Nat.sub_self]
  rfl

/-! ### Declarations -/

/-- The declaration in a comment does not depend on its line. -/
theorem declaredAt?_eq (source : Source) (line : Nat) :
    declaredAt? source line = (commentAt? source line).bind fun comment =>
      (declarationIn? 0 comment).bind fun inline => inline.parsed.toOption := by
  rw [declaredAt?, inlineAt?, Option.bind_assoc]
  congr 1
  funext comment
  simp only [declarationIn?, Option.bind_map]
  rfl

theorem InsertsComment.markedAt_moved_iff
    (inserts : InsertsComment source after place comment)
    (line : Nat) :
    MarkedAt after (movedLine place line) ↔ MarkedAt source line := by
  rw [MarkedAt, MarkedAt, inserts.commentAt?_moved]

theorem InsertsComment.validAt_moved_iff
    (inserts : InsertsComment source after place comment)
    (line : Nat) :
    ValidAt after (movedLine place line) ↔ ValidAt source line := by
  rw [ValidAt, ValidAt, declaredAt?_eq, declaredAt?_eq, inserts.commentAt?_moved]

/-- Where the comment declares a placeholder, the line that was inserted is a valid declaration. -/
theorem InsertsComment.validAt_inserted
    (inserts : InsertsComment source after place comment)
    {declaration : Declaration}
    (declares : ∀ line, declarationIn? line comment = some ⟨line, .ok declaration⟩)
    (valid : declaration.isValid = true) :
    ValidAt after (place + 1) := by
  refine ⟨declaration, ?_, valid⟩
  rw [declaredAt?_eq, inserts.commentAt?_inserted, Option.bind_some, declares]
  rfl

theorem ValidAt.markedAt
    {line : Nat}
    (validAt : ValidAt source line) :
    MarkedAt source line :=
  let ⟨_, declared, _⟩ := validAt
  markedAt_of_declaredAt? declared

/-! ### Governed lines -/

/-- In a file that is small enough, a window is cut off nowhere. -/
theorem governed_iff_of_small
    {window : Nat}
    (small : source.lineCount + window < Word.bound 32)
    (line : Nat) :
    Governed source window line ↔
      MarkedAt source line ∨
        ∃ first, ValidAt source first ∧ first < line ∧ line ≤ first + window := by
  have window_eq : window % Word.bound 32 = window := Nat.mod_eq_of_lt (by omega)
  refine or_congr_right (exists_congr fun first => and_congr_right fun validAt =>
    and_congr_right fun _ => ?_)
  obtain ⟨comment, isComment, -⟩ := validAt.markedAt
  have inside := (inside_of_commentAt? isComment).2
  rw [window_eq, lineLimit, Nat.min_eq_right (by omega)]

/-- The declaration that was inserted governs the window below it, and a line that an earlier one
does not reach any more lies in this window. -/
theorem InsertsComment.governed_moved_iff
    (inserts : InsertsComment source after place comment)
    (validAt : ValidAt after (place + 1))
    {window : Nat}
    (small : source.lineCount + 1 + window < Word.bound 32)
    (line : Nat) :
    Governed after window (movedLine place line) ↔
      Governed source window line ∨ place < line ∧ line ≤ place + window := by
  rw [governed_iff_of_small (by rw [inserts.lineCount_eq]; exact small),
    governed_iff_of_small (by omega), inserts.markedAt_moved_iff, or_assoc]
  refine or_congr_right ?_
  constructor
  · rintro ⟨first, isValid, before, within⟩
    rcases eq_or_exists_movedLine place first with rfl | ⟨first, rfl⟩
    · have below := (place_lt_movedLine_iff place line).mp before
      rw [movedLine, if_neg (by omega)] at within
      exact .inr ⟨below, by omega⟩
    · rw [inserts.validAt_moved_iff] at isValid
      rw [movedLine_lt_iff] at before
      exact ((reaches_iff place window before).mp (.inl within)).imp_left fun reached =>
        ⟨first, isValid, before, reached⟩
  · have reached : place < line ∧ line ≤ place + window →
        ∃ first, ValidAt after first ∧ first < movedLine place line ∧
          movedLine place line ≤ first + window := by
      rintro ⟨below, within⟩
      refine ⟨place + 1, validAt, (place_lt_movedLine_iff place line).mpr below, ?_⟩
      rw [movedLine, if_neg (by omega)]
      omega
    rintro (⟨first, isValid, before, within⟩ | inWindow)
    · rcases (reaches_iff place window before).mpr (.inl within) with within | inWindow
      · exact ⟨movedLine place first, (inserts.validAt_moved_iff first).mpr isValid,
          (movedLine_lt_iff place first line).mpr before, within⟩
      · exact reached inWindow
    · exact reached inWindow

/-! ## Promises -/

/-- The finding about a promise on a line that nothing governs. -/
def danglingAt? (window : Nat) (source : Source) (line : Nat) : Option Finding :=
  (commentAt? source line).bind fun comment =>
    if (coverageOf window source).governs line then none
    else (promise.findText? comment).map (danglingFinding source.display line)

/-- Promises are looked for line by line. -/
theorem checkPromises_eq (window : Nat) (source : Source) :
    checkPromises source.display (coverageOf window source) (linesOf source) =
      (List.range' 1 source.lineCount).filterMap (danglingAt? window source) := by
  rw [checkPromises, filterMap_zipIdx (linesOf source) 0 fun number parts =>
    if (coverageOf window source).governs number then none
    else (promise.findText? parts.comment).map (danglingFinding source.display number),
    HiddenTodo.length_linesOf]
  apply List.filterMap_congr
  intro line member
  obtain ⟨index, rfl⟩ := Nat.exists_eq_add_of_le' (List.mem_range'_1.mp member).1
  rw [danglingAt?, commentAt?, Option.bind_map, Nat.zero_add, Nat.add_sub_cancel]
  rfl

/-- Promises are all that the rule for them reports in a source file. -/
theorem ofRule_promise_checkSource
    (settings : PlaceholderSettings)
    (now : Instant)
    (source : Source) :
    ofRule "DANGLING_PROMISE" (checkSource settings now source) =
      (List.range' 1 source.lineCount).filterMap (danglingAt? settings.coverageWindow source) := by
  have parts : checkSource settings now source =
      checkReadable source.display (declarationsIn (linesOf source)) ++
        ((readIn source).flatMap fun read =>
          checkDeclaration settings now source.display read.1 read.2) ++
        checkBudget settings source.display ((readIn source).map Prod.snd) ++
        checkPromises source.display (coverageOf settings.coverageWindow source)
          (linesOf source) := by
    rw [List.append_assoc (checkReadable _ _)]
    rfl
  have declared : ofRule "DANGLING_PROMISE" ((readIn source).flatMap fun read =>
      checkDeclaration settings now source.display read.1 read.2) = [] := by
    rw [ofRule, List.filter_eq_nil_iff]
    intro finding member
    obtain ⟨read, -, made⟩ := List.mem_flatMap.mp member
    rcases cases_of_mem_checkDeclaration made with ⟨rule_eq, -⟩ | rule_eq | rule_eq <;>
      simp [rule_eq]
  rw [parts, ofRule_append, ofRule_append, ofRule_append, declared,
    ofRule_eq_ite fun _ => rule_of_mem_checkReadable,
    ofRule_eq_ite fun _ => rule_of_mem_checkBudget,
    ofRule_eq_ite fun _ => rule_of_mem_checkPromises, checkPromises_eq]
  rfl

/-- The finding in a file with a line behind the first `place` lines. -/
def movedFinding (place : Nat) (finding : Finding) : Finding :=
  { finding with line? := finding.line?.map (movedLine place) }

/-- The finding is on one of the `window` lines behind the first `place` lines. -/
def isWithinWindow (place window : Nat) (finding : Finding) : Bool :=
  finding.line?.any fun line => place < line && line ≤ place + window

theorem isWithinWindow_danglingFinding (place window line : Nat) (file text : String) :
    isWithinWindow place window (danglingFinding file line text) =
      decide (place < line ∧ line ≤ place + window) :=
  (Bool.decide_and _ _).symm

theorem movedFinding_danglingFinding (place line : Nat) (file text : String) :
    movedFinding place (danglingFinding file line text) =
      danglingFinding file (movedLine place line) text := rfl

/-- A finding about a promise moves with its line, unless the new declaration governs it. -/
theorem InsertsComment.danglingAt?_moved
    (inserts : InsertsComment source after place comment)
    (validAt : ValidAt after (place + 1))
    {window : Nat}
    (small : source.lineCount + 1 + window < Word.bound 32)
    (line : Nat) :
    danglingAt? window after (movedLine place line) =
      ((danglingAt? window source line).filter fun finding =>
        !isWithinWindow place window finding).map (movedFinding place) := by
  have governed := inserts.governed_moved_iff validAt small line
  rw [← governs_coverageOf_iff, ← governs_coverageOf_iff] at governed
  have display_eq : after.display = source.display := by
    rw [Source.display, Source.display, inserts.path_eq]
  rw [danglingAt?, danglingAt?, inserts.commentAt?_moved, display_eq]
  cases commentAt? source line with
  | none => rfl
  | some comment =>
    simp only [Option.bind_some]
    by_cases free : (coverageOf window source).governs line = true
    · rw [if_pos free, if_pos (governed.mpr (.inl free))]
      rfl
    by_cases inWindow : place < line ∧ line ≤ place + window
    · rw [if_pos (governed.mpr (.inr inWindow))]
      cases promise.findText? comment <;> simp [free, isWithinWindow_danglingFinding, inWindow]
    · rw [if_neg fun reached => (governed.mp reached).elim free inWindow, if_neg free]
      cases promise.findText? comment with
      | none => rfl
      | some text =>
        have outside : isWithinWindow place window (danglingFinding source.display line text) =
            false := by
          rw [isWithinWindow_danglingFinding]
          exact decide_eq_false inWindow
        simp [outside, movedFinding_danglingFinding]

/-- What is chosen from the lines of a file, but not on the line that was inserted, is chosen on the
lines that were there before. -/
theorem filterMap_range'_inserted
    {α : Type}
    {place count : Nat}
    (inside : place ≤ count)
    {choose : Nat → Option α}
    (nothing : choose (place + 1) = none) :
    (List.range' 1 (count + 1)).filterMap choose =
      (List.range' 1 count).filterMap fun line => choose (movedLine place line) := by
  obtain ⟨rest, rfl⟩ := Nat.exists_eq_add_of_le inside
  have before : List.range' 1 (place + rest) =
      List.range' 1 place ++ List.range' (1 + place) rest :=
    List.range'_append_1.symm
  have now : List.range' 1 (place + rest + 1) =
      List.range' 1 place ++ (place + 1) :: (List.range' (1 + place) rest).map (1 + ·) := by
    rw [Nat.add_assoc, ← List.range'_append_1, List.range'_succ, List.map_add_range',
      Nat.add_comm 1 place, Nat.add_comm 1 (place + 1)]
  rw [before, now, List.filterMap_append, List.filterMap_append, List.filterMap_cons_none nothing,
    List.filterMap_map]
  congr 1
  · apply List.filterMap_congr
    intro line member
    obtain ⟨-, within⟩ := List.mem_range'_1.mp member
    rw [movedLine, if_pos (by omega)]
  · apply List.filterMap_congr
    intro line member
    obtain ⟨below, -⟩ := List.mem_range'_1.mp member
    rw [movedLine, if_neg (by omega), Function.comp_apply, Nat.add_comm]

end Insertion

/-- A valid declaration that is inserted outside of a block governs exactly the next window: of the
promises that are reported, those on the lines before it stay, those on the lines of the window are
not reported any more, those on later lines move down by one, and none is added. -/
theorem checkSource_insert_declaration
    {settings : PlaceholderSettings}
    (now : Instant)
    {source after : Source}
    {place : Nat}
    {marker written : String}
    {declaration : Declaration}
    (inserts : Inserts source after place (declaringLine marker written))
    (isMarker : marker ∈ (Profile.ofPath source.path).comments.markers)
    (outside :
      Comment.blockAfter (Profile.ofPath source.path).comments (source.lines.take place) = false)
    (read : Declaration.decoder.parse written = .ok declaration)
    (valid : declaration.isValid = true)
    (small : source.lineCount + 1 + settings.coverageWindow < Word.bound 32) :
    ofRule "DANGLING_PROMISE" (checkSource settings now after) =
      ((ofRule "DANGLING_PROMISE" (checkSource settings now source)).filter fun finding =>
        !isWithinWindow place settings.coverageWindow finding).map (movedFinding place) := by
  have comments := inserts.insertsComment isMarker outside
  have validAt := comments.validAt_inserted (declarationIn?_of_parse read) valid
  have silent : danglingAt? settings.coverageWindow after (place + 1) = none := by
    have governed : Governed after settings.coverageWindow (place + 1) := .inl validAt.markedAt
    rw [danglingAt?, (governs_coverageOf_iff _ _).mpr governed, comments.commentAt?_inserted]
    rfl
  rw [ofRule_promise_checkSource, ofRule_promise_checkSource, comments.lineCount_eq,
    filterMap_range'_inserted comments.inside silent, List.filter_filterMap, List.map_filterMap]
  exact List.filterMap_congr fun line _ => comments.danglingAt?_moved validAt small line

/-- Behind the third line the fourth one is out of reach of the first declaration.  The second one
governs it, and the fifth one besides. -/
theorem checkSource_insert_second_declaration :
    let settings : PlaceholderSettings := { coverageWindow := 2 }
    let now : Instant := ⟨⟨2026, 5, 4⟩, 43200, 0⟩
    let written := "[\"a\",\"b\",\"c\",\"partial\",\"d\",null,null]"
    let before := "f(); //todo\n//@placeholder" ++ written ++ "\n//todo\n"
    let behind := "//todo\ng(); //todo\n/* todo */ h();\n"
    let source : Source := ⟨"a.rs", before ++ behind⟩
    let after : Source := ⟨"a.rs", before ++ (declaringLine "//" written ++ "\n") ++ behind⟩
    let found := ofRule "DANGLING_PROMISE" (checkSource settings now source)
    let left := ofRule "DANGLING_PROMISE" (checkSource settings now after)
    Inserts source after 3 (declaringLine "//" written) ∧
      found.map Finding.line? = [some 1, some 5, some 6] ∧
      left = (found.filter fun finding => !isWithinWindow 3 2 finding).map (movedFinding 3) ∧
      left.map Finding.line? = [some 1, some 7] := by
  intro settings now written before behind source after found left
  have inserts : Inserts source after 3 (declaringLine "//" written) :=
    ⟨rfl, by decide +kernel, by decide +kernel⟩
  have read : Declaration.decoder.parse written =
      .ok ⟨some "a", some "b", some "c", some "partial", some "d", none, none⟩ := by
    have parsed : (Declaration.decoder.parse written).toOption =
        some ⟨some "a", some "b", some "c", some "partial", some "d", none, none⟩ := by
      decide +kernel
    cases result : Declaration.decoder.parse written with
    | error fault => simp [result, Except.toOption] at parsed
    | ok declaration => simpa [result, Except.toOption] using parsed
  have small : source.lineCount + 1 + settings.coverageWindow < Word.bound 32 := by decide +kernel
  have left_eq := checkSource_insert_declaration now inserts (by decide +kernel)
    (by decide +kernel) read (by decide +kernel) small
  exact ⟨inserts, by decide +kernel, left_eq, by decide +kernel⟩

end Placeholder
end QualityGate
