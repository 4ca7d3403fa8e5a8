import QualityGate.Proofs.HiddenTodo.Runs
import QualityGate.Proofs.Text.Search

/-!
# Governed lines

Which lines of a file declare a placeholder, which declaration is read there, and which lines such
declarations govern, is said here line by line.  The scan of the comments finds exactly these
declarations, and the coverage that is built from them governs exactly these lines.
-/

namespace QualityGate
namespace Placeholder

open HiddenTodo (linesOf coverageOf)

section Lines

variable (source : Source)

/-- The comment of a line of a file; lines are counted from one. -/
def commentAt? : Nat → Option String
  | 0 => none
  | index + 1 => (linesOf source)[index]?.map LineParts.comment

/-- The comment of the line has the marker of declarations. -/
def MarkedAt (line : Nat) : Prop :=
  ∃ comment ∈ commentAt? source line, inlineMarker.toList <:+: comment.toList

/-- What stands behind the marker in the comment of a line: a declaration, or why there is none. -/
def inlineAt? (line : Nat) : Option InlineDeclaration :=
  (commentAt? source line).bind (declarationIn? line)

/-- The declaration that is read in the comment of a line. -/
def declaredAt? (line : Nat) : Option Declaration :=
  (inlineAt? source line).bind fun inline => inline.parsed.toOption

/-- A declaration with which nothing is wrong stands on the line. -/
def ValidAt (line : Nat) : Prop :=
  ∃ declaration ∈ declaredAt? source line, declaration.isValid = true

/-- The line has a marker, or it lies in the window below a valid declaration.  A window has 32
bits and does not reach beyond the largest number of a line. -/
def Governed (window line : Nat) : Prop :=
  MarkedAt source line ∨
    ∃ first, ValidAt source first ∧ first < line ∧
      line ≤ min lineLimit (first + window % Word.bound 32)

end Lines

/-! ## Declarations -/

/-- A declaration in a comment has the number of its line. -/
theorem line_eq_of_declarationIn?
    {line : Nat}
    {comment : String}
    {inline : InlineDeclaration}
    (found : declarationIn? line comment = some inline) :
    inline.line = line := by
  obtain ⟨parts, -, rfl⟩ := Option.map_eq_some_iff.mp found
  rfl

/-- A declaration is valid exactly if it was read and nothing is wrong with it. -/
theorem InlineDeclaration.isSome_valid?_iff (inline : InlineDeclaration) :
    inline.valid?.isSome = true ↔
      ∃ declaration ∈ inline.parsed.toOption, declaration.isValid = true := by
  unfold valid?
  cases inline.parsed with
  | error message => simp [Except.toOption]
  | ok declaration => simp [Except.toOption]

/-- A line is covered if a valid declaration stands above it and reaches down to it. -/
theorem covers_ofDeclarations_iff
    (declarations : List InlineDeclaration)
    (window line : Nat) :
    (Coverage.ofDeclarations declarations window).covers line = true ↔
      ∃ inline ∈ declarations, inline.valid?.isSome = true ∧ inline.line < line ∧
        line ≤ min lineLimit (inline.line + window % Word.bound 32) := by
  simp only [Coverage.covers, Coverage.ofDeclarations, List.any_map, List.any_eq_true,
    List.mem_filter, Function.comp_apply, Bool.and_eq_true, decide_eq_true_eq, and_assoc]

section Source

variable {source : Source}

/-- A line with a comment is a line of the file. -/
theorem inside_of_commentAt?
    {line : Nat}
    {comment : String}
    (isComment : commentAt? source line = some comment) :
    1 ≤ line ∧ line ≤ source.lineCount := by
  cases line with
  | zero => cases isComment
  | succ index =>
    obtain ⟨parts, atIndex, -⟩ := Option.map_eq_some_iff.mp isComment
    obtain ⟨inside, -⟩ := List.getElem?_eq_some_iff.mp atIndex
    rw [HiddenTodo.length_linesOf] at inside
    exact ⟨Nat.succ_pos index, inside⟩

theorem line_eq_of_inlineAt?
    {line : Nat}
    {inline : InlineDeclaration}
    (found : inlineAt? source line = some inline) :
    inline.line = line := by
  obtain ⟨comment, -, inComment⟩ := Option.bind_eq_some_iff.mp found
  exact line_eq_of_declarationIn? inComment

/-- Something stands behind a marker exactly where there is one. -/
theorem exists_inlineAt?_iff (line : Nat) :
    (∃ inline, inlineAt? source line = some inline) ↔ MarkedAt source line := by
  simp only [inlineAt?, Option.bind_eq_some_iff, MarkedAt]
  rw [exists_comm]
  refine exists_congr fun comment => ?_
  rw [exists_and_left, ← Option.isSome_iff_exists, declarationIn?, Option.isSome_map,
    Text.isSome_splitAt?_iff]
  rfl

theorem markedAt_of_declaredAt?
    {line : Nat}
    {declaration : Declaration}
    (declared : declaredAt? source line = some declaration) :
    MarkedAt source line := by
  obtain ⟨inline, found, -⟩ := Option.bind_eq_some_iff.mp declared
  exact (exists_inlineAt?_iff line).mp ⟨inline, found⟩

/-- The scan finds what stands behind the markers of the lines, with the numbers of the lines. -/
theorem mem_declarationsIn_iff (inline : InlineDeclaration) :
    inline ∈ declarationsIn (linesOf source) ↔ ∃ line, inlineAt? source line = some inline := by
  simp only [declarationsIn, List.mem_filterMap, Prod.exists, List.mem_zipIdx_iff_getElem?]
  constructor
  · rintro ⟨parts, index, atIndex, found⟩
    refine ⟨index + 1, Option.bind_eq_some_iff.mpr ⟨parts.comment, ?_, found⟩⟩
    rw [commentAt?, atIndex, Option.map_some]
  · rintro ⟨line, found⟩
    obtain ⟨comment, isComment, inComment⟩ := Option.bind_eq_some_iff.mp found
    cases line with
    | zero => cases isComment
    | succ index =>
      obtain ⟨parts, atIndex, rfl⟩ := Option.map_eq_some_iff.mp isComment
      exact ⟨parts, index, atIndex, inComment⟩

/-! ## Coverage -/

theorem isDeclaration_coverageOf_iff (window line : Nat) :
    (coverageOf window source).isDeclaration line = true ↔ MarkedAt source line := by
  have lines_eq : (coverageOf window source).declarationLines =
      (declarationsIn (linesOf source)).map InlineDeclaration.line := rfl
  rw [Coverage.isDeclaration, lines_eq, List.contains_iff_mem, List.mem_map,
    ← exists_inlineAt?_iff]
  constructor
  · rintro ⟨inline, member, rfl⟩
    obtain ⟨line, found⟩ := (mem_declarationsIn_iff inline).mp member
    rw [line_eq_of_inlineAt? found]
    exact ⟨inline, found⟩
  · rintro ⟨inline, found⟩
    exact ⟨inline, (mem_declarationsIn_iff inline).mpr ⟨line, found⟩, line_eq_of_inlineAt? found⟩

theorem covers_coverageOf_iff (window line : Nat) :
    (coverageOf window source).covers line = true ↔
      ∃ first, ValidAt source first ∧ first < line ∧
        line ≤ min lineLimit (first + window % Word.bound 32) := by
  rw [coverageOf, covers_ofDeclarations_iff]
  simp only [InlineDeclaration.isSome_valid?_iff, mem_declarationsIn_iff]
  constructor
  · rintro ⟨inline, ⟨first, found⟩, ⟨declaration, read, valid⟩, below, within⟩
    rw [line_eq_of_inlineAt? found] at below within
    exact ⟨first, ⟨declaration, Option.bind_eq_some_iff.mpr ⟨inline, found, read⟩, valid⟩, below,
      within⟩
  · rintro ⟨first, ⟨declaration, declared, valid⟩, below, within⟩
    obtain ⟨inline, found, read⟩ := Option.bind_eq_some_iff.mp declared
    rw [← line_eq_of_inlineAt? found] at below within
    exact ⟨inline, ⟨first, found⟩, ⟨declaration, read, valid⟩, below, within⟩

/-- The coverage of a file governs exactly the governed lines. -/
theorem governs_coverageOf_iff (window line : Nat) :
    (coverageOf window source).governs line = true ↔ Governed source window line := by
  rw [Coverage.governs, Bool.or_eq_true, isDeclaration_coverageOf_iff, covers_coverageOf_iff]
  rfl

/-- If nothing is wrong on marked lines, a governed line has a valid declaration or lies at most the
window below one. -/
theorem Governed.exists_validAt
    {window line : Nat}
    (governed : Governed source window line)
    (valid : MarkedAt source line → ValidAt source line) :
    ∃ first, ValidAt source first ∧ first ≤ line ∧ line ≤ first + window := by
  rcases governed with marked | ⟨first, validAt, below, within⟩
  · exact ⟨line, valid marked, Nat.le_refl line, Nat.le_add_right line window⟩
  · have reach : window % Word.bound 32 ≤ window := Nat.mod_le _ _
    exact ⟨first, validAt, Nat.le_of_lt below, by omega⟩

end Source

end Placeholder
end QualityGate
