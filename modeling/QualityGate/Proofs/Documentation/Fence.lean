import QualityGate.Detector.Documentation
import QualityGate.Proofs.Text.Lines
import Mathlib.Algebra.Ring.Parity
import Mathlib.Data.List.DropRight
import Mathlib.Data.Nat.Bits

/-!
# Fenced blocks

A fence of at least three backticks or tildes opens a block, which ends at the first line that has
nothing but at least as many of the same character.  The scanner of documents does not remember by
which fence a block was opened: for it, every fence ends a block or opens one.  So a fence inside a
block that does not close it, a stray one, turns the block inside out for the rest of the document
or up to the next stray fence.  Where the number of stray fences above a line is even, the line is
judged as if it were the only one of the document if it is outside of all blocks, and not at all if
it belongs to one.
-/

namespace QualityGate
namespace Documentation

/-! ## Fences -/

/-- The fence of a block: its character, and how many there are of it. -/
structure Fence where
  mark : Char
  length : Nat
  isMark : mark = '`' ∨ mark = '~'
  isLong : 3 ≤ length
deriving DecidableEq

namespace Fence

/-- How often a text without the blanks at its front begins with a character. -/
def run (mark : Char) (text : String) : Nat :=
  ((Text.trimStart text).toList.takeWhile (· == mark)).length

/-- The fence that a text begins with. -/
def opening? (text : String) : Option Fence :=
  if long : 3 ≤ run '`' text then some ⟨'`', run '`' text, .inl rfl, long⟩
  else if long : 3 ≤ run '~' text then some ⟨'~', run '~' text, .inr rfl, long⟩
  else none

/-- A line has nothing but the character of the fence, at least as often as the fence. -/
def closes (fence : Fence) (text : String) : Bool :=
  let marks := (Text.trim text).toList
  decide (fence.length ≤ marks.length) && marks.all (· == fence.mark)

/-- The fence of the block that a document is inside of behind a line. -/
def after (inside? : Option Fence) (text : String) : Option Fence :=
  match inside? with
  | none => opening? text
  | some fence => if fence.closes text then none else some fence

/-- The fence of the block that a document is inside of behind some lines. -/
def afterAll (inside? : Option Fence) (texts : List String) : Option Fence :=
  texts.foldl after inside?

end Fence

/-- A line belongs to a block: it lies in one or closes it, or it opens one. -/
def BelongsToBlock (above : List String) (text : String) : Prop :=
  (Fence.afterAll none above).isSome = true ∨ (Fence.opening? text).isSome = true

instance (above : List String) (text : String) : Decidable (BelongsToBlock above text) :=
  inferInstanceAs (Decidable (_ ∨ _))

/-- A fence inside a block that does not close it. -/
def isStray (inside? : Option Fence) (text : String) : Bool :=
  inside?.any fun fence => (Fence.opening? text).isSome && !fence.closes text

/-- The number of stray fences in lines that begin inside of a block or outside of all. -/
def strayCount : Option Fence → List String → Nat
  | _, [] => 0
  | inside?, text :: rest =>
    (isStray inside? text).toNat + strayCount (Fence.after inside? text) rest

/-! ## What the scanner takes for a fence -/

theorem replicate_prefix_iff (mark : Char) (count : Nat) (characters : List Char) :
    List.replicate count mark <+: characters ↔
      count ≤ (characters.takeWhile (· == mark)).length := by
  induction characters generalizing count with
  | nil => simp
  | cons character rest inductionHypothesis =>
    cases count with
    | zero => simp
    | succ count =>
      rw [List.replicate_succ, List.cons_prefix_cons, inductionHypothesis, List.takeWhile_cons]
      by_cases same : character = mark
      · simp [same]
      · simp [same, Ne.symm same]

theorem startsWith_trimStart_iff (mark : Char) (text : String) :
    Text.startsWith (Text.trimStart text) (String.ofList (List.replicate 3 mark)) = true ↔
      3 ≤ Fence.run mark text := by
  rw [Text.startsWith, List.isPrefixOf_iff_prefix, String.toList_ofList, replicate_prefix_iff,
    Fence.run]

/-- The scanner takes for a fence what begins with one. -/
theorem isFence_eq_isSome_opening? (text : String) :
    isFence text = (Fence.opening? text).isSome := by
  have backticks := startsWith_trimStart_iff '`' text
  have tildes := startsWith_trimStart_iff '~' text
  rw [Bool.eq_iff_iff, isFence, Bool.or_eq_true]
  refine (or_congr backticks tildes).trans ?_
  unfold Fence.opening?
  split
  · simp [*]
  · split <;> simp [*]

/-- What closes a block is a fence. -/
theorem Fence.isSome_opening?_of_closes
    {fence : Fence}
    {text : String}
    (closes : fence.closes text = true) :
    (opening? text).isSome = true := by
  obtain ⟨enough, allMarks⟩ := Bool.and_eq_true_iff.mp closes
  have marks_eq : (Text.trim text).toList =
      List.replicate (Text.trim text).toList.length fence.mark :=
    List.eq_replicate_of_mem fun character member =>
      eq_of_beq (List.all_eq_true.mp allMarks character member)
  -- only blanks behind the marks are missing from the text without the blanks at its front
  have isPrefix : (Text.trim text).toList <+: (Text.trimStart text).toList := by
    simp only [Text.trim, Text.trimStart, Text.onCharacters, String.toList_ofList]
    exact List.rdropWhile_prefix _ _
  rw [marks_eq, replicate_prefix_iff] at isPrefix
  have long : 3 ≤ run fence.mark text :=
    fence.isLong.trans ((of_decide_eq_true enough).trans isPrefix)
  unfold opening?
  rcases fence.isMark with isMark | isMark
  · rw [isMark] at long
    rw [dif_pos long, Option.isSome_some]
  · rw [isMark] at long
    rw [dif_pos long]
    split <;> rfl

/-! ## The scanner inside and outside of blocks -/

/-- What the scanner remembers behind a line. -/
def fencedAfter (fenced : Bool) (text : String) : Bool :=
  fenced ^^ isFence text

/-- One line keeps the scanner and the blocks in step, or apart, unless it is a stray fence. -/
theorem fencedAfter_eq (inside? : Option Fence) (apart : Bool) (text : String) :
    fencedAfter (inside?.isSome ^^ apart) text =
      ((Fence.after inside? text).isSome ^^ (apart ^^ isStray inside? text)) := by
  rw [fencedAfter, isFence_eq_isSome_opening?]
  cases inside? with
  | none =>
    rw [Fence.after, isStray]
    simp [Bool.xor_comm]
  | some fence =>
    rw [Fence.after, isStray, Option.any_some]
    cases closes : fence.closes text with
    | true => simp [Fence.isSome_opening?_of_closes closes]
    | false => simp

/-- Behind some lines the scanner and the blocks are apart if the number of stray fences is odd. -/
theorem foldl_fencedAfter_eq (inside? : Option Fence) (apart : Bool) (texts : List String) :
    texts.foldl fencedAfter (inside?.isSome ^^ apart) =
      ((Fence.afterAll inside? texts).isSome ^^
        (apart ^^ (strayCount inside? texts).bodd)) := by
  induction texts generalizing inside? apart with
  | nil => simp [Fence.afterAll, strayCount]
  | cons text rest inductionHypothesis =>
    have odd : ((isStray inside? text).toNat).bodd = isStray inside? text := by
      cases isStray inside? text <;> rfl
    rw [List.foldl_cons, fencedAfter_eq, inductionHypothesis, strayCount, Nat.bodd_add, odd,
      Bool.xor_assoc]
    rfl

/-! ## Findings on a line -/

/-- The findings of a scan of a document that stand on a line. -/
def findingsAt (settings : DocumentationSettings) (source : Source) (line : Nat) : List Finding :=
  (checkDocument settings source).filter fun finding => finding.line? == some line

variable {file : String}

theorem line?_of_mem_checkLine
    {line : Nat}
    {text : String}
    {finding : Finding}
    (member : finding ∈ checkLine file line text) :
    finding.line? = some line := by
  obtain ⟨lineless, -, rfl⟩ := List.mem_map.mp member
  rfl

/-- The findings of a line are the same on every line. -/
theorem checkLine_eq_map (line other : Nat) (text : String) :
    checkLine file line text = (checkLine file other text).map fun found => found.atLine line := by
  rw [checkLine, checkLine, List.map_map]
  rfl

theorem checkLine_empty (line : Nat) : checkLine file line "" = [] := by
  have advertising : marketing.findText? "" = none := rfl
  have unfounded : claim.findText? "" = none := rfl
  rw [checkLine, advertising, unfounded]
  rfl

theorem exists_line?_of_mem_checkLinesFrom
    {first : Nat}
    {fenced : Bool}
    {texts : List String}
    {finding : Finding}
    (member : finding ∈ checkLinesFrom file first fenced texts) :
    ∃ line, finding.line? = some line ∧ first ≤ line ∧ line < first + texts.length := by
  induction texts generalizing first fenced with
  | nil => cases member
  | cons text rest inductionHypothesis =>
    have further (fenced : Bool)
        (later : finding ∈ checkLinesFrom file (first + 1) fenced rest) :
        ∃ line, finding.line? = some line ∧ first ≤ line ∧
          line < first + (text :: rest).length := by
      obtain ⟨line, line_eq, atLeast, below⟩ := inductionHypothesis later
      exact ⟨line, line_eq, by omega, by rw [List.length_cons]; omega⟩
    rw [checkLinesFrom] at member
    split at member
    · exact further _ member
    · split at member
      · exact further _ member
      · rcases List.mem_append.mp member with here | later
        · exact ⟨first, line?_of_mem_checkLine here, Nat.le_refl _, by simp⟩
        · exact further _ later

theorem checkLinesFrom_cons (first : Nat) (fenced : Bool) (text : String) (rest : List String) :
    checkLinesFrom file first fenced (text :: rest) =
      (if isFence text || fenced then [] else checkLine file first text) ++
        checkLinesFrom file (first + 1) (fencedAfter fenced text) rest := by
  rw [checkLinesFrom, fencedAfter]
  cases isFence text <;> cases fenced <;> simp

theorem checkLinesFrom_append (first : Nat) (fenced : Bool) (above below : List String) :
    checkLinesFrom file first fenced (above ++ below) =
      checkLinesFrom file first fenced above ++
        checkLinesFrom file (first + above.length) (above.foldl fencedAfter fenced) below := by
  induction above generalizing first fenced with
  | nil => rfl
  | cons text rest inductionHypothesis =>
    rw [List.cons_append, checkLinesFrom_cons, checkLinesFrom_cons, inductionHypothesis,
      List.foldl_cons, List.append_assoc, List.length_cons, Nat.add_right_comm, Nat.add_assoc]

/-- Only the line itself has findings that stand on it. -/
theorem filter_checkLinesFrom
    (first : Nat)
    (fenced : Bool)
    (above : List String)
    (text : String)
    (below : List String) :
    (checkLinesFrom file first fenced (above ++ text :: below)).filter
        (fun finding => finding.line? == some (first + above.length)) =
      if isFence text || above.foldl fencedAfter fenced then []
      else checkLine file (first + above.length) text := by
  rw [checkLinesFrom_append, checkLinesFrom_cons, List.filter_append, List.filter_append]
  have noneAbove : (checkLinesFrom file first fenced above).filter
      (fun finding => finding.line? == some (first + above.length)) = [] := by
    refine List.filter_eq_nil_iff.mpr fun finding member => ?_
    obtain ⟨line, line_eq, -, less⟩ := exists_line?_of_mem_checkLinesFrom member
    simp [line_eq, less.ne]
  have noneBelow (fenced : Bool) :
      (checkLinesFrom file (first + above.length + 1) fenced below).filter
        (fun finding => finding.line? == some (first + above.length)) = [] := by
    refine List.filter_eq_nil_iff.mpr fun finding member => ?_
    obtain ⟨line, line_eq, greater, -⟩ := exists_line?_of_mem_checkLinesFrom member
    simp [line_eq, (Nat.lt_of_succ_le greater).ne']
  have allHere : (checkLine file (first + above.length) text).filter
      (fun finding => finding.line? == some (first + above.length)) =
        checkLine file (first + above.length) text :=
    List.filter_eq_self.mpr fun finding member => by simp [line?_of_mem_checkLine member]
  rw [noneAbove, noneBelow, List.nil_append, List.append_nil]
  split
  · rfl
  · exact allHere

variable {settings : DocumentationSettings} {source : Source}

theorem filter_checkPlace (line : Nat) :
    (checkPlace settings source).filter (fun finding => finding.line? == some line) = [] := by
  rw [checkPlace]
  split <;> rfl

/-- The findings on a line are its own, unless it is a fence or the scanner takes it for a line of a
block. -/
theorem findingsAt_eq
    {above below : List String}
    {text : String}
    (lines_eq : source.lines = above ++ text :: below) :
    findingsAt settings source (above.length + 1) =
      if isFence text || above.foldl fencedAfter false then []
      else checkLine source.display (above.length + 1) text := by
  rw [findingsAt, checkDocument, List.filter_append, filter_checkPlace, List.nil_append, lines_eq,
    Nat.add_comm, filter_checkLinesFrom]

/-! ## Lines that are judged -/

/-- A document that has nothing but a line has the findings of the line. -/
theorem findingsAt_only
    {text : String}
    (apart : '\n' ∉ text.toList) :
    findingsAt settings { source with content := text } 1 =
      if isFence text then [] else checkLine source.display 1 text := by
  have lines_eq := Text.lines_of_not_mem apart
  by_cases empty : text = ""
  · subst empty
    rw [findingsAt, checkDocument, Source.lines, lines_eq, List.filter_append, filter_checkPlace,
      checkLine_empty]
    rfl
  · rw [if_neg empty] at lines_eq
    have alone : ({ source with content := text } : Source).lines = [] ++ text :: [] := lines_eq
    rw [← Bool.or_false (isFence text)]
    exact findingsAt_eq alone

/-- Below an even number of stray fences a line that belongs to a block has no findings, and every
other line those that it has as the only line of the document.  Below an odd number of them it is
the other way round. -/
theorem findingsAt_line
    (settings : DocumentationSettings)
    {source : Source}
    {above below : List String}
    {text : String}
    (lines_eq : source.lines = above ++ text :: below) :
    let alone := (findingsAt settings { source with content := text } 1).map fun finding =>
      finding.atLine (above.length + 1)
    (Even (strayCount none above) →
        findingsAt settings source (above.length + 1) =
          if BelongsToBlock above text then [] else alone) ∧
      (Odd (strayCount none above) →
        findingsAt settings source (above.length + 1) =
          if BelongsToBlock above text then alone else []) := by
  intro alone
  have isLine : text ∈ Text.lines source.content := by
    change text ∈ source.lines
    simp [lines_eq]
  have alone_eq : alone =
      if isFence text then [] else checkLine source.display (above.length + 1) text := by
    simp only [alone, findingsAt_only (Text.not_mem_of_mem_lines isLine)]
    split
    · rfl
    · exact (checkLine_eq_map (above.length + 1) 1 text).symm
  have belongs_iff : BelongsToBlock above text ↔
      (Fence.afterAll none above).isSome = true ∨ isFence text = true := by
    rw [BelongsToBlock, isFence_eq_isSome_opening?]
  have scanner := foldl_fencedAfter_eq none false above
  simp only [Option.isSome_none, Bool.xor_false, Bool.false_xor] at scanner
  rw [findingsAt_eq lines_eq, alone_eq, scanner]
  simp only [belongs_iff]
  constructor
  · intro even
    have inStep : (strayCount none above).bodd = false := by
      simpa [Nat.even_iff, Nat.mod_two_of_bodd] using even
    rw [inStep]
    cases isFence text <;> cases (Fence.afterAll none above).isSome <;> simp
  · intro odd
    have apart : (strayCount none above).bodd = true := by
      simpa [Nat.odd_iff, Nat.mod_two_of_bodd] using odd
    rw [apart]
    cases isFence text <;> cases (Fence.afterAll none above).isSome <;> simp

/-- A block that is opened by four backticks has three of them inside, and the line behind them is
judged. -/
theorem findingsAt_line_of_shorter_fence :
    let source : Source := ⟨"README.md", "````\n```\nAn amazing tool\n```\n````\n"⟩
    BelongsToBlock ["````", "```"] "An amazing tool" ∧
      (findingsAt {} source 3).map Finding.rule = ["MARKETING_LANGUAGE"] := by
  intro source
  have lines_eq : source.lines =
      ["````", "```"] ++ "An amazing tool" :: ["```", "````"] := by decide +kernel
  have belongs : BelongsToBlock ["````", "```"] "An amazing tool" := by decide +kernel
  have odd : Odd (strayCount none ["````", "```"]) := by decide +kernel
  have judged := (findingsAt_line {} lines_eq).2 odd
  rw [if_pos belongs] at judged
  change findingsAt {} source 3 = _ at judged
  rw [judged]
  exact ⟨belongs, by decide +kernel⟩

end Documentation
end QualityGate
