import QualityGate.Proofs.Comment.Pieces
import Mathlib.Data.List.Flatten
import Mathlib.Data.List.Induction
import Mathlib.Data.List.Perm.Basic

/-!
# Code and comment text of a line

The code and the comment text of a line are put together from its pieces: each character of the
line that is not part of a delimiter stands in one of the two, once and in its place.  A file is
scanned line after line, and what a line leaves open is where the next one starts.
-/

namespace QualityGate
namespace Comment
namespace Piece

def isCode : Piece → Bool
  | .code _ => true
  | _ => false

def isComment : Piece → Bool
  | .comment _ => true
  | _ => false

def isBlockEnd : Piece → Bool
  | .blockEnd _ => true
  | _ => false

def isBlockStart : Piece → Bool
  | .blockStart _ => true
  | _ => false

/-- The piece opens or closes a block. -/
def isBlockDelimiter (piece : Piece) : Bool :=
  piece.isBlockStart || piece.isBlockEnd

/-- The piece is neither comment text nor code. -/
def isDelimiter (piece : Piece) : Bool :=
  !piece.isComment && !piece.isCode

end Piece

/-- The characters of the pieces of one kind. -/
def textOf (kind : Piece → Bool) (found : List Piece) : List Char :=
  (found.filter kind).flatMap Piece.source

theorem textOf_sublist (kind : Piece → Bool) (found : List Piece) :
    (textOf kind found).Sublist (found.flatMap Piece.source) :=
  List.filter_sublist.flatMap Piece.source

theorem textOf_cons (kind : Piece → Bool) (piece : Piece) (following : List Piece) :
    textOf kind (piece :: following) =
      (if kind piece then piece.source else []) ++ textOf kind following := by
  rw [textOf, textOf, List.filter_cons]
  split <;> simp

/-- A kind of pieces and the others share the characters of a line out between them. -/
theorem perm_textOf (kind : Piece → Bool) (found : List Piece) :
    (found.flatMap Piece.source).Perm
      (textOf kind found ++ (found.filter fun piece => !kind piece).flatMap Piece.source) := by
  rw [textOf, ← List.flatMap_append]
  exact (List.filter_append_perm kind found).symm.flatMap_right Piece.source

theorem textOf_isComment_filter (found : List Piece) :
    textOf Piece.isComment (found.filter fun piece => !piece.isCode) =
      textOf Piece.isComment found := by
  rw [textOf, textOf, List.filter_filter]
  congr 2
  funext piece
  cases piece <;> rfl

/-- Each character is code, comment text or part of a delimiter. -/
theorem perm_code_comment_delimiter (found : List Piece) :
    (found.flatMap Piece.source).Perm
      (textOf Piece.isCode found ++
        (textOf Piece.isComment found ++ textOf Piece.isDelimiter found)) := by
  refine (perm_textOf Piece.isCode found).trans (.append_left _ ?_)
  refine (perm_textOf Piece.isComment _).trans (.of_eq ?_)
  rw [textOf_isComment_filter, List.filter_filter]
  rfl

theorem toList_code_ofPieces (found : List Piece) :
    (LineParts.ofPieces found).code.toList = textOf Piece.isCode found := by
  rw [LineParts.ofPieces, String.toList_ofList]
  induction found with
  | nil => rfl
  | cons piece following ih =>
    rw [List.flatMap_cons, ih, textOf_cons]
    cases piece <;> rfl

/-- The comment text of a piece, where the end of a block reads as a space. -/
def spacedText (piece : Piece) : List Char :=
  if piece.isComment then piece.source else if piece.isBlockEnd then [' '] else []

theorem toList_comment_ofPieces (found : List Piece) :
    (LineParts.ofPieces found).comment.toList = found.flatMap spacedText := by
  rw [LineParts.ofPieces, String.toList_ofList]
  congr 1
  funext piece
  cases piece <;> rfl

/-! ## Where a line ends -/

/-- The last block delimiter tells whether the line ends inside a block; without one the line ends
where it starts. -/
def endsInside (inBlock : Bool) (found : List Piece) : Bool :=
  match (found.filter Piece.isBlockDelimiter).getLast? with
  | some delimiter => delimiter.isBlockStart
  | none => inBlock

theorem endsInside_of_delimiter {piece : Piece} (delimiter : piece.isBlockDelimiter = true)
    (inBlock : Bool) (following : List Piece) :
    endsInside inBlock (piece :: following) = endsInside piece.isBlockStart following := by
  rw [endsInside, endsInside, List.filter_cons_of_pos delimiter, List.getLast?_cons]
  cases (following.filter Piece.isBlockDelimiter).getLast? <;> rfl

theorem endsInside_of_text {piece : Piece} (text : piece.isBlockDelimiter = false)
    (inBlock : Bool) (following : List Piece) :
    endsInside inBlock (piece :: following) = endsInside inBlock following := by
  simp [endsInside, text]

theorem Layout.ends_eq {style : CommentStyle} {inBlock ends : Bool} {found : List Piece}
    (layout : Layout style inBlock found ends) : ends = endsInside inBlock found := by
  induction layout with
  | done => rfl
  | code taken rest ih => rw [ih, endsInside_of_text rfl]
  | marker listed => rfl
  | opens block rest ih =>
    rw [ih, endsInside_of_delimiter rfl]
    rfl
  | stays block unclosed => rfl
  | closes block first rest ih =>
    rw [ih, endsInside_of_text rfl, endsInside_of_delimiter rfl]
    rfl

/-- Only a style with blocks lets a line end inside of one. -/
theorem Layout.block?_ne_none {style : CommentStyle} {inBlock ends : Bool} {found : List Piece}
    (layout : Layout style inBlock found ends) (started : inBlock = true → style.block? ≠ none)
    (inside : ends = true) : style.block? ≠ none := by
  induction layout with
  | done => exact started inside
  | code taken rest ih => exact ih nofun inside
  | marker listed => cases inside
  | opens block => simp [block]
  | stays block => simp [block]
  | closes block => simp [block]

/-! ## Lines of a file -/

/-- A line that starts inside or outside of a block, cut into pieces. -/
structure Factors (style : CommentStyle) (inBlock : Bool) (line : String) (found : List Piece)
    (parts : LineParts) (inside : Bool) : Prop where
  /-- Read one after the other, the pieces are the line. -/
  source : found.flatMap Piece.source = line.toList
  layout : Layout style inBlock found inside
  code : parts.code.toList = textOf Piece.isCode found
  comment : parts.comment.toList = found.flatMap spacedText
  inside_eq : inside = endsInside inBlock found
  /-- Each character is code, comment text or part of a delimiter, and only one of them. -/
  once : line.toList.Perm
    (parts.code.toList ++ (textOf Piece.isComment found ++ textOf Piece.isDelimiter found))
  code_inOrder : parts.code.toList.Sublist line.toList
  comment_inOrder : (textOf Piece.isComment found).Sublist line.toList
  comment_kept : (textOf Piece.isComment found).Sublist parts.comment.toList
  /-- Every cut is made between two characters. -/
  cuts : ∀ front back, found = front ++ back →
    (String.ofList (front.flatMap Piece.source)).rawEndPos.IsValid line
  /-- A step for each character is enough, and more steps change nothing. -/
  steps : ∀ fuel, line.toList.length ≤ fuel →
    piecesFrom style fuel (if inBlock then .block else .code) line.toList = (found, inside)

theorem isValid_of_append {line : String} {front back : List Char}
    (split : line.toList = front ++ back) : (String.ofList front).rawEndPos.IsValid line := by
  refine String.Pos.Raw.isValid_iff_exists_append.2
    ⟨String.ofList front, String.ofList back, ?_, rfl⟩
  rw [← String.ofList_append, ← split, String.ofList_toList]

theorem comment_sublist_spaced (found : List Piece) :
    (textOf Piece.isComment found).Sublist (found.flatMap spacedText) := by
  induction found with
  | nil => exact List.nil_sublist []
  | cons piece following ih =>
    rw [textOf_cons, List.flatMap_cons]
    refine .append ?_ ih
    unfold spacedText
    split <;> simp

theorem cuts_pieces {style : CommentStyle} (proper : style.IsProper) {inBlock : Bool}
    (stands : inBlock = true → style.block? ≠ none) (characters : List Char) :
    Cuts style (if inBlock then .block else .code) characters
      (pieces style inBlock characters) := by
  refine cuts_piecesFrom proper _ _ _ ?_ (Nat.le_succ _)
  cases inBlock with
  | false => exact stands_of_ne_block nofun
  | true => exact fun _ => stands rfl

theorem Cuts.factors {style : CommentStyle} {inBlock inside : Bool} {line : String}
    {found : List Piece}
    (cut : Cuts style (if inBlock then .block else .code) line.toList (found, inside)) :
    Factors style inBlock line found (LineParts.ofPieces found) inside := by
  obtain ⟨source, layout, steps⟩ := cut
  have layout : Layout style inBlock found inside := by
    cases inBlock <;> exact layout
  have code := toList_code_ofPieces found
  have comment := toList_comment_ofPieces found
  have inOrder (kind : Piece → Bool) := source ▸ textOf_sublist kind found
  refine ⟨source, layout, code, comment, layout.ends_eq, ?_, code ▸ inOrder Piece.isCode,
    inOrder Piece.isComment, comment ▸ comment_sublist_spaced found, ?_, steps⟩
  · rw [code, ← source]
    exact perm_code_comment_delimiter found
  · intro front back split
    apply isValid_of_append
    rw [← source, split, List.flatMap_append]

theorem factors_splitLine {style : CommentStyle} (proper : style.IsProper) {inBlock : Bool}
    (stands : inBlock = true → style.block? ≠ none) (line : String) :
    Factors style inBlock line (pieces style inBlock line.toList).1
      (splitLine style inBlock line).1 (splitLine style inBlock line).2 :=
  (cuts_pieces proper stands line.toList).factors

/-- The lines of a file up to some place end inside a block. -/
def blockAfter (style : CommentStyle) (lines : List String) : Bool :=
  lines.foldl (fun inBlock line => (splitLine style inBlock line).2) false

theorem blockAfter_concat (style : CommentStyle) (lines : List String) (line : String) :
    blockAfter style (lines ++ [line]) = (splitLine style (blockAfter style lines) line).2 := by
  rw [blockAfter, List.foldl_concat]
  rfl

/-- Only a style with blocks leads into one. -/
theorem block?_ne_none_of_blockAfter {style : CommentStyle} (proper : style.IsProper)
    (lines : List String) : blockAfter style lines = true → style.block? ≠ none := by
  induction lines using List.reverseRecOn with
  | nil => nofun
  | append_singleton lines line ih =>
    rw [blockAfter_concat]
    exact (factors_splitLine proper ih line).layout.block?_ne_none ih

/-- Lines are split behind others from where those end. -/
theorem splitFrom_append (style : CommentStyle) (inBlock : Bool) (before following : List String) :
    splitFrom style inBlock (before ++ following) =
      splitFrom style inBlock before ++
        splitFrom style
          (before.foldl (fun inBlock line => (splitLine style inBlock line).2) inBlock)
          following := by
  induction before generalizing inBlock with
  | nil => rfl
  | cons first others ih => exact congrArg (List.cons _) (ih _)

theorem split_append (style : CommentStyle) (before following : List String) :
    split style (before ++ following) =
      split style before ++ splitFrom style (blockAfter style before) following :=
  splitFrom_append style false before following

/-- Whatever the lines before it leave open, each line of a file is cut into pieces of the style
without a loss, and its code and comment text are put together from them. -/
theorem split_factors {style : CommentStyle} (carried : style.IsCarried) (before : List String)
    (line : String) (following : List String) :
    ∃ found parts,
      splitLine style (blockAfter style before) line =
          (parts, blockAfter style (before ++ [line])) ∧
        (split style (before ++ line :: following))[before.length]? = some parts ∧
        Factors style (blockAfter style before) line found parts
          (blockAfter style (before ++ [line])) := by
  have stands := block?_ne_none_of_blockAfter carried.isProper before
  rw [blockAfter_concat]
  refine ⟨_, _, rfl, ?_, factors_splitLine carried.isProper stands line⟩
  rw [split_append, List.getElem?_append_right (Nat.le_of_eq (length_split style before)),
    length_split, Nat.sub_self]
  rfl

theorem split_factors_in_open_block :
    (Profile.ofLanguage (some .rust)).comments.IsCarried ∧
      ∃ found parts,
        splitLine .slashesWithLifetimes (blockAfter .slashesWithLifetimes ["f(); /* \""])
            "é */ '\"' \"/*\" 'a /* b // c" =
          (parts, blockAfter .slashesWithLifetimes
            ["f(); /* \"", "é */ '\"' \"/*\" 'a /* b // c"]) ∧
        (split .slashesWithLifetimes
          ["f(); /* \"", "é */ '\"' \"/*\" 'a /* b // c", "*/"])[1]? = some parts ∧
        Factors .slashesWithLifetimes (blockAfter .slashesWithLifetimes ["f(); /* \""])
          "é */ '\"' \"/*\" 'a /* b // c" found parts
          (blockAfter .slashesWithLifetimes
            ["f(); /* \"", "é */ '\"' \"/*\" 'a /* b // c"]) :=
  ⟨.inr ⟨some .rust, rfl⟩,
    split_factors (.inr ⟨some .rust, rfl⟩) ["f(); /* \""] "é */ '\"' \"/*\" 'a /* b // c"
      ["*/"]⟩

example :
    splitLine .slashesWithLifetimes true "é */ '\"' \"/*\" 'a /* b // c" =
      (⟨" '\"' \"/*\" 'a ", "é   b // c"⟩, true) := by
  decide +kernel

end Comment
end QualityGate
