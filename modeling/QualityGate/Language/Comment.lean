import QualityGate.Text.Basic

/-!
# Comments

A line of source text is cut into pieces: code, comment text, and the delimiters between them.  A
block comment may go on over several lines, so the scan of a line starts and ends inside or outside
of a block.
-/

namespace QualityGate

/-- How comments and literals are written. -/
structure CommentStyle where
  /-- What starts a comment up to the end of the line. -/
  markers : List String
  /-- What opens and closes a comment that may span lines. -/
  block? : Option (String × String)
  /-- The characters that open and close a text literal. -/
  quotes : List Char
  /-- A single quote opens a character literal only if one is closed in time. -/
  characterLiterals : Bool
deriving Repr, DecidableEq

namespace Comment

/-- A piece of a line. -/
inductive Piece where
  | code (characters : List Char)
  | comment (characters : List Char)
  | marker (characters : List Char)
  | blockStart (characters : List Char)
  | blockEnd (characters : List Char)
deriving Repr, DecidableEq

namespace Piece

/-- The characters of the line that a piece stands for. -/
def source : Piece → List Char
  | .code characters => characters
  | .comment characters => characters
  | .marker characters => characters
  | .blockStart characters => characters
  | .blockEnd characters => characters

/-- The code of a piece. -/
def codePart : Piece → List Char
  | .code characters => characters
  | _ => []

/-- The comment text of a piece; the end of a block counts as a space. -/
def commentPart : Piece → List Char
  | .comment characters => characters
  | .blockEnd _ => [' ']
  | _ => []

end Piece

/-- Where the scan of a line stands. -/
inductive Mode where
  | code
  | literal (quote : Char)
  | block
deriving Repr, DecidableEq

/-- The characters up to and including the closing quote, and those after it.  A backslash protects
the character behind it. -/
def literalTail (quote : Char) : List Char → List Char × List Char
  | [] => ([], [])
  | '\\' :: [] => (['\\'], [])
  | '\\' :: escaped :: rest =>
    let (inside, after) := literalTail quote rest
    ('\\' :: escaped :: inside, after)
  | character :: rest =>
    if character == quote then ([character], rest)
    else
      let (inside, after) := literalTail quote rest
      (character :: inside, after)

/-- No character of a literal is lost. -/
theorem literalTail_append (quote : Char) (characters : List Char) :
    (literalTail quote characters).1 ++ (literalTail quote characters).2 = characters := by
  fun_induction literalTail quote characters <;> simp_all

/-- The number of characters of a character literal whose opening quote is the first of the given
characters.  An escape is closed within the eight characters that follow its second character. -/
def characterLiteralLength? (characters : List Char) : Option Nat :=
  match characters with
  | _ :: '\\' :: _ :: following =>
    ((following.take 8).findIdx? (· == '\'')).map fun index => index + 4
  | _ :: _ :: closing :: _ => if closing == '\'' then some 3 else none
  | _ => none

/-- The marker of the style at the front of the characters. -/
def markerAt? (style : CommentStyle) (characters : List Char) : Option (List Char) :=
  (style.markers.find? fun marker => marker.toList.isPrefixOf characters).map String.toList

/-- A marker that is found stands at the front. -/
theorem append_of_markerAt? {style : CommentStyle} {characters marker : List Char}
    (found : markerAt? style characters = some marker) :
    marker ++ characters.drop marker.length = characters := by
  obtain ⟨text, member, equal⟩ := Option.map_eq_some_iff.1 found
  have atFront : text.toList.isPrefixOf characters = true := by
    simpa using List.find?_some member
  subst equal
  exact List.prefix_iff_eq_append.1 (List.isPrefixOf_iff_prefix.1 atFront)

/-- Cut one character or literal of code; the mode after it says whether a literal was opened. -/
def codeStep (style : CommentStyle) (character : Char) (rest : List Char) :
    List Char × List Char × Mode :=
  if character == '\'' && style.characterLiterals then
    let length := (characterLiteralLength? (character :: rest)).getD 1
    ((character :: rest).take length, (character :: rest).drop length, .code)
  else if style.quotes.contains character then ([character], rest, .literal character)
  else ([character], rest, .code)

/-- No character is lost in a step through code. -/
theorem codeStep_append (style : CommentStyle) (character : Char) (rest : List Char) :
    (codeStep style character rest).1 ++ (codeStep style character rest).2.1 =
      character :: rest := by
  unfold codeStep
  split
  · simp
  · split <;> simp

/-- Cut the characters of a line into pieces, and tell whether the line ends inside a block.  Every
step takes at least one character or leaves a block that the style does not have, so the length of
the line and one more is enough fuel. -/
def piecesFrom (style : CommentStyle) : Nat → Mode → List Char → List Piece × Bool
  | 0, mode, _ => ([], mode == .block)
  | _ + 1, mode, [] => ([], mode == .block)
  | fuel + 1, .block, character :: rest =>
    match style.block? with
    | none => piecesFrom style fuel .code (character :: rest)
    | some (_, closing) =>
      match Text.splitAt? closing.toList (character :: rest) with
      | none => ([.comment (character :: rest)], true)
      | some (inside, after) =>
        let (pieces, inBlock) := piecesFrom style fuel .code after
        (.comment inside :: .blockEnd closing.toList :: pieces, inBlock)
  | fuel + 1, .literal quote, character :: rest =>
    let (inside, after) := literalTail quote (character :: rest)
    let (pieces, inBlock) := piecesFrom style fuel .code after
    (.code inside :: pieces, inBlock)
  | fuel + 1, .code, character :: rest =>
    match markerAt? style (character :: rest) with
    | some marker =>
      ([.marker marker, .comment ((character :: rest).drop marker.length)], false)
    | none =>
      match style.block?.bind fun block =>
          (block.1.toList.isPrefixOf? (character :: rest)).map fun after => (block.1, after) with
      | some (opening, after) =>
        let (pieces, inBlock) := piecesFrom style fuel .block after
        (.blockStart opening.toList :: pieces, inBlock)
      | none =>
        let (taken, after, mode) := codeStep style character rest
        let (pieces, inBlock) := piecesFrom style fuel mode after
        (.code taken :: pieces, inBlock)

/-- The pieces of a line that starts inside or outside of a block, and whether it ends inside. -/
def pieces (style : CommentStyle) (inBlock : Bool) (line : List Char) : List Piece × Bool :=
  piecesFrom style (line.length + 1) (if inBlock then .block else .code) line

end Comment

/-- The code and the comment text of a line. -/
structure LineParts where
  code : String
  comment : String
deriving Repr, DecidableEq, Inhabited

namespace LineParts

/-- The line carries comment text. -/
def hasComment (parts : LineParts) : Bool :=
  !Text.isBlankText parts.comment

/-- Put the pieces of a line together. -/
def ofPieces (pieces : List Comment.Piece) : LineParts :=
  { code := String.ofList (pieces.flatMap Comment.Piece.codePart)
    comment := String.ofList (pieces.flatMap Comment.Piece.commentPart) }

end LineParts

namespace Comment

/-- Split one line, and tell whether it ends inside a block. -/
def splitLine (style : CommentStyle) (inBlock : Bool) (line : String) : LineParts × Bool :=
  let (found, after) := pieces style inBlock line.toList
  (LineParts.ofPieces found, after)

/-- Split consecutive lines, the first of which starts inside or outside of a block. -/
def splitFrom (style : CommentStyle) : Bool → List String → List LineParts
  | _, [] => []
  | inBlock, line :: rest =>
    let (parts, after) := splitLine style inBlock line
    parts :: splitFrom style after rest

theorem length_splitFrom (style : CommentStyle) (inBlock : Bool) (lines : List String) :
    (splitFrom style inBlock lines).length = lines.length := by
  induction lines generalizing inBlock with
  | nil => rfl
  | cons line rest ih => rw [splitFrom, List.length_cons, List.length_cons, ih]

/-- Split the lines of a file. -/
def split (style : CommentStyle) (lines : List String) : List LineParts :=
  splitFrom style false lines

/-- Every line has its code and its comment. -/
theorem length_split (style : CommentStyle) (lines : List String) :
    (split style lines).length = lines.length :=
  length_splitFrom style false lines

end Comment
end QualityGate
