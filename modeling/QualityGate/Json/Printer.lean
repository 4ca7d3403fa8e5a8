import QualityGate.Decimal
import QualityGate.Json.Basic
import QualityGate.Text.Basic

/-!
# JSON in writing

Two layouts of the same tokens: the compact one has no blanks, the indented one puts every item and
member on a line of its own, two spaces deeper than what encloses it.  Members are written in the
order in which they are given.
-/

namespace QualityGate
namespace Json

/-- The characters that stand for one character of a text. -/
def escapedCharacter (character : Char) : List Char :=
  match character with
  | '"' => ['\\', '"']
  | '\\' => ['\\', '\\']
  | '\n' => ['\\', 'n']
  | '\r' => ['\\', 'r']
  | '\t' => ['\\', 't']
  | other =>
    if other.toNat == 8 then ['\\', 'b']
    else if other.toNat == 12 then ['\\', 'f']
    else if other.toNat < 32 then ['\\', 'u'] ++ Text.hexDigits 4 other.toNat
    else [other]

/-- A text between quotes. -/
def quotedText (text : String) : List Char :=
  '"' :: text.toList.flatMap escapedCharacter ++ ['"']

/-- A number in writing; what is not finite has no number and is written `null`. -/
def numberText : JsonNumber → List Char
  | .natural value => Nat.toDigits 10 value
  | .negative magnitude => '-' :: Nat.toDigits 10 magnitude
  | .float value =>
    if value.isFinite then (Decimal.render value).toList else ['n', 'u', 'l', 'l']

/-- Put a separator between consecutive pieces. -/
def separated (separator : List Char) : List (List Char) → List Char
  | [] => []
  | [piece] => piece
  | piece :: rest => piece ++ separator ++ separated separator rest

mutual

/-- A document without blanks. -/
def compactCharacters : Json → List Char
  | .null => ['n', 'u', 'l', 'l']
  | .boolean value => if value then ['t', 'r', 'u', 'e'] else ['f', 'a', 'l', 's', 'e']
  | .number value => numberText value
  | .text value => quotedText value
  | .array items => '[' :: separated [','] (compactItems items) ++ [']']
  | .object members => '\x7b' :: separated [','] (compactMembers members) ++ ['\x7d']

/-- Each item without blanks. -/
def compactItems : List Json → List (List Char)
  | [] => []
  | item :: rest => compactCharacters item :: compactItems rest

/-- Each member without blanks. -/
def compactMembers : List (String × Json) → List (List Char)
  | [] => []
  | (key, value) :: rest =>
    (quotedText key ++ ':' :: compactCharacters value) :: compactMembers rest

end

/-- A line break followed by the blanks of a level. -/
def lineBreak (level : Nat) : List Char :=
  '\n' :: List.replicate (2 * level) ' '

/-- Pieces on lines of their own between two brackets; nothing is written between the brackets if
there is no piece. -/
def bracketed (opening closing : Char) (level : Nat) (pieces : List (List Char)) : List Char :=
  if pieces.isEmpty then [opening, closing]
  else
    opening :: lineBreak (level + 1) ++ separated (',' :: lineBreak (level + 1)) pieces ++
      lineBreak level ++ [closing]

mutual

/-- A document with one item or member a line. -/
def indentedCharacters (level : Nat) : Json → List Char
  | .null => ['n', 'u', 'l', 'l']
  | .boolean value => if value then ['t', 'r', 'u', 'e'] else ['f', 'a', 'l', 's', 'e']
  | .number value => numberText value
  | .text value => quotedText value
  | .array items => bracketed '[' ']' level (indentedItems (level + 1) items)
  | .object members => bracketed '\x7b' '\x7d' level (indentedMembers (level + 1) members)

/-- Each item of an indented array. -/
def indentedItems (level : Nat) : List Json → List (List Char)
  | [] => []
  | item :: rest => indentedCharacters level item :: indentedItems level rest

/-- Each member of an indented object. -/
def indentedMembers (level : Nat) : List (String × Json) → List (List Char)
  | [] => []
  | (key, value) :: rest =>
    (quotedText key ++ [':', ' '] ++ indentedCharacters level value) :: indentedMembers level rest

end

/-- A document without blanks. -/
def compact (document : Json) : String :=
  String.ofList (compactCharacters document)

/-- A document with one item or member a line. -/
def indented (document : Json) : String :=
  String.ofList (indentedCharacters 0 document)

end Json
end QualityGate
