import QualityGate.Text.Table

/-!
# Classes of characters and lowercase

The classes are those of the Unicode character database.  Characters of the basic block are decided
directly; the tables hold the rest.
-/

namespace QualityGate
namespace Text

/-- A class that is decided directly below code point 128 and by a table from there on. -/
def inClass (basic : Char → Bool) (table : CodePoints) (character : Char) : Bool :=
  if character.toNat < 128 then basic character else table.contains character.toNat

/-- A letter or a number of any script. -/
def isAlphanumeric (character : Char) : Bool :=
  inClass Char.isAlphanum Table.alphanumeric character

/-- An uppercase character of any script. -/
def isUppercase (character : Char) : Bool :=
  inClass Char.isUpper Table.uppercase character

/-- A lowercase character of any script. -/
def isLowercase (character : Char) : Bool :=
  inClass Char.isLower Table.lowercase character

/-- A decimal digit of any script. -/
def isDigit (character : Char) : Bool :=
  inClass Char.isDigit Table.digit character

/-- A character that words are made of: letters, marks, decimal digits and connectors. -/
def isWordPart (character : Char) : Bool :=
  inClass (fun basic => basic.isAlphanum || basic == '_') Table.wordPart character

/-! ## Lowercase -/

/-- A character that has a case. -/
def isCased (character : Char) : Bool :=
  inClass Char.isAlpha Table.cased character

/-- A character that is skipped when looking for the neighbours of a cased character. -/
def isCaseIgnorable (character : Char) : Bool :=
  inClass (fun basic => ['\'', '.', ':', '^', '`'].contains basic) Table.caseIgnorable character

/-- The lowercase characters of one character, without regard to its neighbours. -/
def lowerCharacter (character : Char) : List Char :=
  if character.toNat < 128 then [character.toLower]
  else if character == '\u0130' then ['i', '\u0307']
  else [Char.ofNat (Table.toLowercase.apply character.toNat)]

/-- After the ignorable characters comes a cased one. -/
def meetsCased (characters : List Char) : Bool :=
  match characters.dropWhile isCaseIgnorable with
  | character :: _ => isCased character
  | [] => false

/-- Lowercase every character.  A capital sigma at the end of a word becomes the final form; the
characters already passed are given from the last to the first. -/
def lowerFrom (passed : List Char) : List Char → List Char
  | [] => []
  | character :: following =>
    (if character == 'Σ' then
      [if meetsCased passed && !meetsCased following then 'ς' else 'σ']
    else lowerCharacter character) ++ lowerFrom (character :: passed) following

/-- The lowercase form of a text. -/
def lower (text : String) : String :=
  onCharacters (lowerFrom []) text

end Text
end QualityGate
