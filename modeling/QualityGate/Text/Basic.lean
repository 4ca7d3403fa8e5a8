/-!
# Text as lines, words and parts

A text is a `String`; its operations are defined on the list of its characters, where their laws
are stated, and lifted to strings under the same idea.  Blanks are the characters with the Unicode
property `White_Space`.
-/

namespace QualityGate
namespace Text

/-! ## Blanks -/

/-- A character with the Unicode property `White_Space`. -/
def isBlank (character : Char) : Bool :=
  let code := character.toNat
  (9 ≤ code && code ≤ 13) || code == 0x20 || code == 0x85 || code == 0xA0 || code == 0x1680 ||
    (0x2000 ≤ code && code ≤ 0x200A) || code == 0x2028 || code == 0x2029 || code == 0x202F ||
    code == 0x205F || code == 0x3000

/-- Remove the longest run of accepted characters at the front. -/
def dropStart (accepts : Char → Bool) (characters : List Char) : List Char :=
  characters.dropWhile accepts

/-- Remove the longest run of accepted characters at the back. -/
def dropEnd (accepts : Char → Bool) (characters : List Char) : List Char :=
  (characters.reverse.dropWhile accepts).reverse

/-- Remove the blanks at both ends. -/
def strip (characters : List Char) : List Char :=
  dropEnd isBlank (dropStart isBlank characters)

/-- Apply an operation on characters to a string. -/
def onCharacters (operation : List Char → List Char) (text : String) : String :=
  String.ofList (operation text.toList)

/-- Remove the blanks at both ends of a text. -/
def trim (text : String) : String :=
  onCharacters strip text

/-- Remove the blanks at the front of a text. -/
def trimStart (text : String) : String :=
  onCharacters (dropStart isBlank) text

/-- Remove the blanks at the back of a text. -/
def trimEnd (text : String) : String :=
  onCharacters (dropEnd isBlank) text

/-- A text without any character that is not a blank. -/
def isBlankText (text : String) : Bool :=
  text.toList.all isBlank

/-! ## Splitting -/

/-- The pieces between the accepted characters; `n` accepted characters give `n + 1` pieces. -/
def splitWhere (accepts : Char → Bool) (text : String) : List String :=
  (text.toList.splitOnP accepts).map String.ofList

/-- The maximal blank-free pieces of a list of characters. -/
def wordsOf (characters : List Char) : List (List Char) :=
  (characters.splitOnP isBlank).filter fun piece => !piece.isEmpty

/-- The maximal blank-free pieces of a text. -/
def words (text : String) : List String :=
  (wordsOf text.toList).map String.ofList

/-- Remove one carriage return at the back. -/
def dropReturn (characters : List Char) : List Char :=
  if characters.getLast? == some '\r' then characters.dropLast else characters

/-- The lines of a list of characters.  A line feed ends a line and takes a carriage return before
it along; what follows the last line feed is a line unless it is empty. -/
def linesOf (characters : List Char) : List (List Char) :=
  let pieces := characters.splitOnP (· == '\n')
  let ended := pieces.dropLast.map dropReturn
  match pieces.getLast? with
  | some (character :: rest) => ended ++ [character :: rest]
  | _ => ended

/-- The lines of a text. -/
def lines (text : String) : List String :=
  (linesOf text.toList).map String.ofList

/-- The number of lines of a text. -/
def lineCount (text : String) : Nat :=
  (lines text).length

/-! ## Searching -/

/-- The characters before and after the first occurrence of a needle. -/
def splitAt? (needle : List Char) : List Char → Option (List Char × List Char)
  | [] => (needle.isPrefixOf? []).map fun rest => ([], rest)
  | character :: following =>
    match needle.isPrefixOf? (character :: following) with
    | some rest => some ([], rest)
    | none => (splitAt? needle following).map fun parts => (character :: parts.1, parts.2)

/-- What follows the start of a text stands behind that start. -/
theorem eq_append_of_isPrefixOf? {start characters rest : List Char}
    (found : start.isPrefixOf? characters = some rest) : characters = start ++ rest := by
  induction start generalizing characters with
  | nil => exact Option.some.inj found
  | cons character following ih =>
    cases characters with
    | nil => exact absurd found.symm (Option.some_ne_none rest)
    | cons first others =>
      change (if character == first then following.isPrefixOf? others else none) = some rest at found
      simp only [beq_iff_eq, Option.ite_none_right_eq_some] at found
      rw [found.1, ih found.2, List.cons_append]

/-- A split text is the part before the needle, the needle, and the part after it. -/
theorem eq_append_of_splitAt? {needle characters before after : List Char}
    (found : splitAt? needle characters = some (before, after)) :
    characters = before ++ needle ++ after := by
  fun_induction splitAt? needle characters generalizing before with
  | case1 =>
    obtain ⟨rest, atFront, equal⟩ := Option.map_eq_some_iff.1 found
    cases equal
    simpa using eq_append_of_isPrefixOf? atFront
  | case2 character following rest atFront =>
    cases found
    simpa using eq_append_of_isPrefixOf? atFront
  | case3 character following notAtFront ih =>
    obtain ⟨parts, further, equal⟩ := Option.map_eq_some_iff.1 found
    cases equal
    rw [ih further]
    simp

/-- The needle occurs in the text. -/
def contains (text needle : String) : Bool :=
  (splitAt? needle.toList text.toList).isSome

/-- What follows a given start of a text. -/
def dropPrefix? (start text : String) : Option String :=
  (start.toList.isPrefixOf? text.toList).map String.ofList

/-- The text begins with the given one. -/
def startsWith (text start : String) : Bool :=
  start.toList.isPrefixOf text.toList

/-- The text ends with the given one. -/
def endsWith (text ending : String) : Bool :=
  ending.toList.isSuffixOf text.toList

/-- Remove every repetition of an ending at the back; the fuel bounds the number of removals. -/
def dropEndings (ending : List Char) : Nat → List Char → List Char
  | 0, characters => characters
  | fuel + 1, characters =>
    if !ending.isEmpty && ending.isSuffixOf characters then
      dropEndings ending fuel (characters.take (characters.length - ending.length))
    else characters

/-- Replace one character by another. -/
def replace (old new : Char) (text : String) : String :=
  onCharacters (fun characters =>
    characters.map fun character => if character == old then new else character) text

/-- At most `limit` characters, followed by three dots when something was cut. -/
def truncate (limit : Nat) (text : String) : String :=
  if text.length ≤ limit then text
  else String.ofList (text.toList.take limit) ++ "..."

/-- Pad a text with spaces to a least width. -/
def padEnd (width : Nat) (text : String) : String :=
  text ++ String.ofList (List.replicate (width - text.length) ' ')

/-! ## Letters of the basic alphabet -/

/-- Equality of texts up to the case of the letters `A` to `Z`. -/
def equalIgnoringCase (first second : String) : Bool :=
  first.toList.map Char.toLower == second.toList.map Char.toLower

/-- The value of a hexadecimal digit. -/
def hexValue? (character : Char) : Option Nat :=
  if '0' ≤ character && character ≤ '9' then some (character.toNat - '0'.toNat)
  else if 'a' ≤ character && character ≤ 'f' then some (character.toNat - 'a'.toNat + 10)
  else if 'A' ≤ character && character ≤ 'F' then some (character.toNat - 'A'.toNat + 10)
  else none

/-- The lowercase hexadecimal digit of a value below sixteen. -/
def hexDigit (value : Nat) : Char :=
  if value < 10 then Char.ofNat ('0'.toNat + value) else Char.ofNat ('a'.toNat + (value - 10))

/-- The lowest `width` hexadecimal digits of a number. -/
def hexDigits : Nat → Nat → List Char
  | 0, _ => []
  | width + 1, value => hexDigits width (value / 16) ++ [hexDigit (value % 16)]

/-- A number in hexadecimal with exactly `width` digits. -/
def hex (width value : Nat) : String :=
  String.ofList (hexDigits width value)

/-- A number in decimal. -/
def decimal (value : Nat) : String :=
  String.ofList (Nat.toDigits 10 value)

/-- The value of decimal digits. -/
def decimalValue (digits : List Char) : Nat :=
  digits.foldl (fun value digit => value * 10 + (digit.toNat - '0'.toNat)) 0

/-- A number in decimal with zeros in front up to a least width. -/
def paddedDecimal (width value : Nat) : String :=
  let digits := Nat.toDigits 10 value
  String.ofList (List.replicate (width - digits.length) '0' ++ digits)

end Text
end QualityGate
