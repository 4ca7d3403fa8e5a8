import QualityGate.Text.Letter

/-!
# Quoted text

A text in double quotes in which every character can be seen: quotes and backslashes are escaped,
the usual control characters have their short escapes, and what has no glyph of its own is written
by its code point.
-/

namespace QualityGate
namespace Text

/-- A character that would not show, or would merge with the one before it. -/
def isInvisible (character : Char) : Bool :=
  inClass (fun basic => basic.toNat < 32 || basic.toNat == 127) Table.unprintable character ||
    (128 ≤ character.toNat && Table.graphemeExtend.contains character.toNat)

/-- The hexadecimal digits of a number, without leading zeros. -/
def shortHex (value : Nat) : List Char :=
  Nat.toDigits 16 value

/-- The characters that stand for one character between quotes. -/
def quotedCharacter (character : Char) : List Char :=
  match character with
  | '\t' => ['\\', 't']
  | '\r' => ['\\', 'r']
  | '\n' => ['\\', 'n']
  | '"' => ['\\', '"']
  | '\\' => ['\\', '\\']
  | other =>
    if other.toNat == 0 then ['\\', '0']
    else if isInvisible other then
      ['\\', 'u', '\x7b'] ++ shortHex other.toNat ++ ['\x7d']
    else [other]

/-- A text between double quotes, with escapes. -/
def quoted (text : String) : String :=
  String.ofList ('"' :: text.toList.flatMap quotedCharacter ++ ['"'])

end Text
end QualityGate
