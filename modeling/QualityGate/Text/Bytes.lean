/-!
# Bytes as text

Bytes are a text or they are none.  They can be read as text even if they are none: then every
maximal piece that cannot be the start of a character is replaced by the replacement character.
-/

namespace QualityGate
namespace Text

/-- The text that bytes are, if they are one. -/
def decode? (bytes : List UInt8) : Option String :=
  String.fromUTF8? ⟨bytes.toArray⟩

/-- The lines of bytes up to the first line that is no text, each with a line feed. -/
def leadingLines (bytes : List UInt8) : String :=
  let lines := (bytes.splitOnP (· == 10)).map decode?
  String.join (((lines.takeWhile Option.isSome).filterMap id).map (· ++ "\n"))

/-- The replacement character. -/
def replacement : Char := '\ufffd'

/-- The byte continues a character. -/
def continues (byte : UInt8) : Bool :=
  0x80 ≤ byte && byte ≤ 0xBF

/-- The second byte of a character of three or four bytes is restricted by the first one. -/
def continuesAfter (first byte : UInt8) : Bool :=
  if first == 0xE0 then 0xA0 ≤ byte && byte ≤ 0xBF
  else if first == 0xED then 0x80 ≤ byte && byte ≤ 0x9F
  else if first == 0xF0 then 0x90 ≤ byte && byte ≤ 0xBF
  else if first == 0xF4 then 0x80 ≤ byte && byte ≤ 0x8F
  else continues byte

/-- The number of bytes of a character that begins with a byte; zero if none does. -/
def widthOf (byte : UInt8) : Nat :=
  if byte < 0x80 then 1
  else if 0xC2 ≤ byte && byte ≤ 0xDF then 2
  else if 0xE0 ≤ byte && byte ≤ 0xEF then 3
  else if 0xF0 ≤ byte && byte ≤ 0xF4 then 4
  else 0

/-- The number of bytes behind the first one that fit to it. -/
def fittingBytes (first : UInt8) (rest : List UInt8) : Nat :=
  match rest with
  | [] => 0
  | second :: others =>
    if continuesAfter first second then
      1 + ((others.take (widthOf first - 2)).takeWhile continues).length
    else 0

/-- The value of a character from its bytes. -/
def codeOf (first : UInt8) (rest : List UInt8) : Nat :=
  let lead := match rest.length with
    | 1 => first.toNat % 32
    | 2 => first.toNat % 16
    | _ => first.toNat % 8
  rest.foldl (fun code byte => code * 64 + byte.toNat % 64) lead

/-- Read bytes as characters; the fuel bounds their number. -/
def charactersOf : Nat → List UInt8 → List Char
  | 0, _ => []
  | _ + 1, [] => []
  | fuel + 1, first :: rest =>
    let width := widthOf first
    if width == 1 then Char.ofNat first.toNat :: charactersOf fuel rest
    else if width == 0 then replacement :: charactersOf fuel rest
    else
      let fitting := fittingBytes first rest
      if fitting + 1 == width then
        Char.ofNat (codeOf first (rest.take fitting)) :: charactersOf fuel (rest.drop fitting)
      else replacement :: charactersOf fuel (rest.drop fitting)

/-- Read bytes as text. -/
def ofBytes (bytes : List UInt8) : String :=
  String.ofList (charactersOf bytes.length bytes)

end Text
end QualityGate
