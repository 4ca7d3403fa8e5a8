import QualityGate.Json.Basic
import QualityGate.Json.Fault
import QualityGate.Word

/-!
# Reading JSON

A reader moves a cursor over the characters of a text.  A fault is noticed either at the cursor or
just behind the character under it, and the cursor keeps its position when a reader fails, so that
an enclosing reader can go on to the end of its brackets.
-/

namespace QualityGate

/-- A position in a text: the line, the bytes read in that line, what follows, and how many further
levels of nesting are allowed. -/
structure Cursor where
  line : Nat
  column : Nat
  rest : List Char
  depth : Nat

namespace Cursor

/-- The deepest nesting that is read. -/
def nestingLimit : Nat := 128

/-- The start of a text. -/
def start (text : String) : Cursor :=
  ⟨1, 0, text.toList, nestingLimit⟩

/-- The place of the cursor. -/
def place (cursor : Cursor) : Place :=
  ⟨cursor.line, cursor.column⟩

/-- The place behind the first byte of the character under the cursor. -/
def placeBehind (cursor : Cursor) : Place :=
  match cursor.rest with
  | [] => cursor.place
  | '\n' :: _ => ⟨cursor.line + 1, 0⟩
  | _ :: _ => ⟨cursor.line, cursor.column + 1⟩

/-- Step over one character. -/
def advance (cursor : Cursor) : Cursor :=
  match cursor.rest with
  | [] => cursor
  | '\n' :: rest => { cursor with line := cursor.line + 1, column := 0, rest := rest }
  | character :: rest =>
    { cursor with column := cursor.column + character.utf8Size, rest := rest }

/-- Step over a number of bytes; a character of which only a part is reached stays. -/
def advanceBytes : Nat → Cursor → Cursor
  | 0, cursor => cursor
  | count + 1, cursor =>
    match cursor.rest with
    | [] => cursor
    | character :: _ =>
      if character.utf8Size ≤ count + 1 then
        advanceBytes (count + 1 - character.utf8Size) cursor.advance
      else { cursor with column := cursor.column + (count + 1) }
termination_by count => count
decreasing_by
  have := Char.utf8Size_pos character
  omega

end Cursor

/-- A computation that moves the cursor and may fail; the position survives a failure. -/
abbrev Reader (α : Type) := ExceptT Fault (StateM Cursor) α

namespace Reader

variable {α : Type}

/-! ## Faults -/

/-- Fail at the cursor. -/
def failHere (cause : Cause) : Reader α := do
  throw ⟨cause, some (← get).place⟩

/-- Fail just behind the character under the cursor. -/
def failBehind (cause : Cause) : Reader α := do
  throw ⟨cause, some (← get).placeBehind⟩

/-- Fail without a place. -/
def failAnywhere (cause : Cause) : Reader α :=
  throw ⟨cause, none⟩

/-- Give a fault without a place the place of the cursor. -/
def placed (reader : Reader α) : Reader α :=
  tryCatch reader fun fault =>
    match fault.place? with
    | some _ => throw fault
    | none => failHere fault.cause

/-- Lift a decoded value; a fault gets the place of the cursor. -/
def ofExcept (result : Except Cause α) : Reader α :=
  match result with
  | .ok value => pure value
  | .error cause => failHere cause

/-! ## Characters -/

/-- The character under the cursor. -/
def peek? : Reader (Option Char) := do
  return (← get).rest.head?

/-- Step over one character. -/
def skip : Reader Unit :=
  modify Cursor.advance

/-- A character that may stand between tokens. -/
def isLayout (character : Char) : Bool :=
  character == ' ' || character == '\n' || character == '\t' || character == '\r'

/-- Step over the characters at the front that are accepted. -/
def skipFrom (accepts : Char → Bool) : List Char → Cursor → Cursor
  | [], cursor => cursor
  | character :: rest, cursor =>
    if accepts character then skipFrom accepts rest cursor.advance else cursor

/-- Step over accepted characters. -/
def skipWhile (accepts : Char → Bool) : Reader Unit :=
  modify fun cursor => skipFrom accepts cursor.rest cursor

/-- Step over layout and give the character after it. -/
def token? : Reader (Option Char) := do
  skipWhile isLayout
  peek?

/-- The rest of a word whose first letter was read. -/
def word : List Char → Reader Unit
  | [] => pure ()
  | expected :: rest => do
    match ← peek? with
    | none => failHere .endInValue
    | some character =>
      if character == expected then
        skip
        word rest
      else failBehind .expectedIdentifier

/-! ## Texts -/

/-- The value of four hexadecimal digits. -/
def hexEscapeValue? (characters : List Char) : Option Nat :=
  match characters with
  | [a, b, c, d] => do
    let a ← Text.hexValue? a
    let b ← Text.hexValue? b
    let c ← Text.hexValue? c
    let d ← Text.hexValue? d
    some (((a * 16 + b) * 16 + c) * 16 + d)
  | _ => none

/-- The characters are at least four bytes long. -/
def hasFourBytes (characters : List Char) : Bool :=
  4 ≤ (String.ofList (characters.take 4)).utf8ByteSize

/-- The four digits of an escape. -/
def hexEscape : Reader Nat := do
  let cursor ← get
  if hasFourBytes cursor.rest then
    let value? := hexEscapeValue? (cursor.rest.take 4)
    set (cursor.advanceBytes 4)
    match value? with
    | some value => pure value
    | none => failHere .invalidEscape
  else
    set (cursor.advanceBytes 4)
    failHere .endInText

/-- One expected character between the two halves of a surrogate pair. -/
def surrogateLink (expected : Char) : Reader Unit := do
  match ← peek? with
  | none => failHere .endInText
  | some character =>
    if character == expected then skip
    else
      modify (Cursor.advanceBytes 1)
      failHere .endOfHexEscape

/-- The character of an escape by number. -/
def unicodeEscape : Reader Char := do
  let first ← hexEscape
  if 0xDC00 ≤ first && first ≤ 0xDFFF then failHere .loneSurrogate
  else if first < 0xD800 || 0xDBFF < first then return Char.ofNat first
  else
    surrogateLink '\\'
    surrogateLink 'u'
    let second ← hexEscape
    if second < 0xDC00 || 0xDFFF < second then failHere .loneSurrogate
    else return Char.ofNat ((first - 0xD800) * 0x400 + (second - 0xDC00) + 0x10000)

/-- The character of an escape with one letter. -/
def simpleEscape? (letter : Char) : Option Char :=
  match letter with
  | '"' => some '"'
  | '\\' => some '\\'
  | '/' => some '/'
  | 'b' => some (Char.ofNat 8)
  | 'f' => some (Char.ofNat 12)
  | 'n' => some '\n'
  | 'r' => some '\r'
  | 't' => some '\t'
  | _ => none

/-- The letter behind a backslash. -/
def escapeLetter : Reader Char := do
  match ← peek? with
  | none => failHere .endInText
  | some letter =>
    if letter == 'u' || (simpleEscape? letter).isSome then
      skip
      return letter
    else
      modify (Cursor.advanceBytes 1)
      failHere .invalidEscape

/-- The character of an escape whose backslash was read. -/
def escape : Reader Char := do
  let letter ← escapeLetter
  match simpleEscape? letter with
  | some character => return character
  | none => unicodeEscape

/-- The characters of a text whose opening quote was read; the fuel bounds their number. -/
def textCharacters : Nat → List Char → Reader (List Char)
  | 0, _ => failHere .endInText
  | fuel + 1, reversed => do
    match ← peek? with
    | none => failHere .endInText
    | some character =>
      skip
      if character == '"' then return reversed.reverse
      else if character == '\\' then
        let escaped ← escape
        textCharacters fuel (escaped :: reversed)
      else if character.toNat < 32 then failHere .controlCharacter
      else textCharacters fuel (character :: reversed)

/-- A text whose opening quote was read. -/
def text : Reader String := do
  let characters ← textCharacters ((← get).rest.length + 1) []
  return String.ofList characters

/-- Step over a text whose opening quote was read; the fuel bounds its length. -/
def skipTextFrom : Nat → Reader Unit
  | 0 => failHere .endInText
  | fuel + 1 => do
    match ← peek? with
    | none => failHere .endInText
    | some character =>
      if character == '"' then skip
      else if character == '\\' then
        skip
        let letter ← escapeLetter
        if letter == 'u' then
          let _ ← hexEscape
        skipTextFrom fuel
      else if character.toNat < 32 then failHere .controlCharacter
      else
        skip
        skipTextFrom fuel

/-- Step over a text whose opening quote was read. -/
def skipText : Reader Unit := do
  skipTextFrom ((← get).rest.length + 1)

/-! ## Numbers -/

/-- The largest number of 64 bits. -/
def wordLimit : Nat := Word.bound 64 - 1

/-- The largest number of 31 bits, which bounds exponents. -/
def exponentLimit : Nat := Word.bound 31 - 1

/-- Scale a number by a power of ten, in steps that are powers of ten themselves.  The fuel bounds
the number of steps. -/
def scaleDown : Nat → Float → Nat → Float
  | 0, value, _ => value
  | fuel + 1, value, places =>
    if places ≤ 308 then value / Decimal.powerOfTen places
    else if value == 0.0 then value
    else scaleDown fuel (value / Decimal.powerOfTen 308) (places - 308)

/-- The number `significand * 10 ^ exponent` with a sign. -/
def scaled (positive : Bool) (significand : Nat) (exponent : Int) : Reader Float := do
  let value := Float.ofNat significand
  let sign (magnitude : Float) : Float := if positive then magnitude else -magnitude
  if exponent < 0 then return sign (scaleDown (exponent.natAbs / 308 + 1) value exponent.natAbs)
  else if exponent ≤ 308 then
    let result := value * Decimal.powerOfTen exponent.natAbs
    if result.isInf then failHere .numberOutOfRange else return sign result
  else if value == 0.0 then return sign value
  else failHere .numberOutOfRange

/-- The digits at the front, taken as long as a number stays within a limit. -/
def digitsWithin (limit : Nat) : List Char → Nat → Nat → Nat × Nat
  | [], value, count => (value, count)
  | character :: rest, value, count =>
    if character.isDigit then
      let longer := value * 10 + (character.toNat - '0'.toNat)
      if limit < longer then (value, count) else digitsWithin limit rest longer (count + 1)
    else (value, count)

/-- Step over a number of characters. -/
def skipCount : Nat → Reader Unit
  | 0 => pure ()
  | count + 1 => do
    skip
    skipCount count

/-- The exponent of a number, from its mark on. -/
def exponentPart (positive : Bool) (significand : Nat) (exponent : Int) : Reader Float := do
  skip
  let upward ← do
    match ← peek? with
    | some '+' => do skip; pure true
    | some '-' => do skip; pure false
    | _ => pure true
  match ← peek? with
  | none => failHere .endInValue
  | some digit =>
    if !digit.isDigit then failBehind .invalidNumber
    else
      skip
      let first := digit.toNat - '0'.toNat
      let (power, count) := digitsWithin exponentLimit (← get).rest first 0
      skipCount count
      match ← peek? with
      | some further =>
        if further.isDigit then
          skip
          if significand != 0 && upward then failHere .numberOutOfRange
          else
            skipWhile Char.isDigit
            return if positive then 0.0 else -0.0
        else scaled positive significand (if upward then exponent + power else exponent - power)
      | none => scaled positive significand (if upward then exponent + power else exponent - power)

/-- What follows the digits of a number: an exponent or nothing. -/
def exponentOrEnd (positive : Bool) (significand : Nat) (exponent : Int) : Reader Float := do
  match ← peek? with
  | some 'e' => exponentPart positive significand exponent
  | some 'E' => exponentPart positive significand exponent
  | _ => scaled positive significand exponent

/-- The fraction of a number, from its point on. -/
def fractionPart (positive : Bool) (significand : Nat) (exponent : Int) : Reader Float := do
  skip
  let (longer, count) := digitsWithin wordLimit (← get).rest significand 0
  skipCount count
  match ← peek? with
  | some character =>
    if character.isDigit then
      skipWhile Char.isDigit
      exponentOrEnd positive longer (exponent - count)
    else if count == 0 then failBehind .invalidNumber
    else exponentOrEnd positive longer (exponent - count)
  | none =>
    if count == 0 then failBehind .endInValue
    else exponentOrEnd positive longer (exponent - count)

/-- An integer that was read to its end. -/
def wholeNumber (positive : Bool) (significand : Nat) : JsonNumber :=
  if positive then .natural significand
  else if significand == 0 || Word.bound 63 < significand then .float (-(Float.ofNat significand))
  else .negative significand

/-- What follows the digits of an integer that fits into 64 bits. -/
def afterInteger (positive : Bool) (significand : Nat) : Reader JsonNumber := do
  match ← peek? with
  | some '.' => return .float (← fractionPart positive significand 0)
  | some 'e' => return .float (← exponentPart positive significand 0)
  | some 'E' => return .float (← exponentPart positive significand 0)
  | _ => return wholeNumber positive significand

/-- The rest of an integer that does not fit into 64 bits: its further digits only count. -/
def longInteger (positive : Bool) (significand : Nat) : Reader JsonNumber := do
  let further := ((← get).rest.takeWhile Char.isDigit).length
  skipCount further
  match ← peek? with
  | some '.' => return .float (← fractionPart positive significand further)
  | _ => return .float (← exponentOrEnd positive significand further)

/-- A number whose sign was read. -/
def number (positive : Bool) : Reader JsonNumber := do
  match ← peek? with
  | none => failHere .endInValue
  | some digit =>
    if digit == '0' then
      skip
      match ← peek? with
      | some further =>
        if further.isDigit then failBehind .invalidNumber else afterInteger positive 0
      | none => afterInteger positive 0
    else if digit.isDigit then
      skip
      let (significand, count) :=
        digitsWithin wordLimit (← get).rest (digit.toNat - '0'.toNat) 0
      skipCount count
      match ← peek? with
      | some further =>
        if further.isDigit then longInteger positive significand
        else afterInteger positive significand
      | none => afterInteger positive significand
    else failBehind .invalidNumber

/-- Step over an exponent, from its mark on. -/
def skipExponent : Reader Unit := do
  skip
  match ← peek? with
  | some '+' => skip
  | some '-' => skip
  | _ => pure ()
  match ← peek? with
  | some digit => if digit.isDigit then skipWhile Char.isDigit else failBehind .invalidNumber
  | none => failHere .invalidNumber

/-- Step over an exponent if there is one. -/
def skipExponentOrEnd : Reader Unit := do
  match ← peek? with
  | some 'e' => skipExponent
  | some 'E' => skipExponent
  | _ => pure ()

/-- Step over a number whose sign was read. -/
def skipNumber : Reader Unit := do
  match ← peek? with
  | none => failHere .invalidNumber
  | some digit =>
    if digit == '0' then
      skip
      match ← peek? with
      | some further => if further.isDigit then failBehind .invalidNumber
      | none => pure ()
    else if digit.isDigit then skipWhile Char.isDigit
    else failBehind .invalidNumber
    match ← peek? with
    | some '.' =>
      skip
      match ← peek? with
      | some further => if !further.isDigit then failBehind .invalidNumber
      | none => failBehind .invalidNumber
      skipWhile Char.isDigit
      skipExponentOrEnd
    | _ => skipExponentOrEnd

/-! ## Brackets -/

/-- Read one level deeper. -/
def nested (reader : Reader α) : Reader α := do
  let depth := (← get).depth
  if depth ≤ 1 then failBehind .tooDeep
  else
    modify fun cursor => { cursor with depth := depth - 1 }
    skip
    tryCatch
      (do
        let value ← reader
        modify fun cursor => { cursor with depth := depth }
        return value)
      (fun fault => do
        modify fun cursor => { cursor with depth := depth }
        throw fault)

/-- Another item follows in a list; `first` says that none was read yet. -/
def moreItems (first : Bool) : Reader Bool := do
  match ← token? with
  | none => failBehind .endInList
  | some ']' => return false
  | some character =>
    if first then return true
    else if character == ',' then
      skip
      match ← token? with
      | some ']' => failBehind .trailingComma
      | some _ => return true
      | none => failBehind .endInValue
    else failBehind .expectedCommaOrBracket

/-- Another member follows in an object; `first` says that none was read yet. -/
def moreMembers (first : Bool) : Reader Bool := do
  match ← token? with
  | none => failBehind .endInObject
  | some '\x7d' => return false
  | some character =>
    if first then
      if character == '"' then return true else failBehind .keyNotText
    else if character == ',' then
      skip
      match ← token? with
      | some '"' => return true
      | some '\x7d' => failBehind .trailingComma
      | some _ => failBehind .keyNotText
      | none => failBehind .endInValue
    else failBehind .expectedCommaOrBrace

/-- The closing bracket of a list. -/
def closeList : Reader Unit := do
  match ← token? with
  | some ']' => skip
  | some ',' =>
    skip
    match ← token? with
    | some ']' => failBehind .trailingComma
    | _ => failBehind .trailingCharacters
  | some _ => failBehind .trailingCharacters
  | none => failBehind .endInList

/-- The closing brace of an object. -/
def closeObject : Reader Unit := do
  match ← token? with
  | some '\x7d' => skip
  | some ',' => failBehind .trailingComma
  | some _ => failBehind .trailingCharacters
  | none => failBehind .endInObject

/-- Read what stands between brackets and then the closing bracket.  The closing bracket is looked
for even if the content is faulty, and the fault of the content wins. -/
def enclosed (content : Reader α) (close : Reader Unit) : Reader α := do
  let result ← tryCatch (Except.ok <$> nested content) fun fault => pure (.error fault)
  match result with
  | .ok value => do
    close
    return value
  | .error fault => do
    tryCatch close fun _ => pure ()
    throw fault

/-- A key whose opening quote is under the cursor. -/
def key : Reader String := do
  skip
  text

/-- The colon between a key and its value. -/
def colon : Reader Unit := do
  match ← token? with
  | some ':' => skip
  | some _ => failBehind .expectedColon
  | none => failBehind .endInObject

/-- The items of a list up to its closing bracket; the fuel bounds their number. -/
def items (item : Reader α) : Nat → Bool → List α → Reader (List α)
  | 0, _, _ => failBehind .endInList
  | fuel + 1, first, reversed => do
    if ← moreItems first then
      let value ← item
      items item fuel false (value :: reversed)
    else return reversed.reverse

/-- The members of an object up to its closing brace, folded into a state by a reader that is given
the key and stands before the colon; the fuel bounds their number. -/
def members {σ : Type} (step : String → σ → Reader σ) : Nat → Bool → σ → Reader σ
  | 0, _, _ => failBehind .endInObject
  | fuel + 1, first, state => do
    if ← moreMembers first then
      let name ← key
      let state ← step name state
      members step fuel false state
    else return state

/-- All items of a list whose opening bracket is under the cursor. -/
def list (item : Reader α) : Reader (List α) := do
  enclosed (do items item ((← get).rest.length + 1) true []) closeList

/-! ## Documents -/

/-- A scalar that starts with the given character, or nothing if it starts none. -/
def scalar? (character : Char) : Reader (Option Json) := do
  if character == 'n' then
    skip
    word ['u', 'l', 'l']
    return some .null
  else if character == 't' then
    skip
    word ['r', 'u', 'e']
    return some (.boolean true)
  else if character == 'f' then
    skip
    word ['a', 'l', 's', 'e']
    return some (.boolean false)
  else if character == '-' then
    skip
    return some (.number (← number false))
  else if character.isDigit then return some (.number (← number true))
  else if character == '"' then
    skip
    return some (.text (← text))
  else return none

/-- A document with at most `level` levels of brackets. -/
def document : Nat → Reader Json
  | 0 => failBehind .tooDeep
  | level + 1 => do
    match ← token? with
    | none => failBehind .endInValue
    | some '[' => return .array (← list (document level))
    | some '\x7b' =>
      let step (name : String) (found : Dictionary Json) : Reader (Dictionary Json) := do
        colon
        let value ← document level
        return found.insert name value
      return .object
        (← enclosed (do members step ((← get).rest.length + 1) true []) closeObject)
    | some character =>
      match ← scalar? character with
      | some value => return value
      | none => failBehind .expectedValue

/-- Nothing but layout follows. -/
def finish : Reader Unit := do
  match ← token? with
  | some _ => failBehind .trailingCharacters
  | none => pure ()

/-- Read a whole text. -/
def run (reader : Reader α) (text : String) : Except Fault α :=
  let whole : Reader α := do
    let value ← reader
    finish
    return value
  (ExceptT.run whole (Cursor.start text)).1

/-! ## Skipping -/

/-- An open bracket of a value that is skipped. -/
inductive Bracket where
  | list
  | object
deriving Repr, DecidableEq

/-- The key and the colon in front of a skipped member; a list has none. -/
def skipKey : Bracket → Reader Unit
  | .list => pure ()
  | .object => do
    match ← token? with
    | some '"' => skip
    | some _ => failBehind .keyNotText
    | none => failBehind .endInObject
    skipText
    colon

/-- Skip values until every open bracket is closed.  `expected` asks for a value next; otherwise
`comma` tells whether a comma may follow.  The fuel bounds the number of steps. -/
def skipOpen : Nat → List Bracket → Bool → Bool → Reader Unit
  | 0, _, _, _ => failBehind .endInValue
  | fuel + 1, opened, true, _ => do
    match ← token? with
    | none => failBehind .endInValue
    | some '[' =>
      skip
      skipOpen fuel (.list :: opened) false false
    | some '\x7b' =>
      skip
      skipOpen fuel (.object :: opened) false false
    | some character =>
      if character == '-' then
        skip
        skipNumber
      else if character.isDigit then skipNumber
      else if character == '"' then
        skip
        skipText
      else
        match ← scalar? character with
        | some _ => pure ()
        | none => failBehind .expectedValue
      skipOpen fuel opened false true
  | _ + 1, [], false, _ => pure ()
  | fuel + 1, bracket :: opened, false, comma => do
    let closing := if bracket = .list then ']' else '\x7d'
    match ← token? with
    | none => failBehind (if bracket = .list then .endInList else .endInObject)
    | some character =>
      if character == closing then
        skip
        skipOpen fuel opened false true
      else if comma then
        if character == ',' then
          skip
          skipKey bracket
          skipOpen fuel (bracket :: opened) true false
        else
          failBehind (if bracket = .list then .expectedCommaOrBracket else .expectedCommaOrBrace)
      else
        skipKey bracket
        skipOpen fuel (bracket :: opened) true false

/-- Skip one value of any kind and any depth. -/
def skipValue : Reader Unit := do
  skipOpen (3 * (← get).rest.length + 3) [] true false

end Reader

namespace Json

/-- Read a JSON text. -/
def parse (text : String) : Except Fault Json :=
  Reader.run (Reader.document Cursor.nestingLimit) text

end Json
end QualityGate
