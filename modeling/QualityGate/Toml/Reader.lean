import QualityGate.Toml.Draft
import QualityGate.Toml.Scalar

/-!
# Reading settings documents

A document is a sequence of lines: headers, and keys with values.  Arrays and inline tables may go
over several lines.  A document that is not well formed has no value.
-/

namespace QualityGate
namespace Toml

/-- A computation that takes characters from the front of a text and may fail. -/
abbrev Scan (α : Type) := StateT (List Char) Option α

namespace Scan

variable {α : Type}

/-- The next character. -/
def peek? : Scan (Option Char) := do
  return (← get).head?

/-- Step over a number of characters. -/
def drop (count : Nat) : Scan Unit :=
  modify (List.drop count)

/-- What follows begins with these characters. -/
def follows (expected : List Char) : Scan Bool := do
  return expected.isPrefixOf (← get)

/-- Step over these characters, if they follow. -/
def skipped (expected : List Char) : Scan Bool := do
  if ← follows expected then
    drop expected.length
    return true
  else return false

/-- Step over these characters, which have to follow. -/
def expect (expected : List Char) : Scan Unit := do
  if !(← skipped expected) then failure

/-! ## Layout -/

/-- A blank or a tab. -/
def isBlank (character : Char) : Bool :=
  character == ' ' || character == '\t'

/-- A character that may stand for itself in comments and texts. -/
def isPrintable (character : Char) : Bool :=
  character == '\t' || (0x20 ≤ character.toNat && character.toNat != 0x7F)

/-- Step over blanks. -/
def blanks : Scan Unit :=
  modify (List.dropWhile isBlank)

/-- Step over the end of a line, if it follows. -/
def newline : Scan Bool := do
  if ← skipped ['\n'] then return true else skipped ['\r', '\n']

/-- Step over a comment, if it follows. -/
def comment : Scan Unit := do
  let rest ← get
  if rest.head? == some '#' then
    let body := rest.takeWhile (· != '\n')
    let rest := rest.dropWhile (· != '\n')
    let ended := body.getLast? == some '\r' && !rest.isEmpty
    let shown := if ended then body.dropLast else body
    if shown.all isPrintable then set (if ended then '\r' :: rest else rest) else failure

/-- Step over the rest of a line, on which nothing but a comment may follow. -/
def lineEnd : Scan Unit := do
  blanks
  comment
  if !(← newline) && !(← get).isEmpty then failure

/-- Step over blanks, comments and ends of lines; the fuel bounds the number of lines. -/
def layoutFrom : Nat → Scan Unit
  | 0 => failure
  | fuel + 1 => do
    blanks
    comment
    if ← newline then layoutFrom fuel

/-- Step over blanks, comments and ends of lines. -/
def layout : Scan Unit := do
  layoutFrom ((← get).length + 1)

/-! ## Texts -/

/-- The character with a number in a given number of hexadecimal digits. -/
def numbered (width : Nat) : Scan Char := do
  let digits := (← get).take width
  if digits.length == width && digits.all (fun digit => (Text.hexValue? digit).isSome) then
    drop width
    let value := valueIn 16 digits
    if value.isValidChar then return Char.ofNat value else failure
  else failure

/-- The character of an escape whose backslash was read. -/
def escape : Scan Char := do
  let letter? ← peek?
  drop 1
  match letter? with
  | some '"' => return '"'
  | some '\\' => return '\\'
  | some 'b' => return Char.ofNat 8
  | some 't' => return '\t'
  | some 'n' => return '\n'
  | some 'f' => return Char.ofNat 12
  | some 'r' => return '\r'
  | some 'e' => return Char.ofNat 27
  | some 'x' => numbered 2
  | some 'u' => numbered 4
  | some 'U' => numbered 8
  | _ => failure

/-- The characters up to the closing quote on one line; the fuel bounds their number. -/
def lineText (quote : Char) (escapes : Bool) : Nat → List Char → Scan (List Char)
  | 0, _ => failure
  | fuel + 1, reversed => do
    match ← peek? with
    | none => failure
    | some character =>
      drop 1
      if character == quote then return reversed.reverse
      else if character == '\\' && escapes then lineText quote escapes fuel ((← escape) :: reversed)
      else if isPrintable character then lineText quote escapes fuel (character :: reversed)
      else failure

/-- A backslash at the end of a line takes away the blanks and ends of lines behind it. -/
def continuation : Scan Bool := do
  let rest ← get
  let isSpace (character : Char) : Bool :=
    isBlank character || character == '\n' || character == '\r'
  match rest.dropWhile isBlank with
  | '\n' :: others =>
    set (others.dropWhile isSpace)
    return true
  | '\r' :: '\n' :: others =>
    set (others.dropWhile isSpace)
    return true
  | _ => return false

/-- The characters up to the three closing quotes, on any number of lines; up to two quotes may
stand directly before them.  The fuel bounds the number of characters. -/
def blockText (quote : Char) (escapes : Bool) : Nat → List Char → Scan (List Char)
  | 0, _ => failure
  | fuel + 1, reversed => do
    let quotes := min 5 ((← get).takeWhile (· == quote)).length
    if 3 ≤ quotes then
      drop quotes
      return (List.replicate (quotes - 3) quote ++ reversed).reverse
    else if ← skipped ['\r', '\n'] then blockText quote escapes fuel ('\n' :: '\r' :: reversed)
    else
      match ← peek? with
      | none => failure
      | some character =>
        drop 1
        if character == '\\' && escapes then
          if ← continuation then blockText quote escapes fuel reversed
          else blockText quote escapes fuel ((← escape) :: reversed)
        else if character == '\n' || isPrintable character then
          blockText quote escapes fuel (character :: reversed)
        else failure

/-- A text on one line whose opening quote follows. -/
def shortText (quote : Char) (escapes : Bool) : Scan String := do
  drop 1
  return String.ofList (← lineText quote escapes ((← get).length + 1) [])

/-- A text whose opening quote or quotes follow. -/
def quoted (quote : Char) (escapes : Bool) : Scan String := do
  if ← skipped [quote, quote, quote] then
    let _ ← newline
    return String.ofList (← blockText quote escapes ((← get).length + 1) [])
  else shortText quote escapes

/-! ## Keys -/

/-- A character of a key without quotes. -/
def isKeyCharacter (character : Char) : Bool :=
  character.isAlphanum || character == '_' || character == '-'

/-- A part of a key. -/
def keyPart : Scan String := do
  match ← peek? with
  | some '"' => shortText '"' true
  | some '\'' => shortText '\'' false
  | _ =>
    let name := (← get).takeWhile isKeyCharacter
    if name.isEmpty then failure
    else
      drop name.length
      return String.ofList name

/-- A key, whose parts are divided by dots; the fuel bounds their number. -/
def keyFrom : Nat → Scan (List String)
  | 0 => failure
  | fuel + 1 => do
    blanks
    let part ← keyPart
    blanks
    if ← skipped ['.'] then return part :: (← keyFrom fuel) else return [part]

/-- A key with blanks around it. -/
def key : Scan (List String) := do
  keyFrom ((← get).length + 1)

/-! ## Values -/

/-- A character of a value without quotes. -/
def isPlainCharacter (character : Char) : Bool :=
  isKeyCharacter character || character == '+' || character == '.' || character == ':'

/-- A value without quotes.  A blank may stand between a date and a time. -/
def plain : Scan Toml := do
  let rest ← get
  let first := rest.takeWhile isPlainCharacter
  let others := rest.dropWhile isPlainCharacter
  let joined := match others with
    | ' ' :: digit :: _ => digit.isDigit && date? first == some []
    | _ => false
  let word := if joined then first ++ ' ' :: (others.drop 1).takeWhile isPlainCharacter else first
  drop word.length
  match plain? word with
  | some value => return value
  | none => failure

/-- The items of an array whose opening bracket was read; the fuel bounds their number. -/
def items (value : Scan Toml) : Nat → List Toml → Scan (List Toml)
  | 0, _ => failure
  | fuel + 1, reversed => do
    layout
    if ← skipped [']'] then return reversed.reverse
    else
      let item ← value
      layout
      if ← skipped [','] then items value fuel (item :: reversed)
      else
        expect [']']
        return (item :: reversed).reverse

/-- A key and its value. -/
def pair (value : Scan Toml) : Scan (List String × Toml) := do
  let path ← key
  expect ['=']
  blanks
  return (path, ← value)

/-- The entries of a table whose opening brace was read; the fuel bounds their number. -/
def inlineEntries (value : Scan Toml) : Nat → Draft.Entries → Scan Draft.Entries
  | 0, _ => failure
  | fuel + 1, entries => do
    layout
    if ← skipped ['\x7d'] then return entries
    else
      let (path, content) ← pair value
      let entries ← StateT.lift (Draft.insert (.closed content) path entries)
      layout
      if ← skipped [','] then inlineEntries value fuel entries
      else
        expect ['\x7d']
        return entries

/-- The number of values that may be nested. -/
def nestingLimit : Nat := 80

/-- A value with a limit on the number of nested ones. -/
def value : Nat → Scan Toml
  | 0 => failure
  | limit + 1 => do
    let fuel := (← get).length + 1
    match ← peek? with
    | some '"' => return .text (← quoted '"' true)
    | some '\'' => return .text (← quoted '\'' false)
    | some '[' =>
      drop 1
      return .array (← items (value limit) fuel [])
    | some '\x7b' =>
      drop 1
      return .table (Draft.finishEntries (← inlineEntries (value limit) fuel []))
    | _ => plain

/-! ## Documents -/

/-- A document under construction: its tables, and the header that was read last. -/
structure Document where
  entries : Draft.Entries
  header : List String

/-- Add a header, which opens a table or appends one to a list. -/
def Document.enter (document : Document) (path : List String)
    (enterLast : String → Draft.Entries → Option Draft.Entries) : Option Document := do
  let last ← path.getLast?
  let entries ← Draft.modifyAt (enterLast last) path.dropLast document.entries
  return ⟨entries, path⟩

/-- Add a value under a key below the header. -/
def Document.add (document : Document) (path : List String) (content : Toml) : Option Document := do
  let entries ← Draft.modifyAt (Draft.insert (.closed content) path) document.header
    document.entries
  return { document with entries := entries }

/-- A line with content. -/
def line (document : Document) : Scan Document := do
  if ← skipped ['[', '['] then
    let path ← key
    expect [']', ']']
    StateT.lift (document.enter path Draft.appendTable)
  else if ← skipped ['['] then
    let path ← key
    expect [']']
    StateT.lift (document.enter path Draft.openTable)
  else
    let (path, content) ← pair (value nestingLimit)
    StateT.lift (document.add path content)

/-- The lines of a document; the fuel bounds their number. -/
def lines : Nat → Document → Scan Document
  | 0, _ => failure
  | fuel + 1, document => do
    layout
    if (← get).isEmpty then return document
    else
      let document ← line document
      lineEnd
      lines fuel document

end Scan

/-- Read a settings document; a byte order mark at its start does not count. -/
def parse (text : String) : Option Toml := do
  let characters := match text.toList with
    | '\uFEFF' :: rest => rest
    | all => all
  let (document, _) ← (Scan.lines (characters.length + 1) ⟨[], []⟩).run characters
  return .table (Draft.finishEntries document.entries)

end Toml
end QualityGate
