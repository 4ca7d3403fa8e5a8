import QualityGate.Instant.Reader
import QualityGate.Json.Reader
import QualityGate.Toml.Basic

/-!
# Decoders

A decoder tells how a value of a type is found in a JSON text, in a JSON value and in a settings
document.  Reading from a text goes along with the text, so that of two faults the earlier one is
reported.  A record may be written as an object or as the array of its fields; unknown members are
skipped, repeated ones are a fault.  In a settings document a date counts as a record of which
nothing is given.
-/

namespace QualityGate

/-- How a value is found in a document. -/
structure Decoder (α : Type) where
  fromText : Reader α
  fromJson : Json → Except Cause α
  fromToml : Toml → Option α

namespace Json

/-- A JSON value that was not expected. -/
def unexpected : Json → Unexpected
  | .null => .null
  | .boolean value => .boolean value
  | .number (.natural value) => .natural value
  | .number (.negative magnitude) => .negative magnitude
  | .number (.float value) => .float value
  | .text value => .text value
  | .array _ => .sequence
  | .object _ => .map

end Json

namespace Reader

variable {α : Type}

/-- Fail because of the value under the cursor.  A scalar is read to its end first. -/
def failType (expecting : String) (character : Char) : Reader α := do
  if character == '[' then failHere (.invalidType .sequence expecting)
  else if character == '\x7b' then failHere (.invalidType .map expecting)
  else
    match ← scalar? character with
    | some value => failHere (.invalidType value.unexpected expecting)
    | none => failBehind .expectedValue

/-- The first character of the next value. -/
def valueStart : Reader Char := do
  match ← token? with
  | none => failBehind .endInValue
  | some character => return character

/-- A scalar of some kinds, decoded by a function on JSON values. -/
def scalarOf (starts : Char → Bool) (expecting : String) (decode : Json → Except Cause α) :
    Reader α := do
  let character ← valueStart
  if starts character then
    match ← scalar? character with
    | some value => ofExcept (decode value)
    | none => failBehind .expectedValue
  else failType expecting character

end Reader

namespace Decoder

variable {α β σ : Type}

/-- Change the decoded value. -/
def map (change : α → β) (decoder : Decoder α) : Decoder β where
  fromText := change <$> decoder.fromText
  fromJson document := (decoder.fromJson document).map change
  fromToml document := (decoder.fromToml document).map change

/-! ## Scalars -/

/-- A text with a meaning of its own. -/
def parsedText (expecting : String) (parse : String → Except Cause α) : Decoder α :=
  let decode : Json → Except Cause α
    | .text value => parse value
    | other => .error (.invalidType other.unexpected expecting)
  { fromText := Reader.scalarOf (· == '"') expecting decode
    fromJson := decode
    fromToml := fun document =>
      match document with
      | .text value => (parse value).toOption
      | _ => none }

/-- A text. -/
def text : Decoder String :=
  parsedText "a string" .ok

/-- An instant in its relaxed notation. -/
def instant : Decoder Instant :=
  parsedText "an RFC 3339 formatted date and time string" fun value =>
    (Instant.parse value).mapError fun fault => .other fault.message

/-- A truth value. -/
def flag : Decoder Bool :=
  let decode : Json → Except Cause Bool
    | .boolean value => .ok value
    | other => .error (.invalidType other.unexpected "a boolean")
  { fromText := Reader.scalarOf (fun character => character == 't' || character == 'f') "a boolean"
      decode
    fromJson := decode
    fromToml := fun document =>
      match document with
      | .boolean value => some value
      | _ => none }

/-- The first character of a number. -/
def startsNumber (character : Char) : Bool :=
  character == '-' || character.isDigit

/-- A natural number below a bound. -/
def natural (bound : Nat) (expecting : String) : Decoder Nat :=
  let decode : Json → Except Cause Nat
    | .number (.natural value) =>
      if value < bound then .ok value else .error (.invalidValue (.natural value) expecting)
    | .number (.negative magnitude) => .error (.invalidValue (.negative magnitude) expecting)
    | other => .error (.invalidType other.unexpected expecting)
  { fromText := Reader.scalarOf startsNumber expecting decode
    fromJson := decode
    fromToml := fun document =>
      match document with
      | .integer value =>
        if 0 ≤ value && value < bound then some value.toNat else none
      | _ => none }

/-- A natural number of 32 bits. -/
def natural32 : Decoder Nat :=
  natural (Word.bound 32) "u32"

/-- A natural number of 64 bits. -/
def natural64 : Decoder Nat :=
  natural (Word.bound 64) "u64"

/-- A size in memory. -/
def size : Decoder Nat :=
  natural (Word.bound 64) "usize"

/-- A floating point number; integers are converted. -/
def float : Decoder Float :=
  let decode : Json → Except Cause Float
    | .number value => .ok value.toFloat
    | other => .error (.invalidType other.unexpected "f64")
  { fromText := Reader.scalarOf startsNumber "f64" decode
    fromJson := decode
    fromToml := fun document =>
      match document with
      | .float value => some value
      | .integer value =>
        if Word.spans 63 64 value then some (Float.ofInt value) else none
      | _ => none }

/-! ## Structures -/

/-- A value that may be missing. -/
def optional (decoder : Decoder α) : Decoder (Option α) where
  fromText := do
    match ← Reader.token? with
    | some 'n' =>
      Reader.skip
      Reader.word ['u', 'l', 'l']
      return none
    | _ => some <$> decoder.fromText
  fromJson document :=
    match document with
    | .null => .ok none
    | other => (decoder.fromJson other).map some
  fromToml document := (decoder.fromToml document).map some

/-- A list of values. -/
def sequence (decoder : Decoder α) : Decoder (List α) where
  fromText := do
    let character ← Reader.valueStart
    if character == '[' then Reader.placed (Reader.list decoder.fromText)
    else Reader.failType "a sequence" character
  fromJson document :=
    match document with
    | .array items => items.mapM decoder.fromJson
    | other => .error (.invalidType other.unexpected "a sequence")
  fromToml document :=
    match document with
    | .array items => items.mapM decoder.fromToml
    | _ => none

/-- Values under keys; of a repeated key the last value counts. -/
def dictionary (decoder : Decoder α) : Decoder (Dictionary α) where
  fromText := do
    let character ← Reader.valueStart
    if character == '\x7b' then
      let step (name : String) (found : Dictionary α) : Reader (Dictionary α) := do
        Reader.colon
        let value ← decoder.fromText
        return found.insert name value
      Reader.placed
        (Reader.enclosed (do Reader.members step ((← get).rest.length + 1) true [])
          Reader.closeObject)
    else Reader.failType "a map" character
  fromJson document :=
    match document with
    | .object members => do
      let pairs ← members.mapM fun member => do
        return (member.1, ← decoder.fromJson member.2)
      return Dictionary.ofList pairs
    | other => .error (.invalidType other.unexpected "a map")
  fromToml document :=
    match document with
    | .table entries => do
      let pairs ← entries.mapM fun entry => do
        return (entry.1, ← decoder.fromToml entry.2)
      return Dictionary.ofList pairs
    | _ => none

/-- The value of a name among the known ones. -/
def chosen (known : List (String × α)) (name : String) : Except Cause α :=
  match known.lookup name with
  | some value => .ok value
  | none => .error (.unknownVariant name (known.map Prod.fst))

/-- One of several named values, written as its name, or as the only key of an object without
content. -/
def choice (known : List (String × α)) : Decoder α where
  fromText := do
    match ← Reader.token? with
    | some '"' =>
      let name ← Reader.key
      Reader.ofExcept (chosen known name)
    | some '\x7b' =>
      let value ← Reader.nested do
        let opening ← Reader.valueStart
        if opening == '"' then
          let name ← Reader.key
          let value ← Reader.ofExcept (chosen known name)
          Reader.colon
          let character ← Reader.valueStart
          if character == 'n' then
            Reader.skip
            Reader.word ['u', 'l', 'l']
            return value
          else Reader.failType "unit" character
        else Reader.failType "variant identifier" opening
      match ← Reader.token? with
      | some '\x7d' =>
        Reader.skip
        return value
      | some _ => Reader.failHere .expectedValue
      | none => Reader.failHere .endInObject
    | some _ => Reader.failBehind .expectedValue
    | none => Reader.failBehind .endInValue
  fromJson document :=
    match document with
    | .text name => chosen known name
    | .object [(name, content)] => do
      let value ← chosen known name
      match content with
      | .null => .ok value
      | other => .error (.invalidType other.unexpected "unit")
    | .object _ => .error (.invalidValue .map "map with a single key")
    | other => .error (.invalidType other.unexpected "string or map")
  fromToml document :=
    match document with
    | .text name => known.lookup name
    | .table [(name, content)] => if content.isEmpty then known.lookup name else none
    | _ => none

/-! ## Records -/

/-- What happens if a field of a record is not given. -/
inductive Presence where
  /-- The field is needed. -/
  | required
  /-- An object may leave the field out, an array of fields may not. -/
  | nullable
  /-- The field may be left out. -/
  | defaulted
deriving Repr, DecidableEq

/-- A field of a record: its names, and a decoder for what it changes. -/
structure Field (σ : Type) where
  name : String
  aliases : List String
  presence : Presence
  decoder : Decoder (σ → σ)

namespace Field

/-- A field that is stored by a function. -/
def stored (name : String) (presence : Presence) (decoder : Decoder α) (store : α → σ → σ) :
    Field σ :=
  ⟨name, [], presence, decoder.map store⟩

/-- A field that has to be given. -/
def required (name : String) (decoder : Decoder α) (store : α → σ → σ) : Field σ :=
  stored name .required decoder store

/-- A field that may be `null`, or left out of an object. -/
def nullable (name : String) (decoder : Decoder α) (store : Option α → σ → σ) : Field σ :=
  stored name .nullable decoder.optional store

/-- A field that may be left out. -/
def defaulted (name : String) (decoder : Decoder α) (store : α → σ → σ) : Field σ :=
  stored name .defaulted decoder store

/-- A field of a part of a record as a field of the record. -/
def within {τ : Type} (part : τ → σ) (replace : σ → τ → τ) (field : Field σ) : Field τ :=
  { name := field.name
    aliases := field.aliases
    presence := field.presence
    decoder := field.decoder.map fun store whole => replace (store (part whole)) whole }

/-- The field goes by a name. -/
def answersTo (field : Field σ) (name : String) : Bool :=
  field.name == name || field.aliases.contains name

end Field

/-- A record under construction: its value and the names of the fields that were given. -/
structure Draft (σ : Type) where
  value : σ
  given : List String

/-- The first field that is needed and was not given. -/
def firstMissing? (fields : List (Field σ)) (given : List String) : Option String :=
  (fields.find? fun field =>
    field.presence == .required && !given.contains field.name).map Field.name

/-- The value of a record all of whose needed fields were given. -/
def complete (fields : List (Field σ)) (draft : Draft σ) : Except Cause σ :=
  match firstMissing? fields draft.given with
  | some name => .error (.missingField name)
  | none => .ok draft.value

/-- What a record is called in a fault about its length. -/
def lengthText (name : String) (count : Nat) : String :=
  "struct " ++ name ++ " with " ++ Text.decimal count ++
    (if count == 1 then " element" else " elements")

/-- Add one member of an object to a record; a reader stands before the colon. -/
def readMember (fields : List (Field σ)) (name : String) (draft : Draft σ) : Reader (Draft σ) := do
  match fields.find? fun field => field.answersTo name with
  | none =>
    Reader.colon
    Reader.skipValue
    return draft
  | some field =>
    if draft.given.contains field.name then Reader.failAnywhere (.duplicateField field.name)
    else
      Reader.colon
      let store ← field.decoder.fromText
      return ⟨store draft.value, field.name :: draft.given⟩

/-- Read the fields of a record from the items of a list. -/
def readItems (expecting : String) : List (Field σ) → Nat → Bool → σ → Reader σ
  | [], _, _, value => return value
  | field :: rest, index, first, value => do
    if ← Reader.moreItems first then
      let store ← field.decoder.fromText
      readItems expecting rest (index + 1) false (store value)
    else if field.presence == .defaulted then readItems expecting rest (index + 1) first value
    else Reader.failAnywhere (.invalidLength index expecting)

/-- Add one member of an object to a record. -/
def addMember (fields : List (Field σ)) (draft : Draft σ) (name : String) (content : Json) :
    Except Cause (Draft σ) :=
  match fields.find? fun field => field.answersTo name with
  | none => .ok draft
  | some field =>
    if draft.given.contains field.name then .error (.duplicateField field.name)
    else do
      let store ← field.decoder.fromJson content
      return ⟨store draft.value, field.name :: draft.given⟩

/-- Fill the fields of a record with the items of an array. -/
def addItems (expecting : String) (length : Nat) :
    List (Field σ) → Nat → List Json → σ → Except Cause σ
  | [], _, [], value => .ok value
  | [], _, _ :: _, _ => .error (.invalidLength length "fewer elements in array")
  | field :: rest, index, [], value =>
    if field.presence == .defaulted then addItems expecting length rest (index + 1) [] value
    else .error (.invalidLength index expecting)
  | field :: rest, index, item :: items, value => do
    let store ← field.decoder.fromJson item
    addItems expecting length rest (index + 1) items (store value)

/-- Add one entry of a table to a record.  Numbers in an unknown entry must not be too large. -/
def addEntry (fields : List (Field σ)) (draft : Draft σ) (name : String) (content : Toml) :
    Option (Draft σ) :=
  match fields.find? fun field => field.answersTo name with
  | none => if content.isSound then some draft else none
  | some field =>
    if draft.given.contains field.name then none
    else do
      let store ← field.decoder.fromToml content
      return ⟨store draft.value, field.name :: draft.given⟩

/-- Fill the fields of a record with the items of an array; further items do not count. -/
def addTomlItems : List (Field σ) → List Toml → σ → Option σ
  | [], _, value => some value
  | field :: rest, [], value =>
    if field.presence == .defaulted then addTomlItems rest [] value else none
  | field :: rest, item :: items, value => do
    let store ← field.decoder.fromToml item
    addTomlItems rest items (store value)

/-- A record with a name, built from an initial value by storing its fields. -/
def record (name : String) (initial : σ) (fields : List (Field σ)) : Decoder σ :=
  let expecting := "struct " ++ name
  let expectingLength := lengthText name fields.length
  { fromText := do
      let character ← Reader.valueStart
      if character == '[' then
        Reader.placed
          (Reader.enclosed (readItems expectingLength fields 0 true initial) Reader.closeList)
      else if character == '\x7b' then
        Reader.placed
          (Reader.enclosed
            (do
              let draft ← Reader.members (readMember fields) ((← get).rest.length + 1) true
                ⟨initial, []⟩
              match complete fields draft with
              | .ok value => return value
              | .error cause => Reader.failAnywhere cause)
            Reader.closeObject)
      else Reader.failType expecting character
    fromJson := fun document =>
      match document with
      | .object members => do
        let draft ← members.foldlM
          (fun draft (member : String × Json) => addMember fields draft member.1 member.2)
          ⟨initial, []⟩
        complete fields draft
      | .array items => addItems expectingLength items.length fields 0 items initial
      | other => .error (.invalidType other.unexpected expecting)
    fromToml := fun document =>
      match document with
      | .table entries => do
        let draft ← entries.foldlM
          (fun draft (entry : String × Toml) => addEntry fields draft entry.1 entry.2)
          ⟨initial, []⟩
        (complete fields draft).toOption
      | .array items => addTomlItems fields items initial
      | .moment => (complete fields ⟨initial, []⟩).toOption
      | _ => none }

/-- Read a JSON text. -/
def parse (decoder : Decoder α) (text : String) : Except Fault α :=
  Reader.run decoder.fromText text

end Decoder
end QualityGate
