import QualityGate.Proofs.Json.Bracketed
import QualityGate.Proofs.Text.SingleLine

/-!
# Faults are told on a single line

A fault names what was expected and what was found.  What was found is shown as a number or between
quotes, where a line feed is escaped, so whatever is read, the message of a fault has none.
-/

namespace QualityGate

open Text (IsSingleLine)

/-! ## Messages -/

theorem Unexpected.isSingleLine_message (unexpected : Unexpected) :
    IsSingleLine unexpected.message := by
  unfold Unexpected.message
  cases unexpected with
  | boolean value => cases value <;> decide
  | natural value => simp +decide only [Text.isSingleLine_append_iff, Text.isSingleLine_decimal]
  | negative magnitude =>
    simp +decide only [Text.isSingleLine_append_iff, Text.isSingleLine_decimal]
  | float value => simp +decide only [Text.isSingleLine_append_iff, Text.isSingleLine_render]
  | text value => simp +decide only [Text.isSingleLine_append_iff, Text.isSingleLine_quoted]
  | null => decide
  | sequence => decide
  | map => decide
  | unitVariant => decide

namespace Cause

/-- The message of the cause has no line feed. -/
def IsPlain (cause : Cause) : Prop :=
  IsSingleLine cause.message

/-- The cause is told in fixed words. -/
def isFixed : Cause → Bool
  | .missingField _ => false
  | .duplicateField _ => false
  | .unknownVariant _ _ => false
  | .invalidType _ _ => false
  | .invalidValue _ _ => false
  | .invalidLength _ _ => false
  | .other _ => false
  | _ => true

theorem IsPlain.of_isFixed {cause : Cause} (fixed : cause.isFixed = true) : cause.IsPlain := by
  cases cause
  -- the characters of the words are read off their literal, which need not be decoded
  all_goals first
    | exact absurd fixed Bool.false_ne_true
    | exact (Text.isSingleLine_ofList_iff _).mpr (by decide)

theorem isPlain_missingField {name : String} (single : IsSingleLine name) :
    (missingField name).IsPlain := by
  unfold IsPlain message
  simp +decide only [Text.isSingleLine_append_iff, single]

theorem isPlain_duplicateField {name : String} (single : IsSingleLine name) :
    (duplicateField name).IsPlain := by
  unfold IsPlain message
  simp +decide only [Text.isSingleLine_append_iff, single]

theorem isPlain_invalidType (unexpected : Unexpected) {expecting : String}
    (single : IsSingleLine expecting) : (invalidType unexpected expecting).IsPlain := by
  unfold IsPlain message
  simp +decide only [Text.isSingleLine_append_iff, unexpected.isSingleLine_message, single]

theorem isPlain_invalidLength (length : Nat) {expecting : String}
    (single : IsSingleLine expecting) : (invalidLength length expecting).IsPlain := by
  unfold IsPlain message
  simp +decide only [Text.isSingleLine_append_iff, Text.isSingleLine_decimal, single]

end Cause

theorem Fault.isSingleLine_message {fault : Fault} (plain : fault.cause.IsPlain) :
    IsSingleLine fault.message := by
  unfold Fault.message
  split
  · exact plain
  · have cause : IsSingleLine fault.cause.message := plain
    simp +decide [cause]

namespace Reader

variable {α β σ : Type}

/-- Wherever the reader fails, the message has no line feed. -/
def FailsPlainly (reader : Reader α) : Prop :=
  ∀ ⦃cursor fault after⦄, ExceptT.run reader cursor = (.error fault, after) → fault.cause.IsPlain

/-! ## Composition -/

section Composition

variable {reader : Reader α} {next : α → Reader β}

theorem failsPlainly_pure (value : α) : FailsPlainly (pure value : Reader α) :=
  fun _ _ _ failed => by cases failed

theorem failsPlainly_get : FailsPlainly (get : Reader Cursor) :=
  fun _ _ _ failed => by cases failed

theorem failsPlainly_set (cursor : Cursor) : FailsPlainly (set cursor : Reader PUnit) :=
  fun _ _ _ failed => by cases failed

theorem failsPlainly_modify (change : Cursor → Cursor) :
    FailsPlainly (modify change : Reader PUnit) :=
  fun _ _ _ failed => by cases failed

theorem failsPlainly_throw {fault : Fault} (plain : fault.cause.IsPlain) :
    FailsPlainly (throw fault : Reader α) :=
  fun _ _ _ failed => by
    cases failed
    exact plain

theorem FailsPlainly.bind
    (first : FailsPlainly reader)
    (second : ∀ value, FailsPlainly (next value)) :
    FailsPlainly (reader >>= next) := by
  intro cursor fault after failed
  rw [ExceptT.run_bind, bind_apply] at failed
  cases found : ExceptT.run reader cursor with
  | mk outcome middle =>
    rw [found] at failed
    cases outcome with
    | ok value => exact second value failed
    | error _ =>
      cases failed
      exact first found

theorem FailsPlainly.map (change : α → β) (first : FailsPlainly reader) :
    FailsPlainly (change <$> reader) := by
  rw [← bind_pure_comp]
  exact first.bind fun value => failsPlainly_pure (change value)

theorem FailsPlainly.tryCatch
    {handler : Fault → Reader α}
    (first : FailsPlainly reader)
    (handled : ∀ fault, fault.cause.IsPlain → FailsPlainly (handler fault)) :
    FailsPlainly (tryCatch reader handler) := by
  intro cursor fault after failed
  rw [ExceptT.run_tryCatch, bind_apply] at failed
  cases found : ExceptT.run reader cursor with
  | mk outcome middle =>
    rw [found] at failed
    cases outcome with
    | ok value => cases failed
    | error earlier => exact handled earlier (first found) failed

variable {cause : Cause}

theorem failsPlainly_failHere_of_isPlain (plain : cause.IsPlain) :
    FailsPlainly (failHere cause : Reader α) :=
  failsPlainly_get.bind fun _ => failsPlainly_throw plain

theorem failsPlainly_failHere (fixed : cause.isFixed = true) :
    FailsPlainly (failHere cause : Reader α) :=
  failsPlainly_failHere_of_isPlain (.of_isFixed fixed)

theorem failsPlainly_failBehind (fixed : cause.isFixed = true) :
    FailsPlainly (failBehind cause : Reader α) :=
  failsPlainly_get.bind fun _ => failsPlainly_throw (.of_isFixed fixed)

theorem failsPlainly_failAnywhere (plain : cause.IsPlain) :
    FailsPlainly (failAnywhere cause : Reader α) :=
  failsPlainly_throw plain

theorem FailsPlainly.placed (plainly : FailsPlainly reader) : FailsPlainly (placed reader) := by
  refine plainly.tryCatch fun fault plain => ?_
  split
  · exact failsPlainly_throw plain
  · exact failsPlainly_failHere_of_isPlain plain

end Composition

/-! ## Characters -/

theorem failsPlainly_peek? : FailsPlainly peek? :=
  failsPlainly_get.bind fun _ => failsPlainly_pure _

theorem failsPlainly_skip : FailsPlainly skip :=
  failsPlainly_modify _

theorem failsPlainly_skipWhile (accepts : Char → Bool) : FailsPlainly (skipWhile accepts) :=
  failsPlainly_modify _

theorem failsPlainly_token? : FailsPlainly token? :=
  (failsPlainly_skipWhile isLayout).bind fun _ => failsPlainly_peek?

theorem failsPlainly_word (letters : List Char) : FailsPlainly (word letters) := by
  induction letters with
  | nil => exact failsPlainly_pure ()
  | cons expected rest inductionHypothesis =>
    refine failsPlainly_peek?.bind fun token => ?_
    cases token with
    | none => exact failsPlainly_failHere rfl
    | some character =>
      dsimp only
      split
      · exact failsPlainly_skip.bind fun _ => inductionHypothesis
      · exact failsPlainly_failBehind rfl

/-! ## Texts -/

theorem failsPlainly_hexEscape : FailsPlainly hexEscape := by
  refine failsPlainly_get.bind fun cursor => ?_
  split
  · refine (failsPlainly_set _).bind fun _ => ?_
    split
    · exact failsPlainly_pure _
    · exact failsPlainly_failHere rfl
  · exact (failsPlainly_set _).bind fun _ => failsPlainly_failHere rfl

theorem failsPlainly_surrogateLink (expected : Char) : FailsPlainly (surrogateLink expected) := by
  refine failsPlainly_peek?.bind fun token => ?_
  cases token with
  | none => exact failsPlainly_failHere rfl
  | some character =>
    dsimp only
    split
    · exact failsPlainly_skip
    · exact (failsPlainly_modify _).bind fun _ => failsPlainly_failHere rfl

theorem failsPlainly_unicodeEscape : FailsPlainly unicodeEscape := by
  refine failsPlainly_hexEscape.bind fun first => ?_
  split
  · exact failsPlainly_failHere rfl
  split
  · exact failsPlainly_pure _
  refine (failsPlainly_surrogateLink '\\').bind fun _ =>
    (failsPlainly_surrogateLink 'u').bind fun _ => failsPlainly_hexEscape.bind fun second => ?_
  split
  · exact failsPlainly_failHere rfl
  · exact failsPlainly_pure _

theorem failsPlainly_escapeLetter : FailsPlainly escapeLetter := by
  refine failsPlainly_peek?.bind fun token => ?_
  cases token with
  | none => exact failsPlainly_failHere rfl
  | some letter =>
    dsimp only
    split
    · exact failsPlainly_skip.bind fun _ => failsPlainly_pure letter
    · exact (failsPlainly_modify _).bind fun _ => failsPlainly_failHere rfl

theorem failsPlainly_escape : FailsPlainly escape := by
  refine failsPlainly_escapeLetter.bind fun letter => ?_
  split
  · exact failsPlainly_pure _
  · exact failsPlainly_unicodeEscape

theorem failsPlainly_textStep : FailsPlainly textStep := by
  refine failsPlainly_peek?.bind fun token => ?_
  cases token with
  | none => exact failsPlainly_failHere rfl
  | some character =>
    refine failsPlainly_skip.bind fun _ => ?_
    unfold textCharacter?
    split
    · exact failsPlainly_pure none
    split
    · exact failsPlainly_escape.map some
    split
    · exact failsPlainly_failHere rfl
    · exact failsPlainly_pure _

theorem failsPlainly_textCharacters (bound : Nat) (reversed : List Char) :
    FailsPlainly (textCharacters bound reversed) := by
  induction bound generalizing reversed with
  | zero => exact failsPlainly_failHere rfl
  | succ bound inductionHypothesis =>
    rw [textCharacters_succ]
    refine failsPlainly_textStep.bind fun character? => ?_
    cases character? with
    | none => exact failsPlainly_pure _
    | some character => exact inductionHypothesis _

theorem failsPlainly_text : FailsPlainly text :=
  failsPlainly_get.bind fun _ => (failsPlainly_textCharacters _ _).bind fun _ => failsPlainly_pure _

theorem failsPlainly_key : FailsPlainly key :=
  failsPlainly_skip.bind fun _ => failsPlainly_text

theorem failsPlainly_skipTextStep : FailsPlainly skipTextStep := by
  refine failsPlainly_peek?.bind fun token => ?_
  cases token with
  | none => exact failsPlainly_failHere rfl
  | some character =>
    dsimp only
    split
    · exact failsPlainly_skip.bind fun _ => failsPlainly_pure false
    split
    · refine failsPlainly_skip.bind fun _ => failsPlainly_escapeLetter.bind fun letter => ?_
      split
      · exact failsPlainly_hexEscape.bind fun _ => failsPlainly_pure true
      · exact failsPlainly_pure true
    split
    · exact failsPlainly_failHere rfl
    · exact failsPlainly_skip.bind fun _ => failsPlainly_pure true

theorem failsPlainly_skipTextFrom (bound : Nat) : FailsPlainly (skipTextFrom bound) := by
  induction bound with
  | zero => exact failsPlainly_failHere rfl
  | succ bound inductionHypothesis =>
    rw [skipTextFrom_succ]
    refine failsPlainly_skipTextStep.bind fun more => ?_
    split
    · exact inductionHypothesis
    · exact failsPlainly_pure ()

theorem failsPlainly_skipText : FailsPlainly skipText :=
  failsPlainly_get.bind fun _ => failsPlainly_skipTextFrom _

/-! ## Numbers -/

theorem failsPlainly_skipCount (count : Nat) : FailsPlainly (skipCount count) := by
  induction count with
  | zero => exact failsPlainly_pure ()
  | succ count inductionHypothesis => exact failsPlainly_skip.bind fun _ => inductionHypothesis

theorem failsPlainly_scaled (positive : Bool) (significand : Nat) (exponent : Int) :
    FailsPlainly (scaled positive significand exponent) := by
  unfold scaled
  dsimp only
  split
  · exact failsPlainly_pure _
  split
  · split
    · exact failsPlainly_failHere rfl
    · exact failsPlainly_pure _
  split
  · exact failsPlainly_pure _
  · exact failsPlainly_failHere rfl

/-- An exponent, from its first digit on. -/
def exponentDigits (positive : Bool) (significand : Nat) (exponent : Int) (upward : Bool) :
    Reader Float := do
  match ← peek? with
  | none => failHere .endInValue
  | some digit =>
    if !digit.isDigit then failBehind .invalidNumber
    else
      skip
      let first := digit.toNat - '0'.toNat
      let (power, count) := digitsWithin exponentLimit (← get).rest first 0
      skipCount count
      match ← peek? with
      | some further =>
        if further.isDigit then
          skip
          if significand != 0 && upward then failHere .numberOutOfRange
          else
            skipWhile Char.isDigit
            return if positive then 0.0 else -0.0
        else scaled positive significand (if upward then exponent + power else exponent - power)
      | none => scaled positive significand (if upward then exponent + power else exponent - power)

theorem failsPlainly_exponentDigits
    (positive : Bool)
    (significand : Nat)
    (exponent : Int)
    (upward : Bool) :
    FailsPlainly (exponentDigits positive significand exponent upward) := by
  refine failsPlainly_peek?.bind fun digit? => ?_
  cases digit? with
  | none => exact failsPlainly_failHere rfl
  | some digit =>
    dsimp only
    split
    · exact failsPlainly_failBehind rfl
    refine failsPlainly_skip.bind fun _ => failsPlainly_get.bind fun cursor =>
      (failsPlainly_skipCount _).bind fun _ => failsPlainly_peek?.bind fun further? => ?_
    cases further? with
    | none => exact failsPlainly_scaled _ _ _
    | some further =>
      dsimp only
      split
      · refine failsPlainly_skip.bind fun _ => ?_
        split
        · exact failsPlainly_failHere rfl
        · exact (failsPlainly_skipWhile _).bind fun _ => failsPlainly_pure _
      · exact failsPlainly_scaled _ _ _

theorem failsPlainly_exponentPart (positive : Bool) (significand : Nat) (exponent : Int) :
    FailsPlainly (exponentPart positive significand exponent) := by
  have digits := failsPlainly_exponentDigits positive significand exponent
  refine failsPlainly_skip.bind fun _ => failsPlainly_peek?.bind fun sign? => ?_
  dsimp only
  split
  · exact failsPlainly_skip.bind fun _ => digits true
  · exact failsPlainly_skip.bind fun _ => digits false
  · exact digits true

theorem failsPlainly_exponentOrEnd (positive : Bool) (significand : Nat) (exponent : Int) :
    FailsPlainly (exponentOrEnd positive significand exponent) := by
  refine failsPlainly_peek?.bind fun mark? => ?_
  split
  · exact failsPlainly_exponentPart _ _ _
  · exact failsPlainly_exponentPart _ _ _
  · exact failsPlainly_scaled _ _ _

theorem failsPlainly_fractionPart (positive : Bool) (significand : Nat) (exponent : Int) :
    FailsPlainly (fractionPart positive significand exponent) := by
  refine failsPlainly_skip.bind fun _ => failsPlainly_get.bind fun cursor =>
    (failsPlainly_skipCount _).bind fun _ => failsPlainly_peek?.bind fun further? => ?_
  cases further? with
  | none =>
    dsimp only
    split
    · exact failsPlainly_failBehind rfl
    · exact failsPlainly_exponentOrEnd _ _ _
  | some further =>
    dsimp only
    split
    · exact (failsPlainly_skipWhile _).bind fun _ => failsPlainly_exponentOrEnd _ _ _
    split
    · exact failsPlainly_failBehind rfl
    · exact failsPlainly_exponentOrEnd _ _ _

theorem failsPlainly_afterInteger (positive : Bool) (significand : Nat) :
    FailsPlainly (afterInteger positive significand) := by
  refine failsPlainly_peek?.bind fun mark? => ?_
  split
  · exact (failsPlainly_fractionPart _ _ _).bind fun _ => failsPlainly_pure _
  · exact (failsPlainly_exponentPart _ _ _).bind fun _ => failsPlainly_pure _
  · exact (failsPlainly_exponentPart _ _ _).bind fun _ => failsPlainly_pure _
  · exact failsPlainly_pure _

theorem failsPlainly_longInteger (positive : Bool) (significand : Nat) :
    FailsPlainly (longInteger positive significand) := by
  refine failsPlainly_get.bind fun cursor => (failsPlainly_skipCount _).bind fun _ =>
    failsPlainly_peek?.bind fun mark? => ?_
  split
  · exact (failsPlainly_fractionPart _ _ _).bind fun _ => failsPlainly_pure _
  · exact (failsPlainly_exponentOrEnd _ _ _).bind fun _ => failsPlainly_pure _

theorem failsPlainly_number (positive : Bool) : FailsPlainly (number positive) := by
  refine failsPlainly_peek?.bind fun digit? => ?_
  cases digit? with
  | none => exact failsPlainly_failHere rfl
  | some digit =>
    dsimp only
    split
    · refine failsPlainly_skip.bind fun _ => failsPlainly_peek?.bind fun further? => ?_
      cases further? with
      | none => exact failsPlainly_afterInteger _ _
      | some further =>
        dsimp only
        split
        · exact failsPlainly_failBehind rfl
        · exact failsPlainly_afterInteger _ _
    split
    · refine failsPlainly_skip.bind fun _ => failsPlainly_get.bind fun cursor =>
        (failsPlainly_skipCount _).bind fun _ => failsPlainly_peek?.bind fun further? => ?_
      cases further? with
      | none => exact failsPlainly_afterInteger _ _
      | some further =>
        dsimp only
        split
        · exact failsPlainly_longInteger _ _
        · exact failsPlainly_afterInteger _ _
    · exact failsPlainly_failBehind rfl

theorem failsPlainly_skipExponent : FailsPlainly skipExponent := by
  have digits : FailsPlainly skipExponentDigits := by
    refine failsPlainly_peek?.bind fun digit? => ?_
    cases digit? with
    | none => exact failsPlainly_failHere rfl
    | some digit =>
      dsimp only
      split
      · exact failsPlainly_skipWhile _
      · exact failsPlainly_failBehind rfl
  refine failsPlainly_skip.bind fun _ => failsPlainly_peek?.bind fun sign? => ?_
  dsimp only
  split
  · exact failsPlainly_skip.bind fun _ => digits
  · exact failsPlainly_skip.bind fun _ => digits
  · exact digits

theorem failsPlainly_skipExponentOrEnd : FailsPlainly skipExponentOrEnd := by
  refine failsPlainly_peek?.bind fun mark? => ?_
  split
  · exact failsPlainly_skipExponent
  · exact failsPlainly_skipExponent
  · exact failsPlainly_pure ()

theorem failsPlainly_skipFraction : FailsPlainly skipFraction := by
  have digits : FailsPlainly (do
      skipWhile Char.isDigit
      skipExponentOrEnd) :=
    (failsPlainly_skipWhile _).bind fun _ => failsPlainly_skipExponentOrEnd
  refine failsPlainly_peek?.bind fun mark? => ?_
  split
  · refine failsPlainly_skip.bind fun _ => failsPlainly_peek?.bind fun digit? => ?_
    cases digit? with
    | none => exact (failsPlainly_failBehind rfl).bind fun _ => digits
    | some digit =>
      dsimp only
      split
      · exact (failsPlainly_failBehind rfl).bind fun _ => digits
      · exact digits
  · exact failsPlainly_skipExponentOrEnd

theorem failsPlainly_skipNumber : FailsPlainly skipNumber := by
  rw [skipNumber_eq]
  refine failsPlainly_peek?.bind fun digit? => ?_
  cases digit? with
  | none => exact failsPlainly_failHere rfl
  | some digit =>
    dsimp only
    unfold skipDigits
    split
    · refine failsPlainly_skip.bind fun _ => failsPlainly_peek?.bind fun further? => ?_
      cases further? with
      | none => exact failsPlainly_skipFraction
      | some further =>
        dsimp only
        split
        · exact failsPlainly_failBehind rfl
        · exact failsPlainly_skipFraction
    split
    · exact (failsPlainly_skipWhile _).bind fun _ => failsPlainly_skipFraction
    · exact failsPlainly_failBehind rfl

/-! ## Brackets -/

theorem FailsPlainly.nested {reader : Reader α} (plainly : FailsPlainly reader) :
    FailsPlainly (nested reader) := by
  refine failsPlainly_get.bind fun cursor => ?_
  dsimp only
  split
  · exact failsPlainly_failBehind rfl
  refine (failsPlainly_modify _).bind fun _ => failsPlainly_skip.bind fun _ =>
    FailsPlainly.tryCatch ?_ fun fault plain => ?_
  · exact plainly.bind fun value => (failsPlainly_modify _).bind fun _ => failsPlainly_pure value
  · exact (failsPlainly_modify _).bind fun _ => failsPlainly_throw plain

theorem failsPlainly_moreItems (first : Bool) : FailsPlainly (moreItems first) := by
  refine failsPlainly_token?.bind fun token => ?_
  split
  · exact failsPlainly_failBehind rfl
  · exact failsPlainly_pure false
  split
  · exact failsPlainly_pure true
  split
  · refine failsPlainly_skip.bind fun _ => failsPlainly_token?.bind fun next? => ?_
    split
    · exact failsPlainly_failBehind rfl
    · exact failsPlainly_pure true
    · exact failsPlainly_failBehind rfl
  · exact failsPlainly_failBehind rfl

theorem failsPlainly_moreMembers (first : Bool) : FailsPlainly (moreMembers first) := by
  refine failsPlainly_token?.bind fun token => ?_
  split
  · exact failsPlainly_failBehind rfl
  · exact failsPlainly_pure false
  split
  · split
    · exact failsPlainly_pure true
    · exact failsPlainly_failBehind rfl
  split
  · refine failsPlainly_skip.bind fun _ => failsPlainly_token?.bind fun next? => ?_
    split
    · exact failsPlainly_pure true
    · exact failsPlainly_failBehind rfl
    · exact failsPlainly_failBehind rfl
    · exact failsPlainly_failBehind rfl
  · exact failsPlainly_failBehind rfl

theorem failsPlainly_closeList : FailsPlainly closeList := by
  refine failsPlainly_token?.bind fun token => ?_
  split
  · exact failsPlainly_skip
  · refine failsPlainly_skip.bind fun _ => failsPlainly_token?.bind fun next? => ?_
    split
    · exact failsPlainly_failBehind rfl
    · exact failsPlainly_failBehind rfl
  · exact failsPlainly_failBehind rfl
  · exact failsPlainly_failBehind rfl

theorem failsPlainly_closeObject : FailsPlainly closeObject := by
  refine failsPlainly_token?.bind fun token => ?_
  split
  · exact failsPlainly_skip
  · exact failsPlainly_failBehind rfl
  · exact failsPlainly_failBehind rfl
  · exact failsPlainly_failBehind rfl

theorem failsPlainly_colon : FailsPlainly colon := by
  refine failsPlainly_token?.bind fun token => ?_
  split
  · exact failsPlainly_skip
  · exact failsPlainly_failBehind rfl
  · exact failsPlainly_failBehind rfl

/-- The fault of the content is passed on, and so is a fault at the closing bracket. -/
theorem FailsPlainly.enclosed
    {content : Reader α}
    {close : Reader Unit}
    (plainly : FailsPlainly content)
    (closes : FailsPlainly close) :
    FailsPlainly (enclosed content close) := by
  have inside : FailsPlainly (Except.ok <$> Reader.nested content : Reader (Except Fault α)) :=
    plainly.nested.map Except.ok
  -- a fault of the content is kept as a value while the closing bracket is looked for
  intro cursor fault after failed
  unfold Reader.enclosed at failed
  rw [ExceptT.run_bind, bind_apply, ExceptT.run_tryCatch, bind_apply] at failed
  cases found : ExceptT.run
      (Except.ok <$> Reader.nested content : Reader (Except Fault α)) cursor with
  | mk outcome middle =>
    rw [found] at failed
    cases outcome with
    | error earlier =>
      have kept : FailsPlainly (do
          MonadExcept.tryCatch close fun _ => pure ()
          throw earlier : Reader α) :=
        (closes.tryCatch fun _ _ => failsPlainly_pure ()).bind fun _ =>
          failsPlainly_throw (inside found)
      exact kept failed
    | ok result =>
      obtain ⟨value, -, rfl⟩ := Returns.of_map found
      have closed : FailsPlainly (do
          close
          return value) :=
        closes.bind fun _ => failsPlainly_pure value
      exact closed failed

theorem failsPlainly_members
    {step : String → σ → Reader σ}
    (plainly : ∀ name state, FailsPlainly (step name state))
    (bound : Nat)
    (first : Bool)
    (state : σ) :
    FailsPlainly (members step bound first state) := by
  induction bound generalizing first state with
  | zero => exact failsPlainly_failBehind rfl
  | succ bound inductionHypothesis =>
    rw [members_succ]
    have member : FailsPlainly (memberStep step first state) := by
      refine (failsPlainly_moreMembers first).bind fun more => ?_
      split
      · exact failsPlainly_key.bind fun name => (plainly name state).map some
      · exact failsPlainly_pure none
    refine member.bind fun next? => ?_
    cases next? with
    | none => exact failsPlainly_pure state
    | some next => exact inductionHypothesis false next

/-! ## Values -/

theorem failsPlainly_scalar? (character : Char) : FailsPlainly (scalar? character) := by
  unfold scalar?
  split
  · exact failsPlainly_skip.bind fun _ => (failsPlainly_word _).bind fun _ => failsPlainly_pure _
  split
  · exact failsPlainly_skip.bind fun _ => (failsPlainly_word _).bind fun _ => failsPlainly_pure _
  split
  · exact failsPlainly_skip.bind fun _ => (failsPlainly_word _).bind fun _ => failsPlainly_pure _
  split
  · exact failsPlainly_skip.bind fun _ => (failsPlainly_number _).bind fun _ => failsPlainly_pure _
  split
  · exact (failsPlainly_number _).bind fun _ => failsPlainly_pure _
  split
  · exact failsPlainly_skip.bind fun _ => failsPlainly_text.bind fun _ => failsPlainly_pure _
  · exact failsPlainly_pure none

theorem failsPlainly_skipKey (bracket : Bracket) : FailsPlainly (skipKey bracket) := by
  cases bracket with
  | list => exact failsPlainly_pure ()
  | object =>
    have further : FailsPlainly (do
        skipText
        colon) :=
      failsPlainly_skipText.bind fun _ => failsPlainly_colon
    refine failsPlainly_token?.bind fun token => ?_
    dsimp only
    split
    · exact failsPlainly_skip.bind fun _ => further
    · exact (failsPlainly_failBehind rfl).bind fun _ => further
    · exact (failsPlainly_failBehind rfl).bind fun _ => further

theorem failsPlainly_skipScalar (character : Char) : FailsPlainly (skipScalar character) := by
  unfold skipScalar
  split
  · exact failsPlainly_skip.bind fun _ => failsPlainly_skipNumber
  split
  · exact failsPlainly_skipNumber
  split
  · exact failsPlainly_skip.bind fun _ => failsPlainly_skipText
  split
  · exact failsPlainly_skip.bind fun _ => failsPlainly_word _
  split
  · exact failsPlainly_skip.bind fun _ => failsPlainly_word _
  split
  · exact failsPlainly_skip.bind fun _ => failsPlainly_word _
  · exact failsPlainly_failBehind rfl

theorem failsPlainly_skipValueStep (opened : List Bracket) :
    FailsPlainly (skipValueStep opened) := by
  refine failsPlainly_token?.bind fun token => ?_
  split
  · exact failsPlainly_failBehind rfl
  · exact failsPlainly_skip.bind fun _ => failsPlainly_pure _
  · exact failsPlainly_skip.bind fun _ => failsPlainly_pure _
  · exact (failsPlainly_skipScalar _).bind fun _ => failsPlainly_pure _

theorem failsPlainly_skipBehindStep (bracket : Bracket) (opened : List Bracket) (comma : Bool) :
    FailsPlainly (skipBehindStep bracket opened comma) := by
  have key : FailsPlainly (do
      skipKey bracket
      return (bracket :: opened, true)) :=
    (failsPlainly_skipKey bracket).bind fun _ => failsPlainly_pure _
  refine failsPlainly_token?.bind fun token => ?_
  cases token with
  | none => exact failsPlainly_failBehind (by cases bracket <;> rfl)
  | some character =>
    dsimp only
    generalize (if bracket = .list then ']' else '\x7d') = closing
    split
    · exact failsPlainly_skip.bind fun _ => failsPlainly_pure _
    split
    · split
      · exact failsPlainly_skip.bind fun _ => key
      · exact failsPlainly_failBehind (by cases bracket <;> rfl)
    · exact key

theorem failsPlainly_skipOpen (bound : Nat) (opened : List Bracket) (expected comma : Bool) :
    FailsPlainly (skipOpen bound opened expected comma) := by
  induction bound generalizing opened expected comma with
  | zero => exact failsPlainly_failBehind rfl
  | succ bound inductionHypothesis =>
    cases expected with
    | true =>
      rw [skipOpen_value]
      exact (failsPlainly_skipValueStep opened).bind fun _ => inductionHypothesis _ _ _
    | false =>
      cases opened with
      | nil => exact failsPlainly_pure ()
      | cons bracket opened =>
        rw [skipOpen_behind]
        exact (failsPlainly_skipBehindStep bracket opened comma).bind fun _ =>
          inductionHypothesis _ _ _

theorem failsPlainly_skipValue : FailsPlainly skipValue :=
  failsPlainly_get.bind fun _ => failsPlainly_skipOpen _ _ _ _

theorem failsPlainly_valueStart : FailsPlainly valueStart := by
  refine failsPlainly_token?.bind fun token => ?_
  cases token with
  | none => exact failsPlainly_failBehind rfl
  | some character => exact failsPlainly_pure character

theorem failsPlainly_failType
    {expecting : String}
    (single : IsSingleLine expecting)
    (character : Char) :
    FailsPlainly (failType expecting character : Reader α) := by
  unfold failType
  split
  · exact failsPlainly_failHere_of_isPlain (Cause.isPlain_invalidType _ single)
  split
  · exact failsPlainly_failHere_of_isPlain (Cause.isPlain_invalidType _ single)
  · refine (failsPlainly_scalar? character).bind fun value? => ?_
    cases value? with
    | none => exact failsPlainly_failBehind rfl
    | some value => exact failsPlainly_failHere_of_isPlain (Cause.isPlain_invalidType _ single)

/-- What fails on a text as a whole fails in it, or behind it. -/
theorem FailsPlainly.run
    {reader : Reader α}
    (plainly : FailsPlainly reader)
    {text : String}
    {fault : Fault}
    (failed : run reader text = .error fault) :
    fault.cause.IsPlain := by
  have whole : FailsPlainly (do
      let value ← reader
      finish
      return value) := by
    refine plainly.bind fun value => ?_
    have finishes : FailsPlainly finish := by
      refine failsPlainly_token?.bind fun token => ?_
      cases token with
      | none => exact failsPlainly_pure ()
      | some character => exact failsPlainly_failBehind rfl
    exact finishes.bind fun _ => failsPlainly_pure value
  exact whole (Prod.ext failed rfl)

end Reader
end QualityGate
