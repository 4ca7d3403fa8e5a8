import QualityGate.Proofs.Effect
import QualityGate.Proofs.Json.PlainFault

/-!
# Decoders that fail on a single line

A decoder of a record names its fields and what it expects, and these are names on a single line.
So whether a text or a JSON value cannot be decoded, the message has no line feed.
-/

namespace QualityGate

open Text (IsSingleLine)

namespace Decoder

variable {α σ : Type}

/-- Wherever a value cannot be decoded, the message has no line feed. -/
structure FailsPlainly (decoder : Decoder α) : Prop where
  fromText : Reader.FailsPlainly decoder.fromText
  fromJson : ∀ ⦃document cause⦄, decoder.fromJson document = .error cause → cause.IsPlain

theorem failsPlainly_parsedText
    {expecting : String}
    (single : IsSingleLine expecting)
    {parse : String → Except Cause α}
    (plainly : ∀ ⦃value cause⦄, parse value = .error cause → cause.IsPlain) :
    FailsPlainly (parsedText expecting parse) := by
  have decoded : ∀ ⦃document cause⦄,
      (parsedText expecting parse).fromJson document = .error cause → cause.IsPlain := by
    intro document cause failed
    cases document with
    | text value => exact plainly failed
    | _ =>
      cases failed
      exact Cause.isPlain_invalidType _ single
  refine ⟨Reader.failsPlainly_valueStart.bind fun first => ?_, decoded⟩
  split
  · refine (Reader.failsPlainly_scalar? first).bind fun value? => ?_
    cases value? with
    | none => exact Reader.failsPlainly_failBehind rfl
    | some value =>
      change Reader.FailsPlainly (Reader.ofExcept ((parsedText expecting parse).fromJson value))
      cases result : (parsedText expecting parse).fromJson value with
      | ok found => exact Reader.failsPlainly_pure found
      | error cause => exact Reader.failsPlainly_failHere_of_isPlain (decoded result)
  · exact Reader.failsPlainly_failType single first

theorem failsPlainly_text : FailsPlainly text :=
  failsPlainly_parsedText (by decide) fun _ _ failed => by cases failed

theorem FailsPlainly.map {β : Type} {decoder : Decoder α} (plainly : FailsPlainly decoder)
    (change : α → β) : FailsPlainly (decoder.map change) := by
  refine ⟨plainly.fromText.map change, fun document cause failed => ?_⟩
  change (decoder.fromJson document).map change = .error cause at failed
  cases result : decoder.fromJson document with
  | ok value =>
    rw [result] at failed
    cases failed
  | error earlier =>
    rw [result] at failed
    cases failed
    exact plainly.fromJson result

theorem FailsPlainly.optional {decoder : Decoder α} (plainly : FailsPlainly decoder) :
    FailsPlainly decoder.optional := by
  refine ⟨Reader.failsPlainly_token?.bind fun token => ?_, fun document cause failed => ?_⟩
  · split
    · exact Reader.failsPlainly_skip.bind fun _ =>
        (Reader.failsPlainly_word _).bind fun _ => Reader.failsPlainly_pure none
    · exact plainly.fromText.map some
  · cases document with
    | null => cases failed
    | _ => exact (plainly.map some).fromJson failed

/-- Neither the name of the field nor what is said about its value has a line feed. -/
structure Field.FailsPlainly (field : Field σ) : Prop where
  name : IsSingleLine field.name
  decoder : Decoder.FailsPlainly field.decoder

theorem Field.failsPlainly_nullable
    {name : String}
    (single : IsSingleLine name)
    {decoder : Decoder α}
    (plainly : Decoder.FailsPlainly decoder)
    (store : Option α → σ → σ) :
    Field.FailsPlainly (Field.nullable name decoder store) :=
  ⟨single, plainly.optional.map store⟩

section Records

variable {fields : List (Field σ)}
variable (plainly : ∀ field ∈ fields, Field.FailsPlainly field)
include plainly

theorem isPlain_of_complete {draft : Draft σ} {cause : Cause}
    (failed : complete fields draft = .error cause) : cause.IsPlain := by
  unfold complete at failed
  split at failed
  · rename_i missing isMissing
    obtain ⟨field, found, rfl⟩ := Option.map_eq_some_iff.mp isMissing
    cases failed
    exact Cause.isPlain_missingField (plainly field (List.mem_of_find?_eq_some found)).name
  · cases failed

theorem failsPlainly_readMember (name : String) (draft : Draft σ) :
    Reader.FailsPlainly (readMember fields name draft) := by
  unfold readMember
  split
  · exact Reader.failsPlainly_colon.bind fun _ =>
      Reader.failsPlainly_skipValue.bind fun _ => Reader.failsPlainly_pure draft
  · rename_i field found
    have known := plainly field (List.mem_of_find?_eq_some found)
    split
    · exact Reader.failsPlainly_failAnywhere (Cause.isPlain_duplicateField known.name)
    · exact Reader.failsPlainly_colon.bind fun _ =>
        known.decoder.fromText.bind fun _ => Reader.failsPlainly_pure _

theorem failsPlainly_recordMembers (initial : σ) :
    Reader.FailsPlainly (recordMembers fields initial) := by
  refine Reader.failsPlainly_get.bind fun cursor =>
    (Reader.failsPlainly_members (failsPlainly_readMember plainly) _ _ _).bind fun draft => ?_
  split
  · exact Reader.failsPlainly_pure _
  · rename_i cause failed
    exact Reader.failsPlainly_failAnywhere (isPlain_of_complete plainly failed)

theorem failsPlainly_readItems
    {expecting : String}
    (single : IsSingleLine expecting)
    (index : Nat)
    (first : Bool)
    (value : σ) :
    Reader.FailsPlainly (readItems expecting fields index first value) := by
  induction fields generalizing index first value with
  | nil => exact Reader.failsPlainly_pure value
  | cons field rest inductionHypothesis =>
    obtain ⟨here, further⟩ := List.forall_mem_cons.mp plainly
    refine (Reader.failsPlainly_moreItems first).bind fun more => ?_
    split
    · exact here.decoder.fromText.bind fun store => inductionHypothesis further _ _ _
    split
    · exact inductionHypothesis further _ _ _
    · exact Reader.failsPlainly_failAnywhere (Cause.isPlain_invalidLength index single)

theorem isPlain_of_addMember
    {draft : Draft σ}
    {name : String}
    {content : Json}
    {cause : Cause}
    (failed : addMember fields draft name content = .error cause) :
    cause.IsPlain := by
  unfold addMember at failed
  split at failed
  · cases failed
  · rename_i field found
    have known := plainly field (List.mem_of_find?_eq_some found)
    split at failed
    · cases failed
      exact Cause.isPlain_duplicateField known.name
    · obtain undecoded | ⟨store, -, stored⟩ := Effect.bind_eq_error_iff.mp failed
      · exact known.decoder.fromJson undecoded
      · cases stored

theorem isPlain_of_addMembers
    {members : List (String × Json)}
    {draft : Draft σ}
    {cause : Cause}
    (failed : members.foldlM
      (fun draft (member : String × Json) => addMember fields draft member.1 member.2) draft =
        .error cause) :
    cause.IsPlain := by
  induction members generalizing draft with
  | nil => cases failed
  | cons member rest inductionHypothesis =>
    rw [List.foldlM_cons] at failed
    obtain here | ⟨next, -, later⟩ := Effect.bind_eq_error_iff.mp failed
    · exact isPlain_of_addMember plainly here
    · exact inductionHypothesis later

theorem isPlain_of_addItems
    {expecting : String}
    (single : IsSingleLine expecting)
    {length index : Nat}
    {items : List Json}
    {value : σ}
    {cause : Cause}
    (failed : addItems expecting length fields index items value = .error cause) :
    cause.IsPlain := by
  induction fields generalizing index items value with
  | nil =>
    cases items with
    | nil => cases failed
    | cons item items =>
      cases failed
      exact Cause.isPlain_invalidLength length (by decide)
  | cons field rest inductionHypothesis =>
    obtain ⟨here, further⟩ := List.forall_mem_cons.mp plainly
    cases items with
    | nil =>
      rw [addItems] at failed
      split at failed
      · exact inductionHypothesis further failed
      · cases failed
        exact Cause.isPlain_invalidLength index single
    | cons item items =>
      rw [addItems] at failed
      obtain undecoded | ⟨store, -, later⟩ := Effect.bind_eq_error_iff.mp failed
      · exact here.decoder.fromJson undecoded
      · exact inductionHypothesis further later

theorem failsPlainly_record
    {name : String}
    (single : IsSingleLine name)
    (initial : σ) :
    FailsPlainly (record name initial fields) := by
  have expecting : IsSingleLine ("struct " ++ name) := by simp +decide [single]
  have expectingLength : IsSingleLine (lengthText name fields.length) := by
    unfold lengthText
    split <;> simp +decide [single]
  constructor
  · refine Reader.failsPlainly_valueStart.bind fun first => ?_
    split
    · exact ((failsPlainly_readItems plainly expectingLength _ _ _).enclosed
        Reader.failsPlainly_closeList).placed
    split
    · exact ((failsPlainly_recordMembers plainly initial).enclosed
        Reader.failsPlainly_closeObject).placed
    · exact Reader.failsPlainly_failType expecting first
  · intro document cause failed
    cases document with
    | object members =>
      obtain unread | ⟨draft, -, incomplete⟩ := Effect.bind_eq_error_iff.mp failed
      · exact isPlain_of_addMembers plainly unread
      · exact isPlain_of_complete plainly incomplete
    | array items => exact isPlain_of_addItems plainly expectingLength failed
    | _ =>
      cases failed
      exact Cause.isPlain_invalidType _ expecting

end Records

/-- A text that cannot be decoded is refused on a single line. -/
theorem FailsPlainly.parse
    {decoder : Decoder α}
    (plainly : FailsPlainly decoder)
    {text : String}
    {fault : Fault}
    (failed : decoder.parse text = .error fault) :
    IsSingleLine fault.message :=
  Fault.isSingleLine_message (plainly.fromText.run failed)

end Decoder
end QualityGate
