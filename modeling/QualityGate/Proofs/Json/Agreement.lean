import QualityGate.Decoder
import Mathlib.Data.List.Forall2

/-!
# Documents that are read alike

Two documents that differ only in the contents of some fields give records that differ only in what
is made of these contents, or they give the same fault.  It is enough to know this of each field.
-/

namespace QualityGate
namespace Decoder

variable {α β σ : Type}

/-- Two results are the same fault, or related values. -/
inductive Agree (related : α → β → Prop) : Except Cause α → Except Cause β → Prop
  | fault (cause : Cause) : Agree related (.error cause) (.error cause)
  | value {first : α} {second : β} (isRelated : related first second) :
      Agree related (.ok first) (.ok second)

theorem Agree.bind
    {γ δ : Type}
    {related : α → β → Prop}
    {furtherRelated : γ → δ → Prop}
    {first : Except Cause α}
    {second : Except Cause β}
    {next : α → Except Cause γ}
    {otherNext : β → Except Cause δ}
    (agree : Agree related first second)
    (further : ∀ value other, related value other →
      Agree furtherRelated (next value) (otherNext other)) :
    Agree furtherRelated (first >>= next) (second >>= otherNext) := by
  cases agree with
  | fault cause => exact .fault cause
  | value isRelated => exact further _ _ isRelated

theorem Agree.map
    {γ δ : Type}
    {related : α → β → Prop}
    {changedRelated : γ → δ → Prop}
    {first : Except Cause α}
    {second : Except Cause β}
    {change : α → γ}
    {otherChange : β → δ}
    (agree : Agree related first second)
    (changes : ∀ value other, related value other →
      changedRelated (change value) (otherChange other)) :
    Agree changedRelated (first.map change) (second.map otherChange) := by
  cases agree with
  | fault cause => exact .fault cause
  | value isRelated => exact .value (changes _ _ isRelated)

theorem Agree.toOption
    {related : α → β → Prop}
    {first : Except Cause α}
    {second : Except Cause β}
    (agree : Agree related first second) :
    Option.Rel related first.toOption second.toOption := by
  cases agree with
  | fault cause => exact .none
  | value isRelated => exact .some isRelated

/-- Steps that agree on related items do so one after the other. -/
theorem Agree.foldlM
    {γ δ : Type}
    {related : α → β → Prop}
    {itemsRelated : γ → δ → Prop}
    {step : α → γ → Except Cause α}
    {otherStep : β → δ → Except Cause β}
    (steps : ∀ item other, itemsRelated item other → ∀ state otherState,
      related state otherState → Agree related (step state item) (otherStep otherState other))
    {items : List γ}
    {others : List δ}
    (allRelated : List.Forall₂ itemsRelated items others)
    {state : α}
    {otherState : β}
    (statesRelated : related state otherState) :
    Agree related (items.foldlM step state) (others.foldlM otherStep otherState) := by
  induction allRelated generalizing state otherState with
  | nil => exact .value statesRelated
  | cons here further inductionHypothesis =>
    rw [List.foldlM_cons, List.foldlM_cons]
    exact (steps _ _ here _ _ statesRelated).bind fun _ _ => inductionHypothesis

/-- A result agrees with itself where values are related to themselves. -/
theorem Agree.refl
    {related : α → α → Prop}
    (reflexive : ∀ value, related value value)
    (result : Except Cause α) :
    Agree related result result := by
  cases result with
  | error cause => exact .fault cause
  | ok value => exact .value (reflexive value)

section Records

variable (alike : String → Json → Json → Prop) (related : σ → σ → Prop)

/-- Contents of the field that are alike change related records in a related way. -/
def Field.Respects (field : Field σ) : Prop :=
  ∀ name, field.answersTo name = true → ∀ content other, alike name content other →
    Agree (fun store otherStore => ∀ value otherValue, related value otherValue →
        related (store value) (otherStore otherValue))
      (field.decoder.fromJson content) (field.decoder.fromJson other)

/-- The items of two arrays are alike, each under the name of its field.  Items beyond the fields
are the same. -/
inductive ItemsAlike : List String → List Json → List Json → Prop
  | nil (names : List String) : ItemsAlike names [] []
  | cons {name : String} {names : List String} {item other : Json} {items others : List Json}
      (here : alike name item other) (further : ItemsAlike names items others) :
      ItemsAlike (name :: names) (item :: items) (other :: others)
  | beyond (items : List Json) : ItemsAlike [] items items

/-- Two documents are written in the same form, and what stands under a name is alike. -/
inductive RecordsAlike (names : List String) : Json → Json → Prop
  | same (document : Json) : RecordsAlike names document document
  | object {members others : List (String × Json)}
      (membersAlike : List.Forall₂ (fun member other =>
        other.1 = member.1 ∧ alike member.1 member.2 other.2) members others) :
      RecordsAlike names (.object members) (.object others)
  | array {items others : List Json} (itemsAlike : ItemsAlike alike names items others) :
      RecordsAlike names (.array items) (.array others)

variable {alike related} {fields : List (Field σ)}

theorem ItemsAlike.length_eq
    {names : List String}
    {items others : List Json}
    (itemsAlike : ItemsAlike alike names items others) :
    others.length = items.length := by
  induction itemsAlike with
  | nil names => rfl
  | cons here further inductionHypothesis =>
    rw [List.length_cons, List.length_cons, inductionHypothesis]
  | beyond items => rfl

/-- Drafts with related values and the same fields given. -/
structure DraftsRelated (related : σ → σ → Prop) (draft other : Draft σ) : Prop where
  value : related draft.value other.value
  given : other.given = draft.given

theorem agree_addMember
    (respects : ∀ field ∈ fields, field.Respects alike related)
    {name : String}
    {content other : Json}
    (contentAlike : alike name content other)
    {draft otherDraft : Draft σ}
    (draftsRelated : DraftsRelated related draft otherDraft) :
    Agree (DraftsRelated related) (addMember fields draft name content)
      (addMember fields otherDraft name other) := by
  unfold addMember
  rw [draftsRelated.given]
  cases known : fields.find? fun field => field.answersTo name with
  | none => exact .value draftsRelated
  | some field =>
    dsimp only
    split
    · exact .fault _
    · have answers := List.find?_some known
      have fieldAgrees := respects field (List.mem_of_find?_eq_some known) name answers content
        other contentAlike
      exact fieldAgrees.bind fun store otherStore stores =>
        .value ⟨stores _ _ draftsRelated.value, rfl⟩

theorem agree_complete
    {draft otherDraft : Draft σ}
    (draftsRelated : DraftsRelated related draft otherDraft) :
    Agree related (complete fields draft) (complete fields otherDraft) := by
  rw [complete, complete, draftsRelated.given]
  split
  · exact .fault _
  · exact .value draftsRelated.value

theorem agree_addItems
    (expecting : String)
    (length : Nat)
    (respects : ∀ field ∈ fields, field.Respects alike related)
    {items others : List Json}
    (itemsAlike : ItemsAlike alike (fields.map Field.name) items others)
    (index : Nat)
    {value otherValue : σ}
    (isRelated : related value otherValue) :
    Agree related (addItems expecting length fields index items value)
      (addItems expecting length fields index others otherValue) := by
  induction fields generalizing items others index value otherValue with
  | nil =>
    cases itemsAlike with
    | nil => exact .value isRelated
    | beyond =>
      cases items with
      | nil => exact .value isRelated
      | cons item items => exact .fault _
  | cons field rest inductionHypothesis =>
    obtain ⟨here, further⟩ := List.forall_mem_cons.mp respects
    cases itemsAlike with
    | nil =>
      rw [addItems, addItems]
      split
      · exact inductionHypothesis further (.nil _) (index + 1) isRelated
      · exact .fault _
    | cons itemAlike itemsAlike =>
      have answers : field.answersTo field.name = true := by simp [Field.answersTo]
      rw [addItems, addItems]
      refine (here field.name answers _ _ itemAlike).bind fun store otherStore stores => ?_
      exact inductionHypothesis further itemsAlike (index + 1) (stores _ _ isRelated)

/-- Documents with the same form and alike contents are read as related records. -/
theorem agree_record
    (name : String)
    (respects : ∀ field ∈ fields, field.Respects alike related)
    (reflexive : ∀ value, related value value)
    (initial : σ)
    {document other : Json}
    (recordsAlike : RecordsAlike alike (fields.map Field.name) document other) :
    Agree related ((record name initial fields).fromJson document)
      ((record name initial fields).fromJson other) := by
  cases recordsAlike with
  | same => exact .refl reflexive _
  | object membersAlike =>
    have start : DraftsRelated related ⟨initial, []⟩ ⟨initial, []⟩ := ⟨reflexive initial, rfl⟩
    refine (Agree.foldlM ?_ membersAlike start).bind fun _ _ => agree_complete
    rintro ⟨key, content⟩ ⟨otherKey, otherContent⟩ ⟨sameKey, contentAlike⟩ draft otherDraft
    cases sameKey
    exact agree_addMember respects contentAlike
  | @array items others itemsAlike =>
    have agree := agree_addItems (lengthText name fields.length) items.length respects itemsAlike 0
      (reflexive initial)
    simp only [record]
    rw [itemsAlike.length_eq]
    exact agree

end Records

end Decoder
end QualityGate
