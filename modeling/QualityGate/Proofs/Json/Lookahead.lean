import QualityGate.Proofs.Json.Reads
import Mathlib.Data.List.TakeWhile

/-!
# How far readers look ahead

A reader that gives a value has decided on it by the characters that it takes and by the next one.
With other text behind that one it gives the same value.
-/

namespace QualityGate
namespace Reader

variable {α β σ : Type}

/-- From a cursor, the reader gives a value and stops at another cursor. -/
def Returns (reader : Reader α) (cursor : Cursor) (value : α) (after : Cursor) : Prop :=
  ExceptT.run reader cursor = (.ok value, after)

/-- The characters stand between two cursors of one depth. -/
structure Spans (cursor : Cursor) (taken : List Char) (after : Cursor) : Prop where
  rest : cursor.rest = taken ++ after.rest
  depth : after.depth = cursor.depth

/-- What the reader gives depends on the characters that it takes and on the next one. -/
def IsLocal (reader : Reader α) : Prop :=
  ∀ ⦃cursor value after⦄, Returns reader cursor value after →
    ∃ taken, Spans cursor taken after ∧
      ∀ behind, behind ≠ [] → behind.head? = after.rest.head? →
        Reads reader cursor.depth (taken ++ behind) value behind

/-- The reader gives no value, wherever it is used. -/
def Fails (reader : Reader α) : Prop :=
  ∀ cursor value after, ¬Returns reader cursor value after

/-! ## Composition -/

section Composition

variable {reader : Reader α} {next : α → Reader β}

/-- A composition gives a value where both of its parts do. -/
theorem Returns.of_bind
    {cursor after : Cursor}
    {result : β}
    (returns : Returns (reader >>= next) cursor result after) :
    ∃ value middle, Returns reader cursor value middle ∧ Returns (next value) middle result after := by
  unfold Returns at returns ⊢
  rw [ExceptT.run_bind, bind_apply] at returns
  cases found : ExceptT.run reader cursor with
  | mk outcome middle =>
    rw [found] at returns
    cases outcome with
    | ok value => exact ⟨value, middle, rfl, returns⟩
    | error fault => cases returns

theorem Returns.of_pure
    {cursor after : Cursor}
    {value result : α}
    (returns : Returns (pure value) cursor result after) :
    value = result ∧ cursor = after := by
  cases returns
  exact ⟨rfl, rfl⟩

/-- A value comes from the reader, or from the handler of its fault. -/
theorem Returns.of_tryCatch
    {handler : Fault → Reader α}
    {cursor after : Cursor}
    {value : α}
    (returns : Returns (tryCatch reader handler) cursor value after) :
    Returns reader cursor value after ∨
      ∃ fault middle, Returns (handler fault) middle value after := by
  unfold Returns at returns ⊢
  rw [ExceptT.run_tryCatch, bind_apply] at returns
  cases found : ExceptT.run reader cursor with
  | mk outcome middle =>
    rw [found] at returns
    cases outcome with
    | ok value => exact .inl returns
    | error fault => exact .inr ⟨fault, middle, returns⟩

theorem Returns.of_map
    {change : α → β}
    {cursor after : Cursor}
    {result : β}
    (returns : Returns (change <$> reader) cursor result after) :
    ∃ value, Returns reader cursor value after ∧ change value = result := by
  rw [← bind_pure_comp] at returns
  obtain ⟨value, middle, first, second⟩ := returns.of_bind
  obtain ⟨rfl, rfl⟩ := second.of_pure
  exact ⟨value, first, rfl⟩

theorem Spans.refl (cursor : Cursor) : Spans cursor [] cursor :=
  ⟨rfl, rfl⟩

theorem Spans.append
    {cursor middle after : Cursor}
    {taken others : List Char}
    (first : Spans cursor taken middle)
    (second : Spans middle others after) :
    Spans cursor (taken ++ others) after :=
  ⟨by rw [first.rest, second.rest, List.append_assoc], second.depth.trans first.depth⟩

theorem fails_throw (fault : Fault) : Fails (throw fault : Reader α) :=
  fun _ _ _ returns => by cases returns

theorem Fails.of_bind (fails : ∀ value, Fails (next value)) : Fails (reader >>= next) := by
  intro cursor result after returns
  obtain ⟨value, middle, -, second⟩ := returns.of_bind
  exact fails value middle result after second

theorem fails_failHere (cause : Cause) : Fails (failHere cause : Reader α) :=
  .of_bind fun _ => fails_throw _

theorem fails_failBehind (cause : Cause) : Fails (failBehind cause : Reader α) :=
  .of_bind fun _ => fails_throw _

theorem fails_failAnywhere (cause : Cause) : Fails (failAnywhere cause : Reader α) :=
  fails_throw _

theorem failHere_bind (cause : Cause) : (failHere cause >>= next) = failHere cause := rfl

theorem failBehind_bind (cause : Cause) : (failBehind cause >>= next) = failBehind cause := rfl

theorem Fails.isLocal (fails : Fails reader) : IsLocal reader :=
  fun cursor value after returns => absurd returns (fails cursor value after)

theorem isLocal_pure (value : α) : IsLocal (pure value : Reader α) := by
  intro cursor result after returns
  obtain ⟨rfl, rfl⟩ := returns.of_pure
  exact ⟨[], Spans.refl cursor, fun behind _ _ => Reads.pure value⟩

theorem IsLocal.bind
    (first : IsLocal reader)
    (second : ∀ value, IsLocal (next value)) :
    IsLocal (reader >>= next) := by
  intro cursor result after returns
  obtain ⟨value, middle, firstReturns, secondReturns⟩ := returns.of_bind
  obtain ⟨taken, spans, reads⟩ := first firstReturns
  obtain ⟨others, further, readsOn⟩ := second value secondReturns
  refine ⟨taken ++ others, spans.append further, fun behind nonempty sameHead => ?_⟩
  rw [List.append_assoc]
  have later := readsOn behind nonempty sameHead
  rw [spans.depth] at later
  refine (reads (others ++ behind) (by simp [nonempty]) ?_).bind later
  rw [further.rest, List.head?_append, List.head?_append, sameHead]

theorem IsLocal.map
    (first : IsLocal reader)
    (change : α → β) :
    IsLocal (change <$> reader) := by
  rw [← bind_pure_comp]
  exact first.bind fun value => isLocal_pure (change value)

end Composition

/-! ## Characters -/

theorem isLocal_skip : IsLocal skip := by
  rintro ⟨line, column, rest, depth⟩ value after ⟨⟩
  cases rest with
  | nil =>
    refine ⟨[], ⟨rfl, rfl⟩, fun behind nonempty sameHead => ?_⟩
    exact absurd (List.head?_eq_none_iff.mp sameHead) nonempty
  | cons character rest =>
    obtain ⟨endLine, endColumn, advanced⟩ := exists_advance line column depth character rest
    refine ⟨[character], ?_, fun behind _ _ => reads_skip character⟩
    constructor <;> rw [advanced]
    rfl

theorem isLocal_peek? : IsLocal peek? := by
  rintro cursor value after ⟨⟩
  refine ⟨[], Spans.refl cursor, fun behind _ sameHead => ?_⟩
  rw [← sameHead]
  exact reads_peek?

/-- The accepted characters at the front are taken, and the next one is not accepted. -/
theorem Returns.exists_accepted
    {accepts : Char → Bool}
    {cursor after : Cursor}
    (returns : Returns (skipWhile accepts) cursor () after) :
    ∃ taken, Spans cursor taken after ∧ (∀ character ∈ taken, accepts character = true) ∧
      ∀ character ∈ after.rest.head?, accepts character = false := by
  obtain ⟨line, column, rest, depth⟩ := cursor
  cases returns
  have allAccepted : ∀ character ∈ rest.takeWhile accepts, accepts character = true :=
    fun character member => List.mem_takeWhile_imp member
  have stops : ∀ character ∈ (rest.dropWhile accepts).head?, accepts character = false := by
    intro character isFirst
    have refused := List.head?_dropWhile_not accepts rest
    rw [isFirst] at refused
    exact refused
  obtain ⟨endLine, endColumn, skipped⟩ := exists_skipFrom allAccepted stops line column depth
  rw [List.takeWhile_append_dropWhile] at skipped
  dsimp only
  rw [skipped]
  exact ⟨rest.takeWhile accepts, ⟨List.takeWhile_append_dropWhile.symm, rfl⟩, allAccepted, stops⟩

theorem isLocal_skipWhile (accepts : Char → Bool) : IsLocal (skipWhile accepts) := by
  intro cursor value after returns
  obtain ⟨taken, spans, allAccepted, stops⟩ := Returns.exists_accepted returns
  refine ⟨taken, spans, fun behind _ sameHead => reads_skipWhile allAccepted ?_⟩
  rw [sameHead]
  exact stops

theorem isLocal_token? : IsLocal token? :=
  (isLocal_skipWhile isLayout).bind fun _ => isLocal_peek?

/-- The token that is found stands at the cursor, behind layout. -/
theorem Returns.exists_layout
    {cursor after : Cursor}
    {token : Option Char}
    (returns : Returns token? cursor token after) :
    ∃ layout, Spans cursor layout after ∧ (∀ character ∈ layout, isLayout character = true) ∧
      after.rest.head? = token ∧ ∀ character ∈ token, isLayout character = false := by
  obtain ⟨_, middle, skipped, peeked⟩ := returns.of_bind
  obtain ⟨layout, spans, allLayout, stops⟩ := Returns.exists_accepted skipped
  cases peeked
  exact ⟨layout, spans, allLayout, rfl, stops⟩

theorem Returns.head?_of_token
    {cursor after : Cursor}
    {token : Option Char}
    (returns : Returns token? cursor token after) :
    after.rest.head? = token := by
  obtain ⟨_, -, -, isNext, -⟩ := returns.exists_layout
  exact isNext

theorem isLocal_word (letters : List Char) : IsLocal (word letters) := by
  induction letters with
  | nil => exact isLocal_pure ()
  | cons expected rest inductionHypothesis =>
    refine isLocal_peek?.bind fun token => ?_
    cases token with
    | none => exact (fails_failHere _).isLocal
    | some character =>
      dsimp only
      split
      · exact isLocal_skip.bind fun _ => inductionHypothesis
      · exact (fails_failBehind _).isLocal

/-! ## Texts -/

theorem exists_digits_of_hexEscape
    {cursor after : Cursor}
    {value : Nat}
    (returns : Returns hexEscape cursor value after) :
    ∃ digits, hexEscapeValue? digits = some value ∧ Spans cursor digits after := by
  obtain ⟨_, _, ⟨⟩, returns⟩ := returns.of_bind
  dsimp only at returns
  split at returns
  · obtain ⟨_, _, ⟨⟩, returns⟩ := returns.of_bind
    split at returns
    · rename_i isValue
      obtain ⟨rfl, rfl⟩ := returns.of_pure
      obtain ⟨four, single⟩ := single_of_hexEscapeValue? isValue
      obtain ⟨line, column, rest, depth⟩ := cursor
      obtain ⟨endLine, endColumn, advanced⟩ :=
        exists_advanceBytes single line column depth (rest.drop 4)
      rw [four, List.take_append_drop] at advanced
      refine ⟨rest.take 4, isValue, ?_, ?_⟩
      · rw [advanced]
        exact (List.take_append_drop 4 rest).symm
      · rw [advanced]
    · exact absurd returns (fails_failHere _ _ _ _)
  · exact absurd returns (Fails.of_bind (fun _ => fails_failHere _) _ _ _)

theorem isLocal_hexEscape : IsLocal hexEscape := by
  intro cursor value after returns
  obtain ⟨digits, isValue, spans⟩ := exists_digits_of_hexEscape returns
  exact ⟨digits, spans, fun behind _ _ => reads_hexEscape isValue⟩

theorem isLocal_surrogateLink (expected : Char) : IsLocal (surrogateLink expected) := by
  refine isLocal_peek?.bind fun token => ?_
  cases token with
  | none => exact (fails_failHere _).isLocal
  | some character =>
    dsimp only
    split
    · exact isLocal_skip
    · exact (Fails.of_bind fun _ => fails_failHere _).isLocal

theorem isLocal_unicodeEscape : IsLocal unicodeEscape := by
  refine isLocal_hexEscape.bind fun first => ?_
  split
  · exact (fails_failHere _).isLocal
  split
  · exact isLocal_pure _
  refine (isLocal_surrogateLink '\\').bind fun _ => (isLocal_surrogateLink 'u').bind fun _ =>
    isLocal_hexEscape.bind fun second => ?_
  split
  · exact (fails_failHere _).isLocal
  · exact isLocal_pure _

theorem isLocal_escapeLetter : IsLocal escapeLetter := by
  refine isLocal_peek?.bind fun token => ?_
  cases token with
  | none => exact (fails_failHere _).isLocal
  | some letter =>
    dsimp only
    split
    · exact isLocal_skip.bind fun _ => isLocal_pure letter
    · exact (Fails.of_bind fun _ => fails_failHere _).isLocal

theorem isLocal_escape : IsLocal escape := by
  refine isLocal_escapeLetter.bind fun letter => ?_
  split
  · exact isLocal_pure _
  · exact isLocal_unicodeEscape

/-! ## Repeated steps -/

theorem IsLocal.length_le
    {reader : Reader α}
    (isLocal : IsLocal reader)
    {cursor after : Cursor}
    {value : α}
    (returns : Returns reader cursor value after) :
    after.rest.length ≤ cursor.rest.length := by
  obtain ⟨taken, spans, -⟩ := isLocal returns
  rw [spans.rest, List.length_append]
  exact Nat.le_add_left _ _

theorem Returns.of_peek
    {next : Option Char → Reader α}
    {cursor after : Cursor}
    {value : α}
    (returns : Returns (peek? >>= next) cursor value after) :
    Returns (next cursor.rest.head?) cursor value after := by
  obtain ⟨_, _, ⟨⟩, further⟩ := returns.of_bind
  exact further

/-- Where a character is left, it is taken. -/
theorem Returns.of_skip
    {next : Unit → Reader α}
    {cursor after : Cursor}
    {value : α}
    {character : Char}
    (isNext : cursor.rest.head? = some character)
    (returns : Returns (skip >>= next) cursor value after) :
    ∃ middle, middle.rest.length < cursor.rest.length ∧ Returns (next ()) middle value after := by
  obtain ⟨_, middle, skipped, further⟩ := returns.of_bind
  obtain ⟨line, column, rest, depth⟩ := cursor
  obtain ⟨others, rfl⟩ := List.head?_eq_some_iff.mp isNext
  obtain ⟨endLine, endColumn, advanced⟩ := exists_advance line column depth character others
  cases skipped
  rw [advanced] at further
  exact ⟨_, Nat.lt_succ_self _, further⟩

/-- A reader that is bounded in its steps depends on the characters that it takes and on the next
one, as long as the bound is what so many characters need. -/
def IsLocalIn (steps : Nat → Reader α) (need : Nat → Nat) (bound : Nat) : Prop :=
  ∀ ⦃cursor value after⦄, Returns (steps bound) cursor value after →
    ∃ taken, Spans cursor taken after ∧
      ∀ enough, need taken.length ≤ enough →
        ∀ behind, behind ≠ [] → behind.head? = after.rest.head? →
          Reads (steps enough) cursor.depth (taken ++ behind) value behind

theorem Fails.isLocalIn
    {steps : Nat → Reader α}
    {bound : Nat}
    (fails : Fails (steps bound))
    (need : Nat → Nat) :
    IsLocalIn steps need bound :=
  fun cursor value after returns => absurd returns (fails cursor value after)

theorem IsLocal.isLocalIn
    {reader : Reader α}
    (isLocal : IsLocal reader)
    (need : Nat → Nat)
    (bound : Nat) :
    IsLocalIn (fun _ => reader) need bound := by
  intro cursor value after returns
  obtain ⟨taken, spans, reads⟩ := isLocal returns
  exact ⟨taken, spans, fun _ _ => reads⟩

/-- One step, and the others behind it.  What the others need is less than what all of them need,
for the step takes characters or leads closer to the end. -/
theorem IsLocal.isLocalIn_succ
    {steps : Nat → Reader β}
    {first : Reader α}
    {next : α → Nat → Reader β}
    {need : Nat → Nat}
    {bound : Nat}
    (needNext : α → Nat → Nat)
    (isLocal : IsLocal first)
    (further : ∀ value, IsLocalIn (next value) (needNext value) bound)
    (steps_succ : ∀ bound, steps (bound + 1) = first >>= fun value => next value bound)
    (cost : ∀ ⦃cursor value after⦄, Returns first cursor value after →
      ∀ taken, needNext value taken < need (cursor.rest.length - after.rest.length + taken)) :
    IsLocalIn steps need (bound + 1) := by
  intro cursor result after returns
  rw [steps_succ] at returns
  obtain ⟨value, middle, firstReturns, nextReturns⟩ := returns.of_bind
  obtain ⟨taken, spans, reads⟩ := isLocal firstReturns
  obtain ⟨others, otherSpans, otherReads⟩ := further value nextReturns
  refine ⟨taken ++ others, spans.append otherSpans, fun enough needed behind nonempty sameHead => ?_⟩
  have less := cost firstReturns others.length
  rw [spans.rest, List.length_append, Nat.add_sub_cancel, ← List.length_append] at less
  obtain ⟨fewer, rfl⟩ := Nat.exists_eq_add_of_le' (Nat.one_le_of_lt (less.trans_le needed))
  have later := otherReads fewer (Nat.le_of_lt_succ (less.trans_le needed)) behind nonempty sameHead
  rw [spans.depth] at later
  rw [List.append_assoc, steps_succ]
  refine (reads (others ++ behind) (by simp [nonempty]) ?_).bind later
  rw [otherSpans.rest, List.head?_append, List.head?_append, sameHead]

/-- The bound that a reader takes from the text before it is always enough. -/
theorem isLocal_of_bounds
    {steps : Nat → Reader α}
    {need : Nat → Nat}
    (bounds : Nat → Nat)
    (isLocalIn : ∀ bound, IsLocalIn steps need bound)
    (enough : ∀ taken further, need taken ≤ bounds (taken + further)) :
    IsLocal (get >>= fun cursor => steps (bounds cursor.rest.length)) := by
  intro cursor value after returns
  obtain ⟨_, _, ⟨⟩, returns⟩ := returns.of_bind
  obtain ⟨taken, spans, reads⟩ := isLocalIn _ returns
  refine ⟨taken, spans, fun behind nonempty sameHead => Reads.get_bind fun _ _ => ?_⟩
  refine reads _ ?_ behind nonempty sameHead
  rw [List.length_append]
  exact enough taken.length behind.length

/-! ## Contents of texts -/

/-- What a character of a text behind its opening quote stands for: nothing if it is the closing
quote. -/
def textCharacter? (character : Char) : Reader (Option Char) :=
  if character == '"' then pure none
  else if character == '\\' then some <$> escape
  else if character.toNat < 32 then failHere .controlCharacter
  else pure (some character)

/-- One character of a text, or nothing at its closing quote. -/
def textStep : Reader (Option Char) := do
  match ← peek? with
  | none => failHere .endInText
  | some character =>
    skip
    textCharacter? character

theorem textCharacters_succ (bound : Nat) (reversed : List Char) :
    textCharacters (bound + 1) reversed = textStep >>= fun character? =>
      match character? with
      | none => pure reversed.reverse
      | some character => textCharacters bound (character :: reversed) := by
  rw [textCharacters, textStep, bind_assoc]
  refine congrArg _ (funext fun token => ?_)
  cases token with
  | none => exact (failHere_bind _).symm
  | some character =>
    dsimp only
    rw [bind_assoc]
    refine congrArg _ (funext fun _ => ?_)
    unfold textCharacter?
    split
    · rw [pure_bind]
    split
    · rw [bind_map_left]
    split
    · rw [failHere_bind]
    · rw [pure_bind]

theorem isLocal_textCharacter? (character : Char) : IsLocal (textCharacter? character) := by
  unfold textCharacter?
  split
  · exact isLocal_pure none
  split
  · exact isLocal_escape.map some
  split
  · exact (fails_failHere _).isLocal
  · exact isLocal_pure _

theorem isLocal_textStep : IsLocal textStep := by
  refine isLocal_peek?.bind fun token => ?_
  cases token with
  | none => exact (fails_failHere _).isLocal
  | some character => exact isLocal_skip.bind fun _ => isLocal_textCharacter? character

theorem Returns.length_lt_of_textStep
    {cursor after : Cursor}
    {character? : Option Char}
    (returns : Returns textStep cursor character? after) :
    after.rest.length < cursor.rest.length := by
  have further := Returns.of_peek returns
  cases isNext : cursor.rest.head? with
  | none =>
    rw [isNext] at further
    exact absurd further (fails_failHere _ _ _ _)
  | some character =>
    rw [isNext] at further
    obtain ⟨middle, shorter, later⟩ := Returns.of_skip isNext further
    exact ((isLocal_textCharacter? character).length_le later).trans_lt shorter

theorem isLocalIn_textCharacters (bound : Nat) (reversed : List Char) :
    IsLocalIn (textCharacters · reversed) id bound := by
  induction bound generalizing reversed with
  | zero => exact (fails_failHere _).isLocalIn id
  | succ bound inductionHypothesis =>
    refine isLocal_textStep.isLocalIn_succ (fun _ => id) (fun character? => ?_)
      (fun bound => textCharacters_succ bound reversed) (fun cursor value after returns taken => ?_)
    · cases character? with
      | none => exact (isLocal_pure reversed.reverse).isLocalIn id bound
      | some character => exact inductionHypothesis (character :: reversed)
    · have shorter := returns.length_lt_of_textStep
      simp only [id_eq]
      omega

theorem isLocal_text : IsLocal text := by
  have characters : IsLocal (get >>= fun cursor => textCharacters (cursor.rest.length + 1) []) :=
    isLocal_of_bounds (· + 1) (fun bound => isLocalIn_textCharacters bound [])
      fun taken further => by simp only [id_eq]; omega
  exact characters.bind fun _ => isLocal_pure _

/-- Something is taken of every text that is read, at least its closing quote. -/
theorem Returns.length_lt_of_text
    {cursor after : Cursor}
    {value : String}
    (returns : Returns text cursor value after) :
    after.rest.length < cursor.rest.length := by
  obtain ⟨_, _, ⟨⟩, returns⟩ := returns.of_bind
  obtain ⟨characters, last, read, done⟩ := returns.of_bind
  obtain ⟨-, rfl⟩ := done.of_pure
  rw [textCharacters_succ] at read
  obtain ⟨character?, middle, step, further⟩ := read.of_bind
  have shorter := step.length_lt_of_textStep
  refine Nat.lt_of_le_of_lt ?_ shorter
  cases character? with
  | none => exact (isLocal_pure [].reverse).length_le further
  | some character =>
    obtain ⟨taken, spans, -⟩ := isLocalIn_textCharacters _ _ further
    rw [spans.rest, List.length_append]
    exact Nat.le_add_left _ _

theorem isLocal_key : IsLocal key :=
  isLocal_skip.bind fun _ => isLocal_text

theorem Returns.length_lt_of_key
    {cursor after : Cursor}
    {name : String}
    (returns : Returns key cursor name after) :
    after.rest.length < cursor.rest.length := by
  obtain ⟨_, middle, skipped, read⟩ := returns.of_bind
  exact (Returns.length_lt_of_text read).trans_le (isLocal_skip.length_le skipped)

theorem isLocal_colon : IsLocal colon := by
  refine isLocal_token?.bind fun token => ?_
  split
  · exact isLocal_skip
  · exact (fails_failBehind _).isLocal
  · exact (fails_failBehind _).isLocal

end Reader
end QualityGate
