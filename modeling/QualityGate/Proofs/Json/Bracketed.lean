import QualityGate.Proofs.Json.Record
import QualityGate.Proofs.Json.Skipping
import QualityGate.Proofs.Text.Blanks

/-!
# Records end with their bracket

What is read for a record stands between two brackets, and nothing behind the closing one has a part
in it.  So a text of which a record is read can lose the blanks at its ends.
-/

namespace QualityGate
namespace Reader

variable {α β σ : Type}

/-! ## Brackets -/

/-- What the reader gives depends on nothing behind the character with which it ends. -/
def EndsWith (reader : Reader α) (closing : Char) : Prop :=
  ∀ ⦃cursor value after⦄, Returns reader cursor value after →
    ∃ taken, Spans cursor (taken ++ [closing]) after ∧
      ∀ behind, Reads reader cursor.depth (taken ++ closing :: behind) value behind

/-- A reader that takes one token and fails at all others ends with that one. -/
theorem endsWith_token
    {next : Option Char → Reader Unit}
    {closing : Char}
    (closes : next (some closing) = skip)
    (fails : ∀ token, token ≠ some closing → Fails (next token)) :
    EndsWith (token? >>= next) closing := by
  intro cursor value after returns
  obtain ⟨token, middle, tokenReturns, further⟩ := returns.of_bind
  by_cases isClosing : token = some closing
  · subst isClosing
    have isNext := tokenReturns.head?_of_token
    obtain ⟨taken, spans, reads⟩ := isLocal_token? tokenReturns
    refine ⟨taken, spans.append ?_, fun behind => ?_⟩
    · rw [closes] at further
      obtain ⟨line, column, rest, depth⟩ := middle
      obtain ⟨others, rfl⟩ := List.head?_eq_some_iff.mp isNext
      obtain ⟨endLine, endColumn, advanced⟩ := exists_advance line column depth closing others
      cases further
      rw [advanced]
      exact ⟨rfl, rfl⟩
    · refine (reads (closing :: behind) (List.cons_ne_nil _ _) (by rw [isNext]; rfl)).bind ?_
      rw [closes]
      exact reads_skip closing
  · exact absurd further (fails token isClosing _ _ _)

theorem endsWith_closeList : EndsWith closeList ']' := by
  refine endsWith_token rfl fun token other => ?_
  split
  · exact absurd rfl other
  · refine Fails.of_bind fun _ => Fails.of_bind fun next? => ?_
    split
    · exact fails_failBehind _
    · exact fails_failBehind _
  · exact fails_failBehind _
  · exact fails_failBehind _

theorem endsWith_closeObject : EndsWith closeObject '\x7d' := by
  refine endsWith_token rfl fun token other => ?_
  split
  · exact absurd rfl other
  · exact fails_failBehind _
  · exact fails_failBehind _
  · exact fails_failBehind _

theorem isLocal_moreItems (first : Bool) : IsLocal (moreItems first) := by
  refine isLocal_token?.bind fun token => ?_
  split
  · exact (fails_failBehind _).isLocal
  · exact isLocal_pure false
  split
  · exact isLocal_pure true
  split
  · refine isLocal_skip.bind fun _ => isLocal_token?.bind fun next? => ?_
    split
    · exact (fails_failBehind _).isLocal
    · exact isLocal_pure true
    · exact (fails_failBehind _).isLocal
  · exact (fails_failBehind _).isLocal

theorem isLocal_moreMembers (first : Bool) : IsLocal (moreMembers first) := by
  refine isLocal_token?.bind fun token => ?_
  split
  · exact (fails_failBehind _).isLocal
  · exact isLocal_pure false
  split
  · split
    · exact isLocal_pure true
    · exact (fails_failBehind _).isLocal
  split
  · refine isLocal_skip.bind fun _ => isLocal_token?.bind fun next? => ?_
    split
    · exact isLocal_pure true
    · exact (fails_failBehind _).isLocal
    · exact (fails_failBehind _).isLocal
    · exact (fails_failBehind _).isLocal
  · exact (fails_failBehind _).isLocal

/-- One member of an object, or nothing at its closing brace. -/
def memberStep (step : String → σ → Reader σ) (first : Bool) (state : σ) : Reader (Option σ) := do
  if ← moreMembers first then
    let name ← key
    some <$> step name state
  else return none

theorem members_succ (step : String → σ → Reader σ) (bound : Nat) (first : Bool) (state : σ) :
    members step (bound + 1) first state = memberStep step first state >>= fun next? =>
      match next? with
      | none => pure state
      | some next => members step bound false next := by
  rw [members, memberStep, bind_assoc]
  refine congrArg _ (funext fun more => ?_)
  cases more with
  | false => simp
  | true => simp

theorem isLocal_memberStep
    {step : String → σ → Reader σ}
    (isLocal : ∀ name state, IsLocal (step name state))
    (first : Bool)
    (state : σ) :
    IsLocal (memberStep step first state) := by
  refine (isLocal_moreMembers first).bind fun more => ?_
  split
  · exact isLocal_key.bind fun name => (isLocal name state).map some
  · exact isLocal_pure none

theorem Returns.length_lt_of_memberStep
    {step : String → σ → Reader σ}
    (isLocal : ∀ name state, IsLocal (step name state))
    {first : Bool}
    {state next : σ}
    {cursor after : Cursor}
    (returns : Returns (memberStep step first state) cursor (some next) after) :
    after.rest.length < cursor.rest.length := by
  obtain ⟨more, middle, moreReturns, further⟩ := returns.of_bind
  have atMost := (isLocal_moreMembers first).length_le moreReturns
  split at further
  · obtain ⟨name, behind, keyReturns, stepReturns⟩ := further.of_bind
    have shorter := keyReturns.length_lt_of_key
    have further := ((isLocal name state).map some).length_le stepReturns
    omega
  · obtain ⟨⟨⟩, -⟩ := further.of_pure

/-- Every member takes a character, so the characters that are left bound the number of members. -/
theorem isLocalIn_members
    {step : String → σ → Reader σ}
    (isLocal : ∀ name state, IsLocal (step name state))
    (bound : Nat)
    (first : Bool)
    (state : σ) :
    IsLocalIn (members step · first state) (· + 1) bound := by
  induction bound generalizing first state with
  | zero => exact (fails_failBehind _).isLocalIn _
  | succ bound inductionHypothesis =>
    refine (isLocal_memberStep isLocal first state).isLocalIn_succ
      (fun next? taken => if next?.isSome then taken + 1 else 0) (fun next? => ?_)
      (fun bound => members_succ step bound first state)
      (fun cursor next? after returns taken => ?_)
    · cases next? with
      | none => exact (isLocal_pure state).isLocalIn _ bound
      | some next => exact inductionHypothesis false next
    · cases next? with
      | none => exact Nat.succ_pos _
      | some next =>
        have shorter := returns.length_lt_of_memberStep isLocal
        change taken + 1 < cursor.rest.length - after.rest.length + taken + 1
        omega

theorem isLocal_members
    {step : String → σ → Reader σ}
    (isLocal : ∀ name state, IsLocal (step name state))
    (state : σ) :
    IsLocal (get >>= fun cursor => members step (cursor.rest.length + 1) true state) :=
  isLocal_of_bounds (· + 1) (fun bound => isLocalIn_members isLocal bound true state)
    fun taken further => by omega

/-- What is read one level deeper is read behind the opening bracket. -/
theorem Returns.of_nested
    {reader : Reader α}
    {cursor after : Cursor}
    {value : α}
    {opening : Char}
    (isNext : cursor.rest.head? = some opening)
    (returns : Returns (nested reader) cursor value after) :
    ∃ depth inside last, cursor.depth = depth + 1 ∧ 0 < depth ∧ inside.depth = depth ∧
      cursor.rest = opening :: inside.rest ∧ Returns reader inside value last ∧
      after = { last with depth := cursor.depth } := by
  obtain ⟨_, _, ⟨⟩, returns⟩ := returns.of_bind
  dsimp only at returns
  split at returns
  · exact absurd returns (fails_failBehind _ _ _ _)
  rename_i deep
  obtain ⟨_, _, ⟨⟩, returns⟩ := returns.of_bind
  obtain ⟨_, _, ⟨⟩, returns⟩ := returns.of_bind
  have read := returns.of_tryCatch.resolve_right fun ⟨fault, middle, handled⟩ =>
    Fails.of_bind (fun _ => fails_throw fault) _ _ _ handled
  obtain ⟨result, last, found, leaves⟩ := read.of_bind
  obtain ⟨_, _, ⟨⟩, done⟩ := leaves.of_bind
  obtain ⟨rfl, rfl⟩ := done.of_pure
  obtain ⟨line, column, rest, depth⟩ := cursor
  obtain ⟨others, rfl⟩ := List.head?_eq_some_iff.mp isNext
  obtain ⟨endLine, endColumn, advanced⟩ :=
    exists_advance line column (depth - 1) opening others
  dsimp only at deep found
  rw [advanced] at found
  exact ⟨depth - 1, _, last, by dsimp only; omega, by omega, rfl, rfl, found, rfl⟩

/-- A value between brackets comes from its content, and the closing bracket is there. -/
theorem Returns.of_enclosed
    {content : Reader α}
    {close : Reader Unit}
    {cursor after : Cursor}
    {value : α}
    (returns : Returns (enclosed content close) cursor value after) :
    ∃ middle, Returns (nested content) cursor value middle ∧ Returns close middle () after := by
  obtain ⟨result, middle, first, second⟩ := returns.of_bind
  cases result with
  | error fault => exact absurd second (Fails.of_bind (fun _ => fails_throw fault) _ _ _)
  | ok found =>
    obtain ⟨_, last, closes, done⟩ := second.of_bind
    obtain ⟨rfl, rfl⟩ := done.of_pure
    refine ⟨middle, ?_, closes⟩
    obtain inside | ⟨fault, _, handled⟩ := first.of_tryCatch
    · obtain ⟨_, read, ⟨⟩⟩ := inside.of_map
      exact read
    · obtain ⟨⟨⟩, -⟩ := handled.of_pure

/-- What stands between brackets is read again with anything behind it. -/
theorem Returns.exists_enclosed
    {content : Reader α}
    {close : Reader Unit}
    {closing opening : Char}
    (isLocal : IsLocal content)
    (ends : EndsWith close closing)
    {cursor after : Cursor}
    {value : α}
    (isNext : cursor.rest.head? = some opening)
    (returns : Returns (enclosed content close) cursor value after) :
    ∃ taken, Spans cursor (opening :: (taken ++ [closing])) after ∧
      ∀ behind, Reads (enclosed content close) cursor.depth
        (opening :: (taken ++ closing :: behind)) value behind := by
  obtain ⟨middle, inBrackets, closes⟩ := returns.of_enclosed
  obtain ⟨depth, inside, last, cursorDepth, positive, rfl, rest, read, rfl⟩ :=
    inBrackets.of_nested isNext
  obtain ⟨taken, spans, reads⟩ := isLocal read
  obtain ⟨others, closeSpans, closeReads⟩ := ends closes
  have rest_eq : last.rest = others ++ [closing] ++ after.rest := closeSpans.rest
  refine ⟨taken ++ others, ⟨?_, closeSpans.depth⟩, fun behind => ?_⟩
  · rw [rest, spans.rest, rest_eq]
    simp
  · have contentReads := reads (others ++ closing :: behind) (by simp) (by
      rw [rest_eq, List.append_assoc, List.head?_append, List.head?_append]
      rfl)
    have closed := closeReads behind
    dsimp only at closed
    rw [cursorDepth] at closed ⊢
    rw [List.append_assoc]
    exact contentReads.enclosed closed positive opening

theorem Returns.of_placed
    {reader : Reader α}
    {cursor after : Cursor}
    {value : α}
    (returns : Returns (placed reader) cursor value after) :
    Returns reader cursor value after := by
  refine returns.of_tryCatch.resolve_right ?_
  rintro ⟨fault, middle, handled⟩
  split at handled
  · exact fails_throw fault _ _ _ handled
  · exact fails_failHere _ _ _ _ handled

/-! ## Decoders -/

theorem fails_failType (expecting : String) (character : Char) :
    Fails (failType expecting character : Reader α) := by
  unfold failType
  split
  · exact fails_failHere _
  split
  · exact fails_failHere _
  · refine Fails.of_bind fun value? => ?_
    cases value? with
    | none => exact fails_failBehind _
    | some value => exact fails_failHere _

theorem isLocal_valueStart : IsLocal valueStart := by
  refine isLocal_token?.bind fun token => ?_
  cases token with
  | none => exact (fails_failBehind _).isLocal
  | some character => exact isLocal_pure character

/-- The first character of a value stands at the cursor, behind layout. -/
theorem Returns.of_valueStart
    {cursor after : Cursor}
    {first : Char}
    (returns : Returns valueStart cursor first after) :
    ∃ layout, Spans cursor layout after ∧ (∀ character ∈ layout, isLayout character = true) ∧
      after.rest.head? = some first := by
  obtain ⟨token, middle, tokenReturns, further⟩ := returns.of_bind
  cases token with
  | none => exact absurd further (fails_failBehind _ _ _ _)
  | some character =>
    obtain ⟨rfl, rfl⟩ := further.of_pure
    obtain ⟨layout, spans, allLayout, isNext, -⟩ := tokenReturns.exists_layout
    exact ⟨layout, spans, allLayout, isNext⟩

theorem isLocal_ofExcept (result : Except Cause α) : IsLocal (ofExcept result) := by
  cases result with
  | error cause => exact (fails_failHere cause).isLocal
  | ok value => exact isLocal_pure value

end Reader

namespace Decoder

open Reader

variable {α σ : Type}

theorem isLocal_parsedText (expecting : String) (parse : String → Except Cause α) :
    Reader.IsLocal (parsedText expecting parse).fromText := by
  refine isLocal_valueStart.bind fun first => ?_
  split
  · rename_i isQuote
    rw [eq_of_beq isQuote]
    have quoted : Reader.IsLocal (scalar? '"') :=
      isLocal_skip.bind fun _ => isLocal_text.bind fun value => isLocal_pure (some (Json.text value))
    refine quoted.bind fun value? => ?_
    cases value? with
    | none => exact (fails_failBehind _).isLocal
    | some value => exact isLocal_ofExcept _
  · exact (fails_failType expecting first).isLocal

theorem isLocal_optional
    {decoder : Decoder α}
    (isLocal : Reader.IsLocal decoder.fromText) :
    Reader.IsLocal decoder.optional.fromText := by
  refine isLocal_token?.bind fun token => ?_
  split
  · exact isLocal_skip.bind fun _ => (isLocal_word _).bind fun _ => isLocal_pure none
  · exact isLocal.map some

/-- A nullable field is read like its value. -/
theorem isLocal_nullable
    (name : String)
    {decoder : Decoder α}
    (isLocal : Reader.IsLocal decoder.fromText)
    (store : Option α → σ → σ) :
    Reader.IsLocal (Field.nullable name decoder store).decoder.fromText :=
  (isLocal_optional isLocal).map store

section Records

variable {fields : List (Field σ)}

theorem isLocal_readMember
    (isLocal : ∀ field ∈ fields, Reader.IsLocal field.decoder.fromText)
    (name : String)
    (draft : Draft σ) :
    Reader.IsLocal (readMember fields name draft) := by
  unfold readMember
  split
  · exact isLocal_colon.bind fun _ => isLocal_skipValue.bind fun _ => isLocal_pure draft
  · rename_i field found
    split
    · exact (fails_failAnywhere _).isLocal
    · exact isLocal_colon.bind fun _ =>
        (isLocal field (List.mem_of_find?_eq_some found)).bind fun _ => isLocal_pure _

theorem isLocal_readItems
    (expecting : String)
    (isLocal : ∀ field ∈ fields, Reader.IsLocal field.decoder.fromText)
    (index : Nat)
    (first : Bool)
    (value : σ) :
    Reader.IsLocal (readItems expecting fields index first value) := by
  induction fields generalizing index first value with
  | nil => exact isLocal_pure value
  | cons field rest inductionHypothesis =>
    obtain ⟨here, further⟩ := List.forall_mem_cons.mp isLocal
    refine (isLocal_moreItems first).bind fun more => ?_
    split
    · exact here.bind fun store => inductionHypothesis further _ _ _
    split
    · exact inductionHypothesis further _ _ _
    · exact (fails_failAnywhere _).isLocal

/-- The characters stand between an opening and a closing bracket. -/
def IsBracketed (characters : List Char) : Prop :=
  ∃ opening inside closing, characters = opening :: (inside ++ [closing]) ∧
    opening ∈ ['[', '\x7b'] ∧ closing ∈ [']', '\x7d']

/-- Where the bracket at the cursor decides how a value is read, it is read between brackets, and
read again there with anything behind it. -/
theorem exists_bracketed_of_start
    {next : Char → Reader σ}
    {content : Reader σ}
    {close : Reader Unit}
    {opening closing : Char}
    (contentLocal : Reader.IsLocal content)
    (ends : EndsWith close closing)
    (chosen : next opening = placed (enclosed content close))
    (opens : opening ∈ ['[', '\x7b'])
    (closes : closing ∈ [']', '\x7d'])
    {cursor middle after : Cursor}
    {value : σ}
    (start : Returns valueStart cursor opening middle)
    (further : Returns (next opening) middle value after) :
    ∃ layout core, Spans cursor (layout ++ core) after ∧
      (∀ character ∈ layout, isLayout character = true) ∧ IsBracketed core ∧
        ∀ behind, Reads (valueStart >>= next) cursor.depth (core ++ behind) value behind := by
  obtain ⟨layout, spans, allLayout, isNext⟩ := start.of_valueStart
  rw [chosen] at further
  obtain ⟨taken, bracketSpans, reads⟩ :=
    further.of_placed.exists_enclosed contentLocal ends isNext
  refine ⟨layout, opening :: (taken ++ [closing]), spans.append bracketSpans, allLayout,
    ⟨opening, taken, closing, rfl, opens, closes⟩, fun behind => ?_⟩
  have notLayout : (['[', '\x7b'].all fun opening => !isLayout opening) = true := by decide
  simp only [List.all_eq_true, Bool.not_eq_true'] at notLayout
  have inside := (reads behind).placed
  rw [spans.depth] at inside
  refine (reads_valueStart rfl (notLayout opening opens)).bind ?_
  rw [chosen]
  simpa using inside

/-- The members of a record, between the brackets of an object. -/
def recordMembers (fields : List (Field σ)) (initial : σ) : Reader σ := do
  let draft ← members (readMember fields) ((← get).rest.length + 1) true ⟨initial, []⟩
  match complete fields draft with
  | .ok value => return value
  | .error cause => failAnywhere cause

theorem isLocal_recordMembers
    (isLocal : ∀ field ∈ fields, Reader.IsLocal field.decoder.fromText)
    (initial : σ) :
    Reader.IsLocal (recordMembers fields initial) := by
  refine (isLocal_members (isLocal_readMember isLocal) (⟨initial, []⟩ : Draft σ)).bind
    fun draft => ?_
  split
  · exact isLocal_pure _
  · exact (fails_failAnywhere _).isLocal

/-- A record is read between brackets, and read again there with anything behind it. -/
theorem exists_bracketed_of_record
    {name : String}
    {initial : σ}
    (isLocal : ∀ field ∈ fields, Reader.IsLocal field.decoder.fromText)
    {cursor after : Cursor}
    {value : σ}
    (returns : Returns (record name initial fields).fromText cursor value after) :
    ∃ layout core, Spans cursor (layout ++ core) after ∧
      (∀ character ∈ layout, isLayout character = true) ∧ IsBracketed core ∧
        ∀ behind, Reads (record name initial fields).fromText cursor.depth (core ++ behind) value
          behind := by
  obtain ⟨first, middle, start, further⟩ := Returns.of_bind returns
  by_cases isList : first = '['
  · subst isList
    exact exists_bracketed_of_start (isLocal_readItems _ isLocal 0 true initial) endsWith_closeList
      rfl (by decide) (by decide) start further
  by_cases isObject : first = '\x7b'
  · subst isObject
    exact exists_bracketed_of_start (isLocal_recordMembers isLocal initial) endsWith_closeObject
      rfl (by decide) (by decide) start further
  · rw [if_neg (by simpa using isList), if_neg (by simpa using isObject)] at further
    exact absurd further (fails_failType _ _ _ _ _)

end Records

/-! ## Texts of records -/

theorem isBlank_of_isLayout
    {character : Char}
    (isLayout : Reader.isLayout character = true) :
    Text.isBlank character = true := by
  simp only [Reader.isLayout, Bool.or_eq_true, beq_iff_eq] at isLayout
  rcases isLayout with ((rfl | rfl) | rfl) | rfl <;> rfl

/-- A text of which a value is read ends with layout behind the value. -/
theorem exists_returns_of_run
    {reader : Reader α}
    {text : String}
    {value : α}
    (read : run reader text = .ok value) :
    ∃ middle, Returns reader (Cursor.start text) value middle ∧
      ∀ character ∈ middle.rest, isLayout character = true := by
  have returns : ∃ after, Returns (do
      let value ← reader
      finish
      return value) (Cursor.start text) value after := ⟨_, Prod.ext read rfl⟩
  obtain ⟨after, returns⟩ := returns
  obtain ⟨found, middle, first, further⟩ := returns.of_bind
  obtain ⟨_, last, finished, done⟩ := further.of_bind
  obtain ⟨rfl, rfl⟩ := done.of_pure
  refine ⟨middle, first, ?_⟩
  obtain ⟨token, behind, tokenReturns, ended⟩ := finished.of_bind
  obtain ⟨layout, spans, allLayout, isNext, -⟩ := tokenReturns.exists_layout
  cases token with
  | some character => exact absurd ended (fails_failBehind _ _ _ _)
  | none =>
    rw [spans.rest, List.head?_eq_none_iff.mp isNext, List.append_nil]
    exact allLayout

/-- A bracketed text has no blanks to lose. -/
theorem IsBracketed.strip_eq
    {core : List Char}
    (bracketed : IsBracketed core) :
    Text.strip core = core := by
  obtain ⟨opening, inside, closing, rfl, opens, closes⟩ := bracketed
  have notBlank : ((['[', '\x7b'] ++ [']', '\x7d']).all fun bracket =>
      !Text.isBlank bracket) = true := by
    decide
  simp only [List.all_eq_true, Bool.not_eq_true'] at notBlank
  have opened := notBlank opening (List.mem_append_left _ opens)
  have closed := notBlank closing (List.mem_append_right _ closes)
  rw [Text.strip, Text.dropStart, List.dropWhile_cons_of_neg (by simp [opened]),
    Text.dropEnd_eq_rdropWhile, ← List.cons_append, List.rdropWhile_concat_neg _ _ _ (by simp [closed])]

/-- A text of which a record is read is the record between its brackets, with blanks around it, and
the blanks can be left out. -/
theorem parse_strip
    {name : String}
    {initial : σ}
    {fields : List (Field σ)}
    (isLocal : ∀ field ∈ fields, Reader.IsLocal field.decoder.fromText)
    {text : String}
    {value : σ}
    (read : (record name initial fields).parse text = .ok value) :
    IsBracketed (Text.strip text.toList) ∧
      (record name initial fields).parse (Text.trim text) = .ok value := by
  obtain ⟨middle, returns, allLayout⟩ := exists_returns_of_run read
  obtain ⟨layout, core, spans, layoutInFront, bracketed, reads⟩ :=
    exists_bracketed_of_record isLocal returns
  have text_eq : text.toList = layout ++ core ++ middle.rest := spans.rest
  have stripped : Text.strip text.toList = core := by
    rw [text_eq, Text.strip_append (fun character member =>
      isBlank_of_isLayout (layoutInFront character member)) (fun character member =>
      isBlank_of_isLayout (allLayout character member)), bracketed.strip_eq]
  rw [stripped]
  refine ⟨bracketed, run_of_reads ?_⟩
  rw [Text.trim, Text.onCharacters, stripped, String.toList_ofList]
  have alone := reads []
  rw [List.append_nil] at alone
  exact alone

end Decoder
end QualityGate
