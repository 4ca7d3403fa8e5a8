import QualityGate.Proofs.Json.Lookahead

/-!
# Skipping values

A value of any kind is skipped in steps.  Every step takes a character or leads to one that does, so
what is skipped depends on the characters of the value and on the next one.
-/

namespace QualityGate
namespace Reader

variable {α : Type}

/-! ## Texts -/

/-- One character of a text that is skipped; the answer is whether the text goes on. -/
def skipTextStep : Reader Bool := do
  match ← peek? with
  | none => failHere .endInText
  | some character =>
    if character == '"' then
      skip
      return false
    else if character == '\\' then
      skip
      let letter ← escapeLetter
      if letter == 'u' then
        let _ ← hexEscape
      return true
    else if character.toNat < 32 then failHere .controlCharacter
    else
      skip
      return true

theorem skipTextFrom_succ (bound : Nat) :
    skipTextFrom (bound + 1) = skipTextStep >>= fun more =>
      if more then skipTextFrom bound else pure () := by
  rw [skipTextFrom, skipTextStep, bind_assoc]
  refine congrArg _ (funext fun token => ?_)
  cases token with
  | none => exact (failHere_bind _).symm
  | some character =>
    dsimp only
    split
    · rw [bind_assoc]
      exact (bind_pure skip).symm
    split
    · simp only [bind_assoc]
      refine congrArg _ (funext fun _ => congrArg _ (funext fun letter => ?_))
      split <;> simp
    split
    · rw [failHere_bind]
    · simp

theorem isLocal_hexEscapeBehind (letter : Char) :
    IsLocal (do
      if letter == 'u' then
        let _ ← hexEscape
      return true) := by
  dsimp only
  split
  · exact isLocal_hexEscape.bind fun _ => isLocal_pure true
  · exact isLocal_pure true

theorem isLocal_skipTextStep : IsLocal skipTextStep := by
  refine isLocal_peek?.bind fun token => ?_
  cases token with
  | none => exact (fails_failHere _).isLocal
  | some character =>
    dsimp only
    split
    · exact isLocal_skip.bind fun _ => isLocal_pure false
    split
    · exact isLocal_skip.bind fun _ => isLocal_escapeLetter.bind isLocal_hexEscapeBehind
    split
    · exact (fails_failHere _).isLocal
    · exact isLocal_skip.bind fun _ => isLocal_pure true

theorem Returns.length_lt_of_skipTextStep
    {cursor after : Cursor}
    {more : Bool}
    (returns : Returns skipTextStep cursor more after) :
    after.rest.length < cursor.rest.length := by
  have further := Returns.of_peek returns
  cases isNext : cursor.rest.head? with
  | none =>
    rw [isNext] at further
    exact absurd further (fails_failHere _ _ _ _)
  | some character =>
    rw [isNext] at further
    dsimp only at further
    split at further
    · obtain ⟨middle, shorter, later⟩ := Returns.of_skip isNext further
      exact ((isLocal_pure false).length_le later).trans_lt shorter
    split at further
    · obtain ⟨middle, shorter, later⟩ := Returns.of_skip isNext further
      exact ((isLocal_escapeLetter.bind isLocal_hexEscapeBehind).length_le later).trans_lt shorter
    split at further
    · exact absurd further (fails_failHere _ _ _ _)
    · obtain ⟨middle, shorter, later⟩ := Returns.of_skip isNext further
      exact ((isLocal_pure true).length_le later).trans_lt shorter

theorem isLocalIn_skipTextFrom (bound : Nat) : IsLocalIn skipTextFrom id bound := by
  induction bound with
  | zero => exact (fails_failHere _).isLocalIn id
  | succ bound inductionHypothesis =>
    refine isLocal_skipTextStep.isLocalIn_succ (fun _ => id) (fun more => ?_) skipTextFrom_succ
      (fun cursor value after returns taken => ?_)
    · cases more with
      | false => exact (isLocal_pure ()).isLocalIn id bound
      | true => exact inductionHypothesis
    · have shorter := returns.length_lt_of_skipTextStep
      simp only [id_eq]
      omega

theorem isLocal_skipText : IsLocal skipText :=
  isLocal_of_bounds (· + 1) isLocalIn_skipTextFrom fun taken further => by
    simp only [id_eq]
    omega

/-! ## Numbers that are skipped -/

/-- The digits that an exponent needs. -/
def skipExponentDigits : Reader Unit := do
  match ← peek? with
  | some digit => if digit.isDigit then skipWhile Char.isDigit else failBehind .invalidNumber
  | none => failHere .invalidNumber

theorem isLocal_skipExponentDigits : IsLocal skipExponentDigits := by
  refine isLocal_peek?.bind fun token => ?_
  cases token with
  | none => exact (fails_failHere _).isLocal
  | some digit =>
    dsimp only
    split
    · exact isLocal_skipWhile Char.isDigit
    · exact (fails_failBehind _).isLocal

theorem isLocal_skipExponent : IsLocal skipExponent := by
  refine isLocal_skip.bind fun _ => isLocal_peek?.bind fun token => ?_
  dsimp only
  split
  · exact isLocal_skip.bind fun _ => isLocal_skipExponentDigits
  · exact isLocal_skip.bind fun _ => isLocal_skipExponentDigits
  · exact isLocal_skipExponentDigits

theorem isLocal_skipExponentOrEnd : IsLocal skipExponentOrEnd := by
  refine isLocal_peek?.bind fun token => ?_
  split
  · exact isLocal_skipExponent
  · exact isLocal_skipExponent
  · exact isLocal_pure ()

/-- What follows the digits of a number that is skipped. -/
def skipFraction : Reader Unit := do
  match ← peek? with
  | some '.' =>
    skip
    match ← peek? with
    | some further => if !further.isDigit then failBehind .invalidNumber
    | none => failBehind .invalidNumber
    skipWhile Char.isDigit
    skipExponentOrEnd
  | _ => skipExponentOrEnd

theorem isLocal_skipFraction : IsLocal skipFraction := by
  have digits : IsLocal (do
      skipWhile Char.isDigit
      skipExponentOrEnd) :=
    (isLocal_skipWhile Char.isDigit).bind fun _ => isLocal_skipExponentOrEnd
  refine isLocal_peek?.bind fun token => ?_
  split
  · refine isLocal_skip.bind fun _ => isLocal_peek?.bind fun digit? => ?_
    cases digit? with
    | none => exact (Fails.isLocal (fails_failBehind _)).bind fun _ => digits
    | some digit =>
      dsimp only
      split
      · exact (Fails.isLocal (fails_failBehind _)).bind fun _ => digits
      · exact digits
  · exact isLocal_skipExponentOrEnd

/-- What follows a zero at the front of a number that is skipped. -/
def skipBehindZero : Reader Unit := do
  match ← peek? with
  | some further => if further.isDigit then failBehind .invalidNumber else skipFraction
  | none => skipFraction

theorem isLocal_skipBehindZero : IsLocal skipBehindZero := by
  refine isLocal_peek?.bind fun further? => ?_
  cases further? with
  | none => exact isLocal_skipFraction
  | some further =>
    dsimp only
    split
    · exact (fails_failBehind _).isLocal
    · exact isLocal_skipFraction

/-- The digits of a number that is skipped, from the first one on, and what follows them. -/
def skipDigits (digit : Char) : Reader Unit :=
  if digit == '0' then do
    skip
    skipBehindZero
  else if digit.isDigit then do
    skipWhile Char.isDigit
    skipFraction
  else failBehind .invalidNumber

theorem skipNumber_eq :
    skipNumber = peek? >>= fun digit? =>
      match digit? with
      | none => failHere .invalidNumber
      | some digit => skipDigits digit := by
  rw [skipNumber]
  refine congrArg _ (funext fun token => ?_)
  cases token with
  | none => rfl
  | some digit =>
    dsimp only
    unfold skipDigits
    split
    · refine congrArg _ (funext fun _ => congrArg _ (funext fun further? => ?_))
      cases further? with
      | none => rfl
      | some further =>
        dsimp only
        split <;> rfl
    split <;> rfl

theorem isLocal_skipDigits (digit : Char) : IsLocal (skipDigits digit) := by
  unfold skipDigits
  split
  · exact isLocal_skip.bind fun _ => isLocal_skipBehindZero
  split
  · exact (isLocal_skipWhile Char.isDigit).bind fun _ => isLocal_skipFraction
  · exact (fails_failBehind _).isLocal

theorem isLocal_skipNumber : IsLocal skipNumber := by
  rw [skipNumber_eq]
  refine isLocal_peek?.bind fun digit? => ?_
  cases digit? with
  | none => exact (fails_failHere _).isLocal
  | some digit => exact isLocal_skipDigits digit

/-- Where a character is accepted, it is taken. -/
theorem Returns.of_skipWhile
    {accepts : Char → Bool}
    {next : Unit → Reader α}
    {cursor after : Cursor}
    {value : α}
    {character : Char}
    (isNext : cursor.rest.head? = some character)
    (accepted : accepts character = true)
    (returns : Returns (skipWhile accepts >>= next) cursor value after) :
    ∃ middle, middle.rest.length < cursor.rest.length ∧ Returns (next ()) middle value after := by
  obtain ⟨_, middle, skipped, further⟩ := returns.of_bind
  refine ⟨middle, ?_, further⟩
  obtain ⟨line, column, rest, depth⟩ := cursor
  obtain ⟨others, rfl⟩ := List.head?_eq_some_iff.mp isNext
  obtain ⟨endLine, endColumn, advanced⟩ := exists_advance line column depth character others
  cases skipped
  dsimp only
  rw [skipFrom, if_pos accepted, advanced]
  have later : Returns (skipWhile accepts) ⟨endLine, endColumn, others, depth⟩ () _ := rfl
  exact Nat.lt_succ_of_le ((isLocal_skipWhile accepts).length_le later)

theorem Returns.length_lt_of_skipDigits
    {cursor after : Cursor}
    {digit : Char}
    (isNext : cursor.rest.head? = some digit)
    (returns : Returns (skipDigits digit) cursor () after) :
    after.rest.length < cursor.rest.length := by
  unfold skipDigits at returns
  split at returns
  · obtain ⟨middle, shorter, later⟩ := Returns.of_skip isNext returns
    exact (isLocal_skipBehindZero.length_le later).trans_lt shorter
  split at returns
  · rename_i isDigit
    obtain ⟨middle, shorter, later⟩ := Returns.of_skipWhile isNext isDigit returns
    exact (isLocal_skipFraction.length_le later).trans_lt shorter
  · exact absurd returns (fails_failBehind _ _ _ _)

theorem Returns.length_lt_of_skipNumber
    {cursor after : Cursor}
    {digit : Char}
    (isNext : cursor.rest.head? = some digit)
    (returns : Returns skipNumber cursor () after) :
    after.rest.length < cursor.rest.length := by
  rw [skipNumber_eq] at returns
  have further := Returns.of_peek returns
  rw [isNext] at further
  exact further.length_lt_of_skipDigits isNext

/-! ## Values that are skipped -/

theorem isLocal_skipKey (bracket : Bracket) : IsLocal (skipKey bracket) := by
  cases bracket with
  | list => exact isLocal_pure ()
  | object =>
    have further : IsLocal (do
        skipText
        colon) :=
      isLocal_skipText.bind fun _ => isLocal_colon
    refine isLocal_token?.bind fun token => ?_
    dsimp only
    split
    · exact isLocal_skip.bind fun _ => further
    · exact (Fails.isLocal (fails_failBehind _)).bind fun _ => further
    · exact (Fails.isLocal (fails_failBehind _)).bind fun _ => further

/-- A scalar that is skipped, from its first character on. -/
def skipScalar (character : Char) : Reader Unit :=
  if character == '-' then do
    skip
    skipNumber
  else if character.isDigit then skipNumber
  else if character == '"' then do
    skip
    skipText
  else if character == 'n' then do
    skip
    word ['u', 'l', 'l']
  else if character == 't' then do
    skip
    word ['r', 'u', 'e']
  else if character == 'f' then do
    skip
    word ['a', 'l', 's', 'e']
  else failBehind .expectedValue

theorem isLocal_skipScalar (character : Char) : IsLocal (skipScalar character) := by
  unfold skipScalar
  split
  · exact isLocal_skip.bind fun _ => isLocal_skipNumber
  split
  · exact isLocal_skipNumber
  split
  · exact isLocal_skip.bind fun _ => isLocal_skipText
  split
  · exact isLocal_skip.bind fun _ => isLocal_word _
  split
  · exact isLocal_skip.bind fun _ => isLocal_word _
  split
  · exact isLocal_skip.bind fun _ => isLocal_word _
  · exact (fails_failBehind _).isLocal

theorem Returns.length_lt_of_skipScalar
    {cursor after : Cursor}
    {character : Char}
    (isNext : cursor.rest.head? = some character)
    (returns : Returns (skipScalar character) cursor () after) :
    after.rest.length < cursor.rest.length := by
  have skipped {next : Reader Unit} (isLocal : IsLocal next)
      (returns : Returns (skip >>= fun _ => next) cursor () after) :
      after.rest.length < cursor.rest.length := by
    obtain ⟨middle, shorter, later⟩ := Returns.of_skip isNext returns
    exact (isLocal.length_le later).trans_lt shorter
  unfold skipScalar at returns
  split at returns
  · exact skipped isLocal_skipNumber returns
  split at returns
  · exact returns.length_lt_of_skipNumber isNext
  split at returns
  · exact skipped isLocal_skipText returns
  split at returns
  · exact skipped (isLocal_word _) returns
  split at returns
  · exact skipped (isLocal_word _) returns
  split at returns
  · exact skipped (isLocal_word _) returns
  · exact absurd returns (fails_failBehind _ _ _ _)

/-- The opening bracket or the scalar at the front of a value that is skipped, with the brackets
that are open behind it, and whether a comma may follow. -/
def skipValueStep (opened : List Bracket) : Reader (List Bracket × Bool) := do
  match ← token? with
  | none => failBehind .endInValue
  | some '[' =>
    skip
    return (.list :: opened, false)
  | some '\x7b' =>
    skip
    return (.object :: opened, false)
  | some character =>
    skipScalar character
    return (opened, true)

/-- What follows a value or an opening bracket, with the brackets that are open behind it, and
whether a value is expected. -/
def skipBehindStep (bracket : Bracket) (opened : List Bracket) (comma : Bool) :
    Reader (List Bracket × Bool) := do
  let closing := if bracket = .list then ']' else '\x7d'
  match ← token? with
  | none => failBehind (if bracket = .list then .endInList else .endInObject)
  | some character =>
    if character == closing then
      skip
      return (opened, false)
    else if comma then
      if character == ',' then
        skip
        skipKey bracket
        return (bracket :: opened, true)
      else
        failBehind (if bracket = .list then .expectedCommaOrBracket else .expectedCommaOrBrace)
    else
      skipKey bracket
      return (bracket :: opened, true)

theorem skipOpen_value (bound : Nat) (opened : List Bracket) (comma : Bool) :
    skipOpen (bound + 1) opened true comma = skipValueStep opened >>= fun next =>
      skipOpen bound next.1 false next.2 := by
  rw [skipOpen, skipValueStep, bind_assoc]
  refine congrArg _ (funext fun token => ?_)
  split
  · rfl
  · simp
  · simp
  · rename_i character noList noObject
    have whole : (skipScalar character >>= fun _ => skipOpen bound opened false true) =
        (do
          skipScalar character
          pure (opened, true)) >>= fun next => skipOpen bound next.1 false next.2 := by
      rw [bind_assoc]
      simp only [pure_bind]
    simp only
    rw [← whole]
    split
    · rename_i isSign
      rw [skipScalar, if_pos isSign, bind_assoc]
    rename_i noSign
    split
    · rename_i isDigit
      rw [skipScalar, if_neg noSign, if_pos isDigit]
    rename_i noDigit
    split
    · rename_i isQuote
      rw [skipScalar, if_neg noSign, if_neg noDigit, if_pos isQuote, bind_assoc]
    · rename_i noQuote
      -- of the scalars that are read, only words are left
      unfold skipScalar scalar?
      rw [if_neg noSign, if_neg noDigit, if_neg noQuote, if_neg noSign, if_neg noDigit,
        if_neg noQuote]
      split
      · simp
      split
      · simp
      split
      · simp
      · rw [pure_bind, failBehind_bind]

theorem skipOpen_behind (bound : Nat) (bracket : Bracket) (opened : List Bracket) (comma : Bool) :
    skipOpen (bound + 1) (bracket :: opened) false comma =
      skipBehindStep bracket opened comma >>= fun next =>
        skipOpen bound next.1 next.2 (!next.2) := by
  rw [skipOpen, skipBehindStep, bind_assoc]
  refine congrArg _ (funext fun token => ?_)
  cases token with
  | none => rfl
  | some character =>
    dsimp only
    generalize (if bracket = .list then ']' else '\x7d') = closing
    generalize (if bracket = .list then Cause.expectedCommaOrBracket else .expectedCommaOrBrace) =
      cause
    split
    · simp only [bind_assoc, pure_bind, Bool.not_false]
    split
    · split
      · simp only [bind_assoc, pure_bind, Bool.not_true]
      · rw [failBehind_bind]
    · simp only [bind_assoc, pure_bind, Bool.not_true]

theorem isLocal_skipValueStep (opened : List Bracket) : IsLocal (skipValueStep opened) := by
  refine isLocal_token?.bind fun token => ?_
  split
  · exact (fails_failBehind _).isLocal
  · exact isLocal_skip.bind fun _ => isLocal_pure _
  · exact isLocal_skip.bind fun _ => isLocal_pure _
  · exact (isLocal_skipScalar _).bind fun _ => isLocal_pure _

theorem Returns.length_lt_of_skipValueStep
    {cursor after : Cursor}
    {opened : List Bracket}
    {next : List Bracket × Bool}
    (returns : Returns (skipValueStep opened) cursor next after) :
    after.rest.length < cursor.rest.length := by
  obtain ⟨token, middle, tokenReturns, further⟩ := returns.of_bind
  have isNext := tokenReturns.head?_of_token
  have atMost := isLocal_token?.length_le tokenReturns
  have shorter : after.rest.length < middle.rest.length := by
    split at further
    · exact absurd further (fails_failBehind _ _ _ _)
    · obtain ⟨last, shorter, later⟩ := Returns.of_skip isNext further
      exact ((isLocal_pure _).length_le later).trans_lt shorter
    · obtain ⟨last, shorter, later⟩ := Returns.of_skip isNext further
      exact ((isLocal_pure _).length_le later).trans_lt shorter
    · obtain ⟨_, last, skipped, later⟩ := further.of_bind
      exact ((isLocal_pure _).length_le later).trans_lt (skipped.length_lt_of_skipScalar isNext)
  exact shorter.trans_le atMost

theorem isLocal_skipBehindStep (bracket : Bracket) (opened : List Bracket) (comma : Bool) :
    IsLocal (skipBehindStep bracket opened comma) := by
  refine isLocal_token?.bind fun token => ?_
  cases token with
  | none => exact (fails_failBehind _).isLocal
  | some character =>
    dsimp only
    generalize (if bracket = .list then ']' else '\x7d') = closing
    have key : IsLocal (do
        skipKey bracket
        return (bracket :: opened, true)) :=
      (isLocal_skipKey bracket).bind fun _ => isLocal_pure _
    split
    · exact isLocal_skip.bind fun _ => isLocal_pure _
    split
    · split
      · exact isLocal_skip.bind fun _ => key
      · exact (fails_failBehind _).isLocal
    · exact key

/-- A value is expected next, or a closing bracket has been taken. -/
theorem Returns.length_lt_of_skipBehindStep
    {cursor after : Cursor}
    {bracket : Bracket}
    {opened : List Bracket}
    {comma : Bool}
    {next : List Bracket × Bool}
    (returns : Returns (skipBehindStep bracket opened comma) cursor next after)
    (noValue : next.2 = false) :
    after.rest.length < cursor.rest.length := by
  obtain ⟨token, middle, tokenReturns, further⟩ := returns.of_bind
  have isNext := tokenReturns.head?_of_token
  have atMost := isLocal_token?.length_le tokenReturns
  have key {cursor : Cursor} : ¬Returns (do
      skipKey bracket
      return (bracket :: opened, true)) cursor next after := by
    intro returns
    obtain ⟨_, _, -, later⟩ := returns.of_bind
    obtain ⟨rfl, -⟩ := later.of_pure
    cases noValue
  cases token with
  | none => exact absurd further (fails_failBehind _ _ _ _)
  | some character =>
    dsimp only at further
    generalize (if bracket = .list then ']' else '\x7d') = closing at further
    split at further
    · obtain ⟨last, shorter, later⟩ := Returns.of_skip isNext further
      exact (((isLocal_pure _).length_le later).trans_lt shorter).trans_le atMost
    split at further
    · split at further
      · obtain ⟨last, shorter, later⟩ := Returns.of_skip isNext further
        exact absurd later key
      · exact absurd further (fails_failBehind _ _ _ _)
    · exact absurd further key

/-- A value takes at most two steps for each of its characters. -/
theorem isLocalIn_skipOpen (bound : Nat) (opened : List Bracket) (expected comma : Bool) :
    IsLocalIn (skipOpen · opened expected comma)
      (fun taken => 2 * taken + if expected then 0 else 1) bound := by
  induction bound generalizing opened expected comma with
  | zero => exact (fails_failBehind _).isLocalIn _
  | succ bound inductionHypothesis =>
    cases expected with
    | true =>
      refine (isLocal_skipValueStep opened).isLocalIn_succ _
        (fun next => inductionHypothesis next.1 false next.2)
        (fun bound => skipOpen_value bound opened comma) (fun cursor next after returns taken => ?_)
      have shorter := returns.length_lt_of_skipValueStep
      simp only [Bool.false_eq_true, if_true, if_false]
      omega
    | false =>
      cases opened with
      | nil =>
        -- nothing is open any more, and the last step only ends
        refine (isLocal_pure ()).isLocalIn_succ (fun _ _ => 0)
          (fun _ => (isLocal_pure ()).isLocalIn _ bound) (fun _ => rfl)
          (fun cursor _ after _ taken => ?_)
        simp only [Bool.false_eq_true, if_false]
        omega
      | cons bracket opened =>
        refine (isLocal_skipBehindStep bracket opened comma).isLocalIn_succ _
          (fun next => inductionHypothesis next.1 next.2 (!next.2))
          (fun bound => skipOpen_behind bound bracket opened comma)
          (fun cursor next after returns taken => ?_)
        cases noValue : next.2 with
        | true =>
          simp only [Bool.false_eq_true, if_true, if_false]
          omega
        | false =>
          have shorter := returns.length_lt_of_skipBehindStep noValue
          simp only [Bool.false_eq_true, if_false]
          omega

theorem isLocal_skipValue : IsLocal skipValue :=
  isLocal_of_bounds (3 * · + 3) (fun bound => isLocalIn_skipOpen bound [] true false)
    fun taken further => by
      simp only [if_true]
      omega

end Reader
end QualityGate
