import QualityGate.Json.Printer
import QualityGate.Json.Reader
import QualityGate.Proofs.Text.Decimal
import Mathlib.Data.List.Basic

/-!
# What readers read

A reader reads a front of a text if it gives a value and stops behind that front, wherever the text
stands and however the lines before it are counted.  What is written by the printer is read back:
texts with all their escapes, natural numbers, and the members of objects one after the other.
-/

namespace QualityGate
namespace Reader

variable {α β σ : Type}

/-- From the text before, a reader gives a value and stops at the text after. -/
def Reads
    (reader : Reader α)
    (depth : Nat)
    (before : List Char)
    (value : α)
    (after : List Char) : Prop :=
  ∀ line column, ∃ endLine endColumn,
    ExceptT.run reader ⟨line, column, before, depth⟩ =
      (.ok value, ⟨endLine, endColumn, after, depth⟩)

/-! ## Steps -/

/-- A step of the cursor goes on where the step before it has stopped. -/
theorem bind_apply
    (first : StateM Cursor α)
    (next : α → StateM Cursor β)
    (cursor : Cursor) :
    (first >>= next) cursor = next (first cursor).1 (first cursor).2 := rfl

theorem run_bind_of_ok
    {reader : Reader α}
    {next : α → Reader β}
    {cursor after : Cursor}
    {value : α}
    (read : ExceptT.run reader cursor = (.ok value, after)) :
    ExceptT.run (reader >>= next) cursor = ExceptT.run (next value) after := by
  rw [ExceptT.run_bind, bind_apply, read]

theorem run_tryCatch_of_ok
    {reader : Reader α}
    {handler : Fault → Reader α}
    {cursor after : Cursor}
    {value : α}
    (read : ExceptT.run reader cursor = (.ok value, after)) :
    ExceptT.run (tryCatch reader handler) cursor = (.ok value, after) := by
  rw [ExceptT.run_tryCatch, bind_apply, read]
  rfl

section Steps

variable {depth : Nat} {before middle after : List Char}

theorem Reads.pure (value : α) : Reads (pure value) depth before value before :=
  fun line column => ⟨line, column, rfl⟩

theorem Reads.bind
    {reader : Reader α}
    {next : α → Reader β}
    {value : α}
    {result : β}
    (first : Reads reader depth before value middle)
    (second : Reads (next value) depth middle result after) :
    Reads (reader >>= next) depth before result after := by
  intro line column
  obtain ⟨middleLine, middleColumn, firstRead⟩ := first line column
  obtain ⟨endLine, endColumn, secondRead⟩ := second middleLine middleColumn
  exact ⟨endLine, endColumn, (run_bind_of_ok firstRead).trans secondRead⟩

/-- A reader that looks at its cursor sees the text before it. -/
theorem Reads.get_bind
    {next : Cursor → Reader α}
    {value : α}
    (read : ∀ line column, Reads (next ⟨line, column, before, depth⟩) depth before value after) :
    Reads (get >>= next) depth before value after :=
  fun line column => read line column line column

theorem Reads.map
    {reader : Reader α}
    {value : α}
    (change : α → β)
    (read : Reads reader depth before value after) :
    Reads (change <$> reader) depth before (change value) after := by
  rw [← bind_pure_comp]
  exact read.bind (Reads.pure (change value))

theorem Reads.tryCatch
    {reader : Reader α}
    {value : α}
    (read : Reads reader depth before value after)
    (handler : Fault → Reader α) :
    Reads (tryCatch reader handler) depth before value after := by
  intro line column
  obtain ⟨endLine, endColumn, found⟩ := read line column
  exact ⟨endLine, endColumn, run_tryCatch_of_ok found⟩

theorem Reads.placed
    {reader : Reader α}
    {value : α}
    (read : Reads reader depth before value after) :
    Reads (placed reader) depth before value after :=
  read.tryCatch _

theorem reads_ofExcept
    {result : Except Cause α}
    {value : α}
    (decoded : result = .ok value) :
    Reads (ofExcept result) depth before value before := by
  rw [decoded]
  exact Reads.pure value

theorem exists_advance
    (line column depth : Nat)
    (character : Char)
    (after : List Char) :
    ∃ endLine endColumn, Cursor.advance ⟨line, column, character :: after, depth⟩ =
      ⟨endLine, endColumn, after, depth⟩ := by
  unfold Cursor.advance
  split
  · rename_i atEnd
    cases atEnd
  · rename_i atBreak
    cases atBreak
    exact ⟨_, _, rfl⟩
  · rename_i elsewhere
    cases elsewhere
    exact ⟨_, _, rfl⟩

theorem reads_skip (character : Char) : Reads skip depth (character :: after) () after := by
  intro line column
  obtain ⟨endLine, endColumn, advanced⟩ := exists_advance line column depth character after
  exact ⟨endLine, endColumn, congrArg (Prod.mk (Except.ok ())) advanced⟩

theorem exists_skipFrom
    {accepts : Char → Bool}
    {accepted : List Char}
    (allAccepted : ∀ character ∈ accepted, accepts character = true)
    (stops : ∀ character ∈ after.head?, accepts character = false)
    (line column depth : Nat) :
    ∃ endLine endColumn,
      skipFrom accepts (accepted ++ after) ⟨line, column, accepted ++ after, depth⟩ =
        ⟨endLine, endColumn, after, depth⟩ := by
  induction accepted generalizing line column with
  | nil =>
    refine ⟨line, column, ?_⟩
    cases after with
    | nil => rfl
    | cons character rest =>
      rw [List.nil_append, skipFrom, if_neg (by simp [stops character rfl])]
  | cons character rest inductionHypothesis =>
    obtain ⟨nextLine, nextColumn, advanced⟩ :=
      exists_advance line column depth character (rest ++ after)
    rw [List.cons_append, skipFrom, if_pos (allAccepted character List.mem_cons_self), advanced]
    exact inductionHypothesis
      (fun other member => allAccepted other (List.mem_cons_of_mem character member))
      nextLine nextColumn

/-- The accepted characters at the front are stepped over. -/
theorem reads_skipWhile
    {accepts : Char → Bool}
    {accepted : List Char}
    (allAccepted : ∀ character ∈ accepted, accepts character = true)
    (stops : ∀ character ∈ after.head?, accepts character = false) :
    Reads (skipWhile accepts) depth (accepted ++ after) () after := by
  intro line column
  obtain ⟨endLine, endColumn, skipped⟩ :=
    exists_skipFrom allAccepted stops line column depth
  exact ⟨endLine, endColumn, congrArg (Prod.mk (Except.ok ())) skipped⟩

theorem reads_peek? : Reads peek? depth before before.head? before :=
  Reads.get_bind fun _ _ => Reads.pure _

/-- Layout before a token is stepped over. -/
theorem reads_token?
    {layout : List Char}
    (allLayout : ∀ character ∈ layout, isLayout character = true)
    (begins : ∀ character ∈ after.head?, isLayout character = false) :
    Reads token? depth (layout ++ after) after.head? after :=
  (reads_skipWhile allLayout begins).bind reads_peek?

/-- A token that begins at the cursor is found there. -/
theorem reads_token?_cons
    {character : Char}
    (begins : isLayout character = false) :
    Reads token? depth (character :: after) (some character) (character :: after) := by
  have read : Reads token? depth ([] ++ character :: after) (some character) (character :: after) :=
    reads_token? (by simp) (by simpa using begins)
  exact read

end Steps

/-! ## Texts -/

section Texts

variable {depth : Nat} {after : List Char}

theorem reads_escape_letter
    {letter character : Char}
    (known : simpleEscape? letter = some character) :
    Reads escape depth (letter :: after) character after := by
  have letterRead : Reads escapeLetter depth (letter :: after) letter after := by
    refine reads_peek?.bind ?_
    dsimp only [List.head?_cons]
    rw [if_pos (by simp [known])]
    exact (reads_skip letter).bind (Reads.pure letter)
  refine letterRead.bind ?_
  rw [known]
  exact Reads.pure character

theorem exists_advanceBytes
    {characters : List Char}
    (single : ∀ character ∈ characters, character.utf8Size = 1)
    (line column depth : Nat)
    (after : List Char) :
    ∃ endLine endColumn,
      Cursor.advanceBytes characters.length ⟨line, column, characters ++ after, depth⟩ =
        ⟨endLine, endColumn, after, depth⟩ := by
  induction characters generalizing line column with
  | nil =>
    refine ⟨line, column, ?_⟩
    rw [List.length_nil, List.nil_append, Cursor.advanceBytes]
  | cons character rest inductionHypothesis =>
    have size := single character List.mem_cons_self
    obtain ⟨nextLine, nextColumn, advanced⟩ :=
      exists_advance line column depth character (rest ++ after)
    rw [List.length_cons, List.cons_append, Cursor.advanceBytes]
    dsimp only
    rw [if_pos (by omega), size, Nat.add_sub_cancel, advanced]
    exact inductionHypothesis
      (fun other member => single other (List.mem_cons_of_mem character member))
      nextLine nextColumn

theorem utf8Size_eq_one_of_hexValue?
    {digit : Char}
    {value : Nat}
    (isDigit : Text.hexValue? digit = some value) :
    digit.utf8Size = 1 := by
  rw [Char.utf8Size_eq_one_iff]
  unfold Text.hexValue? at isDigit
  split at isDigit
  · rename_i inRange
    simp only [Bool.and_eq_true, decide_eq_true_eq] at inRange
    exact UInt32.le_trans inRange.2 (by decide)
  split at isDigit
  · rename_i inRange
    simp only [Bool.and_eq_true, decide_eq_true_eq] at inRange
    exact UInt32.le_trans inRange.2 (by decide)
  split at isDigit
  · rename_i inRange
    simp only [Bool.and_eq_true, decide_eq_true_eq] at inRange
    exact UInt32.le_trans inRange.2 (by decide)
  · cases isDigit

/-- An escape has a value only if it is made of four characters of one byte. -/
theorem single_of_hexEscapeValue?
    {digits : List Char}
    {value : Nat}
    (isValue : hexEscapeValue? digits = some value) :
    digits.length = 4 ∧ ∀ digit ∈ digits, digit.utf8Size = 1 := by
  unfold hexEscapeValue? at isValue
  split at isValue
  · rename_i a b c d
    obtain ⟨first, isFirst, isValue⟩ := Option.bind_eq_some_iff.mp isValue
    obtain ⟨second, isSecond, isValue⟩ := Option.bind_eq_some_iff.mp isValue
    obtain ⟨third, isThird, isValue⟩ := Option.bind_eq_some_iff.mp isValue
    obtain ⟨fourth, isFourth, -⟩ := Option.bind_eq_some_iff.mp isValue
    refine ⟨rfl, ?_⟩
    simp [utf8Size_eq_one_of_hexValue? isFirst, utf8Size_eq_one_of_hexValue? isSecond,
      utf8Size_eq_one_of_hexValue? isThird, utf8Size_eq_one_of_hexValue? isFourth]
  · cases isValue

theorem utf8ByteSize_ofList_of_single
    {characters : List Char}
    (single : ∀ character ∈ characters, character.utf8Size = 1) :
    (String.ofList characters).utf8ByteSize = characters.length := by
  induction characters with
  | nil => rfl
  | cons character rest inductionHypothesis =>
    obtain ⟨here, further⟩ := List.forall_mem_cons.mp single
    rw [String.ofList_cons, String.utf8ByteSize_append, String.utf8ByteSize_singleton, here,
      inductionHypothesis further, List.length_cons, Nat.add_comm]

/-- The four digits of an escape are read. -/
theorem reads_hexEscape
    {digits : List Char}
    {value : Nat}
    (isValue : hexEscapeValue? digits = some value) :
    Reads hexEscape depth (digits ++ after) value after := by
  obtain ⟨four, single⟩ := single_of_hexEscapeValue? isValue
  have taken : (digits ++ after).take 4 = digits := List.take_left' four
  have enough : hasFourBytes (digits ++ after) = true := by
    rw [hasFourBytes, taken, utf8ByteSize_ofList_of_single single, four]
    rfl
  intro line column
  obtain ⟨endLine, endColumn, advanced⟩ := exists_advanceBytes single line column depth after
  refine ⟨endLine, endColumn, ?_⟩
  unfold hexEscape
  rw [run_bind_of_ok (show ExceptT.run (get : Reader Cursor) _ = (.ok _, _) from rfl)]
  rw [if_pos enough, taken, isValue]
  rw [run_bind_of_ok (show ExceptT.run (set _ : Reader PUnit) _ = (.ok _, _) from rfl)]
  rw [← advanced, four]
  rfl

theorem hexEscapeValue?_control :
    ∀ code < 32, hexEscapeValue? (Text.hexDigits 4 code) = some code := by
  decide

theorem reads_unicodeEscape
    {code : Nat}
    (control : code < 32) :
    Reads unicodeEscape depth (Text.hexDigits 4 code ++ after) (Char.ofNat code) after := by
  refine (reads_hexEscape (hexEscapeValue?_control code control)).bind ?_
  rw [if_neg (by simp; omega), if_pos (by simp; omega)]
  exact Reads.pure _

theorem reads_escape_code
    {code : Nat}
    (control : code < 32) :
    Reads escape depth ('u' :: Text.hexDigits 4 code ++ after) (Char.ofNat code) after := by
  have letterRead :
      Reads escapeLetter depth ('u' :: (Text.hexDigits 4 code ++ after)) 'u' _ :=
    reads_peek?.bind ((reads_skip 'u').bind (Reads.pure 'u'))
  exact letterRead.bind (reads_unicodeEscape control)

/-- One character of a text is read from what stands for it. -/
theorem Reads.textCharacters_succ
    {fuel : Nat}
    {character : Char}
    {before reversed characters : List Char}
    (following :
      Reads (textCharacters fuel (character :: reversed)) depth before characters after) :
    Reads (textCharacters (fuel + 1) reversed) depth (Json.escapedCharacter character ++ before)
      characters after := by
  -- an escape of any kind is read after its backslash
  have escaped (body : List Char) (read : Reads escape depth (body ++ before) character before) :
      Reads (textCharacters (fuel + 1) reversed) depth ('\\' :: body ++ before) characters after :=
    reads_peek?.bind ((reads_skip '\\').bind (read.bind following))
  have letter (name : Char) (known : simpleEscape? name = some character) :=
    escaped [name] (reads_escape_letter known)
  unfold Json.escapedCharacter
  split
  · exact letter '"' rfl
  · exact letter '\\' rfl
  · exact letter 'n' rfl
  · exact letter 'r' rfl
  · exact letter 't' rfl
  · rename_i notQuote notBackslash _ _ _
    split
    · rename_i isEight
      have equal : Char.ofNat 8 = character := by
        rw [← eq_of_beq isEight, Char.ofNat_toNat]
      exact letter 'b' (by rw [← equal]; rfl)
    · split
      · rename_i isTwelve
        have equal : Char.ofNat 12 = character := by
          rw [← eq_of_beq isTwelve, Char.ofNat_toNat]
        exact letter 'f' (by rw [← equal]; rfl)
      · split
        · rename_i control
          refine escaped ('u' :: Text.hexDigits 4 character.toNat) ?_
          have read : Reads escape depth ('u' :: Text.hexDigits 4 character.toNat ++ before)
              (Char.ofNat character.toNat) before := reads_escape_code control
          rwa [Char.ofNat_toNat] at read
        · rename_i printable
          refine reads_peek?.bind ((reads_skip character).bind ?_)
          rw [if_neg (by simpa using notQuote), if_neg (by simpa using notBackslash),
            if_neg printable]
          exact following

theorem reads_textCharacters
    (characters : List Char)
    {fuel : Nat}
    (enough : characters.length < fuel)
    (reversed : List Char) :
    Reads (textCharacters fuel reversed) depth
      (characters.flatMap Json.escapedCharacter ++ '"' :: after)
      (reversed.reverse ++ characters) after := by
  induction characters generalizing fuel reversed with
  | nil =>
    obtain ⟨further, rfl⟩ := Nat.exists_eq_succ_of_ne_zero (Nat.ne_of_gt enough)
    rw [List.append_nil]
    exact reads_peek?.bind ((reads_skip '"').bind (Reads.pure reversed.reverse))
  | cons character rest inductionHypothesis =>
    obtain ⟨further, rfl⟩ := Nat.exists_eq_succ_of_ne_zero (Nat.ne_of_gt (Nat.zero_lt_of_lt enough))
    rw [List.length_cons] at enough
    have following := inductionHypothesis (Nat.lt_of_succ_lt_succ enough) (character :: reversed)
    rw [List.reverse_cons, List.append_assoc, List.singleton_append] at following
    rw [List.flatMap_cons, List.append_assoc]
    exact following.textCharacters_succ

theorem escapedCharacter_ne_nil (character : Char) : Json.escapedCharacter character ≠ [] := by
  unfold Json.escapedCharacter
  split <;> first | exact List.cons_ne_nil _ _ | skip
  split
  · exact List.cons_ne_nil _ _
  · split
    · exact List.cons_ne_nil _ _
    · split <;> exact List.cons_ne_nil _ _

theorem length_le_flatMap
    {write : α → List Char}
    (written : ∀ item, write item ≠ [])
    (items : List α) :
    items.length ≤ (items.flatMap write).length := by
  induction items with
  | nil => exact Nat.le_refl 0
  | cons item rest inductionHypothesis =>
    have nonempty := List.length_pos_iff.mpr (written item)
    rw [List.flatMap_cons, List.length_append, List.length_cons]
    omega

/-- A text is read back from its writing, behind the opening quote. -/
theorem reads_text (value : String) :
    Reads text depth (value.toList.flatMap Json.escapedCharacter ++ '"' :: after) value after := by
  refine Reads.get_bind fun line column => ?_
  have enough : value.toList.length <
      (value.toList.flatMap Json.escapedCharacter ++ '"' :: after).length + 1 := by
    have := length_le_flatMap escapedCharacter_ne_nil value.toList
    rw [List.length_append]
    omega
  refine (reads_textCharacters value.toList enough []).bind ?_
  have whole : String.ofList ([].reverse ++ value.toList) = value := String.ofList_toList
  rw [whole]
  exact Reads.pure value

theorem quotedText_append (value : String) (after : List Char) :
    Json.quotedText value ++ after =
      '"' :: (value.toList.flatMap Json.escapedCharacter ++ '"' :: after) := by
  simp [Json.quotedText]

/-- A key is read back from its writing. -/
theorem reads_key (name : String) : Reads key depth (Json.quotedText name ++ after) name after := by
  rw [quotedText_append]
  exact (reads_skip '"').bind (reads_text name)

end Texts

/-! ## Numbers -/

section Numbers

variable {depth : Nat} {after : List Char}

/-- No character at the front goes on with an integer. -/
def EndsInteger (characters : List Char) : Prop :=
  ∀ character ∈ characters.head?,
    character.isDigit = false ∧ character ≠ '.' ∧ character ≠ 'e' ∧ character ≠ 'E'

/-- Digits are taken as long as their number stays within a limit. -/
theorem digitsWithin_append
    {digits : List Char}
    (allDigits : ∀ digit ∈ digits, digit.isDigit = true)
    (ended : EndsInteger after)
    {limit value : Nat}
    (fits : Nat.ofDigitChars 10 digits value ≤ limit)
    (count : Nat) :
    digitsWithin limit (digits ++ after) value count =
      (Nat.ofDigitChars 10 digits value, count + digits.length) := by
  induction digits generalizing value count with
  | nil =>
    cases after with
    | nil => rfl
    | cons character rest =>
      rw [List.nil_append, digitsWithin, if_neg (by simp [(ended character rfl).1])]
      rfl
  | cons digit rest inductionHypothesis =>
    have longer : value * 10 + (digit.toNat - '0'.toNat) = 10 * value + (digit.toNat - '0'.toNat) :=
      by rw [Nat.mul_comm]
    rw [Nat.ofDigitChars_cons] at fits ⊢
    have grows : 10 * value + (digit.toNat - '0'.toNat) ≤ limit := by
      refine Nat.le_trans ?_ fits
      rw [Nat.ofDigitChars_eq_ofDigitChars_zero]
      have := Nat.le_mul_of_pos_left (10 * value + (digit.toNat - '0'.toNat))
        (Nat.pow_pos (n := rest.length) (show 0 < 10 by decide))
      omega
    rw [List.cons_append, digitsWithin, if_pos (allDigits digit List.mem_cons_self)]
    dsimp only
    rw [longer, if_neg (Nat.not_lt.mpr grows), inductionHypothesis _ fits, List.length_cons]
    · congr 1
      omega
    · exact fun other member => allDigits other (List.mem_cons_of_mem digit member)

theorem reads_skipCount (characters : List Char) :
    Reads (skipCount characters.length) depth (characters ++ after) () after := by
  induction characters with
  | nil => exact Reads.pure ()
  | cons character rest inductionHypothesis =>
    exact (reads_skip character).bind inductionHypothesis

theorem reads_afterInteger
    (ended : EndsInteger after)
    (significand : Nat) :
    Reads (afterInteger true significand) depth after (.natural significand) after := by
  refine reads_peek?.bind ?_
  split
  · rename_i point
    exact absurd rfl (ended '.' point).2.1
  · rename_i mark
    exact absurd rfl (ended 'e' mark).2.2.1
  · rename_i mark
    exact absurd rfl (ended 'E' mark).2.2.2
  · exact Reads.pure (JsonNumber.natural significand)

/-- The digits of an integer are all read where no other digit follows. -/
theorem reads_digitsEnd
    (ended : EndsInteger after)
    (significand : Nat)
    (further : Reader JsonNumber) :
    Reads
      (peek? >>= fun next? =>
        match next? with
        | some character => if character.isDigit then further else afterInteger true significand
        | none => afterInteger true significand)
      depth after (.natural significand) after := by
  refine reads_peek?.bind ?_
  cases after with
  | nil => exact reads_afterInteger ended significand
  | cons character rest =>
    dsimp only [List.head?_cons]
    rw [if_neg (by simp [(ended character rfl).1])]
    exact reads_afterInteger ended significand

/-- A natural number of 64 bits is read back from its writing. -/
theorem reads_number
    {value : Nat}
    (fits : value ≤ wordLimit)
    (ended : EndsInteger after) :
    Reads (number true) depth (Nat.toDigits 10 value ++ after) (.natural value) after := by
  rcases Nat.eq_zero_or_pos value with rfl | positive
  · exact reads_peek?.bind ((reads_skip '0').bind (reads_digitsEnd ended 0 _))
  · have leading := Text.head?_toDigits_ne_zero positive
    have allDigits : ∀ digit ∈ Nat.toDigits 10 value, digit.isDigit = true := fun digit member =>
      Nat.isDigit_of_mem_toDigits (by decide) (by decide) member
    have valueBack : Nat.ofDigitChars 10 (Nat.toDigits 10 value) 0 = value :=
      Nat.ofDigitChars_ten_toDigits
    obtain ⟨first, others, digits_eq⟩ :=
      List.exists_cons_of_ne_nil (Nat.toDigits_ne_nil (n := value) (b := 10))
    rw [digits_eq] at leading allDigits valueBack ⊢
    rw [Nat.ofDigitChars_cons, Nat.mul_zero, Nat.zero_add] at valueBack
    have within : Nat.ofDigitChars 10 others (first.toNat - '0'.toNat) ≤ wordLimit := by
      rwa [valueBack]
    have taken := digitsWithin_append
      (fun digit member => allDigits digit (List.mem_cons_of_mem first member)) ended within 0
    rw [valueBack, Nat.zero_add] at taken
    refine reads_peek?.bind ?_
    dsimp only [List.head?_cons, List.cons_append]
    rw [if_neg (by simpa using leading), if_pos (allDigits first List.mem_cons_self)]
    refine (reads_skip first).bind (Reads.get_bind fun line column => ?_)
    dsimp only
    rw [taken]
    exact (reads_skipCount others).bind (reads_digitsEnd ended value _)

end Numbers

/-! ## Brackets -/

section Brackets

variable {depth : Nat} {before middle after : List Char}

/-- What is read one level deeper is read behind the opening bracket. -/
theorem Reads.nested
    {reader : Reader α}
    {value : α}
    (read : Reads reader depth before value after)
    (positive : 0 < depth)
    (opening : Char) :
    Reads (nested reader) (depth + 1) (opening :: before) value after := by
  intro line column
  obtain ⟨nextLine, nextColumn, advanced⟩ := exists_advance line column depth opening before
  obtain ⟨endLine, endColumn, found⟩ := read nextLine nextColumn
  refine ⟨endLine, endColumn, ?_⟩
  unfold Reader.nested
  rw [run_bind_of_ok (show ExceptT.run (get : Reader Cursor) _ = (.ok _, _) from rfl)]
  dsimp only
  rw [if_neg (by omega)]
  rw [run_bind_of_ok (show ExceptT.run (modify _ : Reader PUnit) _ = (.ok _, _) from rfl)]
  rw [run_bind_of_ok (show ExceptT.run skip _ = (.ok _, _) from rfl)]
  apply run_tryCatch_of_ok
  dsimp only
  rw [Nat.add_sub_cancel, advanced, run_bind_of_ok found]
  rfl

/-- What stands between brackets is read together with the closing bracket. -/
theorem Reads.enclosed
    {content : Reader α}
    {close : Reader Unit}
    {value : α}
    (read : Reads content depth before value middle)
    (closed : Reads close (depth + 1) middle () after)
    (positive : 0 < depth)
    (opening : Char) :
    Reads (enclosed content close) (depth + 1) (opening :: before) value after := by
  have inside : Reads (Except.ok <$> Reader.nested content) (depth + 1) (opening :: before)
      (Except.ok (ε := Fault) value) middle := (read.nested positive opening).map Except.ok
  refine (inside.tryCatch _).bind ?_
  exact closed.bind (Reads.pure value)

theorem reads_colon : Reads colon depth (':' :: after) () after :=
  (reads_token?_cons rfl).bind (reads_skip ':')

theorem reads_closeObject : Reads closeObject depth ('\x7d' :: after) () after :=
  (reads_token?_cons rfl).bind (reads_skip '\x7d')

/-- Another member is found behind a comma and layout. -/
theorem reads_moreMembers_comma
    {layout : List Char}
    (allLayout : ∀ character ∈ layout, isLayout character = true)
    (name : String) :
    Reads (moreMembers false) depth (',' :: (layout ++ (Json.quotedText name ++ after))) true
      (Json.quotedText name ++ after) := by
  refine (reads_token?_cons rfl).bind ((reads_skip ',').bind ?_)
  exact (reads_token? allLayout (by simp [Json.quotedText, isLayout])).bind (Reads.pure true)

/-- The first member is found behind layout. -/
theorem reads_moreMembers_first
    {layout : List Char}
    (allLayout : ∀ character ∈ layout, isLayout character = true)
    (name : String) :
    Reads (moreMembers true) depth (layout ++ (Json.quotedText name ++ after)) true
      (Json.quotedText name ++ after) :=
  (reads_token? allLayout (by simp [Json.quotedText, isLayout])).bind (Reads.pure true)

/-- The end of an object is found behind layout. -/
theorem reads_moreMembers_end
    {layout : List Char}
    (allLayout : ∀ character ∈ layout, isLayout character = true)
    (first : Bool) :
    Reads (moreMembers first) depth (layout ++ '\x7d' :: after) false ('\x7d' :: after) :=
  (reads_token? allLayout (by simp [isLayout])).bind (Reads.pure false)

/-- From one state to another, a step reads the contents of written members, whatever ends them. -/
inductive Collects (step : String → σ → Reader σ) (depth : Nat) :
    σ → List (List Char) → σ → Prop
  | nil (state : σ) : Collects step depth state [] state
  | cons {state middle final : σ} {name : String} {content : List Char}
      {pieces : List (List Char)}
      (read : ∀ rest, EndsInteger rest →
        Reads (step name state) depth (content ++ rest) middle rest)
      (others : Collects step depth middle pieces final) :
      Collects step depth state ((Json.quotedText name ++ content) :: pieces) final

theorem endsInteger_layout
    {layout : List Char}
    (allLayout : ∀ character ∈ layout, isLayout character = true)
    (ended : EndsInteger after) :
    EndsInteger (layout ++ after) := by
  cases layout with
  | nil => exact ended
  | cons first rest =>
    intro character atFront
    cases atFront
    have isLayout := allLayout first List.mem_cons_self
    simp only [Reader.isLayout, Bool.or_eq_true, beq_iff_eq] at isLayout
    rcases isLayout with ((rfl | rfl) | rfl) | rfl <;> decide

theorem separated_cons (separator piece : List Char) (pieces : List (List Char)) :
    Json.separated separator (piece :: pieces) =
      piece ++ pieces.flatMap (separator ++ ·) := by
  induction pieces generalizing piece with
  | nil => simp [Json.separated]
  | cons next rest inductionHypothesis =>
    rw [Json.separated, inductionHypothesis, List.flatMap_cons, List.append_assoc,
      List.append_assoc]
    simp

/-- Every member is written with its name, so there are no more members than characters. -/
theorem Collects.length_le
    {step : String → σ → Reader σ}
    {state final : σ}
    {pieces : List (List Char)}
    (collects : Collects step depth state pieces final)
    (layout : List Char) :
    pieces.length ≤ (Json.separated (',' :: layout) pieces).length := by
  cases collects with
  | nil => exact Nat.le_refl 0
  | @cons _ _ _ name content pieces _ _ =>
    have apart : pieces.length ≤ (pieces.flatMap ((',' :: layout) ++ ·)).length :=
      length_le_flatMap (fun piece => List.cons_ne_nil ',' (layout ++ piece)) pieces
    rw [separated_cons, quotedText_append]
    simp only [List.length_cons, List.length_append]
    omega

/-- A number in a member ends where the next member or the end of the object begins. -/
theorem endsInteger_further
    {layout closing : List Char}
    (allClosing : ∀ character ∈ closing, isLayout character = true)
    (pieces : List (List Char)) :
    EndsInteger (pieces.flatMap ((',' :: layout) ++ ·) ++ (closing ++ '\x7d' :: after)) := by
  cases pieces with
  | nil =>
    rw [List.flatMap_nil, List.nil_append]
    refine endsInteger_layout allClosing ?_
    intro character atFront
    cases atFront
    decide
  | cons piece rest =>
    intro character atFront
    cases atFront
    decide

/-- Further members are read up to the closing brace. -/
theorem Collects.reads_further
    {step : String → σ → Reader σ}
    {state final : σ}
    {pieces : List (List Char)}
    (collects : Collects step depth state pieces final)
    {layout closing : List Char}
    (allLayout : ∀ character ∈ layout, isLayout character = true)
    (allClosing : ∀ character ∈ closing, isLayout character = true)
    {fuel : Nat}
    (enough : pieces.length < fuel) :
    Reads (members step fuel false state) depth
      (pieces.flatMap ((',' :: layout) ++ ·) ++ (closing ++ '\x7d' :: after)) final
      ('\x7d' :: after) := by
  induction collects generalizing fuel with
  | nil state =>
    obtain ⟨further, rfl⟩ := Nat.exists_eq_succ_of_ne_zero (Nat.ne_of_gt enough)
    exact (reads_moreMembers_end allClosing false).bind (Reads.pure state)
  | @cons state middle final name content pieces read others inductionHypothesis =>
    obtain ⟨further, rfl⟩ := Nat.exists_eq_succ_of_ne_zero (Nat.ne_of_gt (Nat.zero_lt_of_lt enough))
    have following := inductionHypothesis (Nat.lt_of_succ_lt_succ enough)
    rw [List.flatMap_cons, List.append_assoc, List.cons_append, List.cons_append,
      List.append_assoc, List.append_assoc]
    exact (reads_moreMembers_comma allLayout name).bind ((reads_key name).bind
      ((read _ (endsInteger_further allClosing pieces)).bind following))

/-- The members of an object are read up to its closing brace. -/
theorem Collects.reads_members
    {step : String → σ → Reader σ}
    {state final : σ}
    {pieces : List (List Char)}
    (collects : Collects step depth state pieces final)
    {layout closing : List Char}
    (allLayout : ∀ character ∈ layout, isLayout character = true)
    (allClosing : ∀ character ∈ closing, isLayout character = true)
    {fuel : Nat}
    (enough : pieces.length < fuel) :
    Reads (members step fuel true state) depth
      (layout ++ (Json.separated (',' :: layout) pieces ++ (closing ++ '\x7d' :: after))) final
      ('\x7d' :: after) := by
  obtain ⟨further, rfl⟩ := Nat.exists_eq_succ_of_ne_zero (Nat.ne_of_gt (Nat.zero_lt_of_lt enough))
  cases collects with
  | nil state =>
    rw [Json.separated, List.nil_append, ← List.append_assoc]
    have allBlank : ∀ character ∈ layout ++ closing, isLayout character = true := by
      intro character member
      rcases List.mem_append.mp member with inLayout | inClosing
      · exact allLayout character inLayout
      · exact allClosing character inClosing
    exact (reads_moreMembers_end allBlank true).bind (Reads.pure state)
  | @cons state middle final name content pieces read others =>
    rw [separated_cons, List.append_assoc, List.append_assoc]
    exact (reads_moreMembers_first allLayout name).bind ((reads_key name).bind
      ((read _ (endsInteger_further allClosing pieces)).bind
        (others.reads_further allLayout allClosing (Nat.lt_of_succ_lt_succ enough))))

end Brackets

/-! ## Whole texts -/

/-- What is read up to the end of a text is its value. -/
theorem run_of_reads
    {reader : Reader α}
    {text : String}
    {value : α}
    (read : Reads reader Cursor.nestingLimit text.toList value []) :
    run reader text = .ok value := by
  have atEnd : Reads token? Cursor.nestingLimit ([] ++ []) none [] :=
    reads_token? (by simp) (by simp)
  have finished : Reads finish Cursor.nestingLimit [] () [] := atEnd.bind (Reads.pure ())
  have whole : Reads (do
      let value ← reader
      finish
      return value) Cursor.nestingLimit text.toList value [] :=
    read.bind (finished.bind (Reads.pure value))
  obtain ⟨endLine, endColumn, found⟩ := whole 1 0
  exact congrArg Prod.fst found

/-- A text with something else behind its value cannot be read. -/
theorem exists_run_eq_error
    {reader : Reader α}
    {text : String}
    {value : α}
    {character : Char}
    {after : List Char}
    (read : Reads reader Cursor.nestingLimit text.toList value (character :: after))
    (begins : isLayout character = false) :
    ∃ fault, run reader text = .error fault := by
  obtain ⟨line, column, found⟩ := read 1 0
  have next : Reads token? Cursor.nestingLimit (character :: after) (some character)
      (character :: after) := reads_token?_cons begins
  obtain ⟨endLine, endColumn, token⟩ := next line column
  have stopped : ∃ fault cursor,
      ExceptT.run finish ⟨line, column, character :: after, Cursor.nestingLimit⟩ =
        (.error fault, cursor) := by
    rw [finish, run_bind_of_ok token]
    exact ⟨_, _, rfl⟩
  obtain ⟨fault, cursor, stopped⟩ := stopped
  refine ⟨fault, ?_⟩
  rw [run]
  rw [Cursor.start, run_bind_of_ok found, ExceptT.run_bind, bind_apply, stopped]
  rfl

end Reader
end QualityGate
