import QualityGate.Instant.Reader
import QualityGate.Proofs.Text.Decimal
import Mathlib.Tactic.IntervalCases

/-!
# Instants are read back

The relaxed notation reads every proper instant back from its writing in universal time, whatever
its year and its fraction of a second.
-/

namespace QualityGate

/-- A day of the calendar has a supported year, a month and a day of the month. -/
theorem Date.bounds_of_isValid
    {date : Date}
    (valid : date.isValid = true) :
    Date.isSupportedYear date.year = true ∧ (1 ≤ date.month ∧ date.month ≤ 12) ∧
      1 ≤ date.day ∧ date.day ≤ 31 := by
  simp only [isValid, Bool.and_eq_true, decide_eq_true_eq] at valid
  obtain ⟨⟨supported, positive⟩, notMore⟩ := valid
  have longest : daysInMonth date.year date.month ≤ 31 := by
    unfold daysInMonth
    split <;> first | omega | (split <;> omega)
  refine ⟨supported, ?_, positive, by omega⟩
  by_contra outside
  have noMonth : daysInMonth date.year date.month = 0 := by
    unfold daysInMonth
    split <;> first | rfl | (exfalso; apply outside; omega)
  omega

namespace Instant

/-- An instant with a day of the calendar and a second of the day.  Nanoseconds beyond a second are
a leap second, which is the last one of its minute. -/
structure IsProper (instant : Instant) : Prop where
  date : instant.date.isValid = true
  second : instant.second < 86400
  nanosecond : instant.nanosecond < 1000000000 ∨
    instant.second % 60 = 59 ∧ instant.nanosecond < 2000000000

instance (instant : Instant) : Decidable instant.IsProper :=
  decidable_of_iff
    (instant.date.isValid = true ∧ instant.second < 86400 ∧
      (instant.nanosecond < 1000000000 ∨
        instant.second % 60 = 59 ∧ instant.nanosecond < 2000000000))
    ⟨fun holds => ⟨holds.1, holds.2.1, holds.2.2⟩, fun proper =>
      ⟨proper.date, proper.second, proper.nanosecond⟩⟩

/-! ## Scans -/

namespace Scan

variable {α β : Type}

/-- A scan goes on where its first part has stopped. -/
theorem bind_of_ok
    {first : Scan α}
    {next : α → Scan β}
    {before after : List Char}
    {value : α}
    (found : first before = .ok (value, after)) :
    (first >>= next) before = next value after := by
  change (first before >>= fun result => next result.1 result.2) = next value after
  rw [found]
  rfl

/-- No digit stands at the front. -/
def EndsNumber (characters : List Char) : Prop :=
  ∀ character ∈ characters.head?, character.isDigit = false

theorem takeWhile_isDigit_append
    {digits rest : List Char}
    (allDigits : ∀ digit ∈ digits, digit.isDigit = true)
    (ended : EndsNumber rest) :
    (digits ++ rest).takeWhile Char.isDigit = digits := by
  rw [List.takeWhile_append_of_pos allDigits]
  cases rest with
  | nil => simp
  | cons character following =>
    have stops := ended character rfl
    rw [List.takeWhile_cons_of_neg (by simp [stops]), List.append_nil]

theorem EndsNumber.take
    {rest : List Char}
    (ended : EndsNumber rest)
    (count : Nat) :
    EndsNumber (rest.take count) := by
  cases count with
  | zero =>
    intro character atFront
    cases atFront
  | succ further =>
    intro character atFront
    rw [List.head?_take, if_neg (Nat.succ_ne_zero further)] at atFront
    exact ended character atFront

/-- A number that is followed by no further digit is read. -/
theorem number_paddedDecimal
    {least : Nat}
    {width? : Option Nat}
    {padding value : Nat}
    {rest : List Char}
    (longEnough : least ≤ (Text.paddedDecimal padding value).toList.length)
    (fits : ∀ width ∈ width?, (Text.paddedDecimal padding value).toList.length ≤ width)
    (small : value ≤ limit)
    (ended : EndsNumber rest) :
    number least width? ((Text.paddedDecimal padding value).toList ++ rest) =
      .ok (value, rest) := by
  have allDigits := fun digit (member : digit ∈ (Text.paddedDecimal padding value).toList) =>
    Text.isDigit_of_mem_paddedDecimal member
  have valueBack := Text.decimalValue_paddedDecimal padding value
  generalize (Text.paddedDecimal padding value).toList = digits at *
  unfold number
  rw [bind_of_ok (show (get : Scan (List Char)) (digits ++ rest) = .ok (_, _) from rfl)]
  dsimp only
  generalize found : List.takeWhile Char.isDigit _ = taken
  have taken_eq : taken = digits := by
    rw [← found]
    cases width? with
    | none => exact takeWhile_isDigit_append allDigits ended
    | some width =>
      dsimp only
      rw [List.take_append, List.take_of_length_le (fits width rfl)]
      exact takeWhile_isDigit_append allDigits (ended.take _)
  rw [taken_eq, if_neg (Nat.not_lt.mpr longEnough), valueBack, if_neg (Nat.not_lt.mpr small),
    List.drop_left]
  rfl

theorem isBlank_eq_false_of_isDigit
    {character : Char}
    (isDigit : character.isDigit = true) :
    Text.isBlank character = false := by
  have bounds : 48 ≤ character.toNat ∧ character.toNat ≤ 57 := by
    simpa [Char.isDigit, UInt32.le_iff_toNat_le] using isDigit
  obtain ⟨low, high⟩ := bounds
  simp only [Text.isBlank]
  generalize character.toNat = code at low high
  interval_cases code <;> rfl

theorem blanks_of_head
    {characters : List Char}
    (noBlank : ∀ character ∈ characters.head?, Text.isBlank character = false) :
    blanks characters = .ok ((), characters) := by
  have kept : Text.dropStart Text.isBlank characters = characters := by
    cases characters with
    | nil => rfl
    | cons character rest =>
      rw [Text.dropStart, List.dropWhile_cons_of_neg (by simp [noBlank character rfl])]
  change Except.ok ((), Text.dropStart Text.isBlank characters) = _
  rw [kept]

theorem isDigit_head_paddedDecimal (padding value : Nat) (rest : List Char) :
    ∀ character ∈ ((Text.paddedDecimal padding value).toList ++ rest).head?,
      character.isDigit = true := by
  intro character atFront
  rw [List.head?_append_of_ne_nil _ (Text.paddedDecimal_ne_nil padding value)] at atFront
  exact Text.isDigit_of_mem_paddedDecimal (List.mem_of_mem_head? atFront)

theorem blanks_paddedDecimal (padding value : Nat) (rest : List Char) :
    blanks ((Text.paddedDecimal padding value).toList ++ rest) =
      .ok ((), (Text.paddedDecimal padding value).toList ++ rest) := by
  apply blanks_of_head
  intro character atFront
  exact isBlank_eq_false_of_isDigit
    (isDigit_head_paddedDecimal padding value rest character atFront)

theorem literal_cons (character : Char) (rest : List Char) :
    literal character (character :: rest) = .ok ((), rest) := by
  unfold literal
  rw [bind_of_ok (show (get : Scan (List Char)) (character :: rest) = .ok (_, _) from rfl)]
  dsimp only
  rw [if_pos (beq_self_eq_true character)]
  rfl

/-- A number of two digits is read after blanks. -/
theorem short_paddedDecimal
    {low high value : Nat}
    {rest : List Char}
    (notLess : low ≤ value)
    (notMore : value ≤ high)
    (twoDigits : high < 100)
    (ended : EndsNumber rest) :
    short low high ((Text.paddedDecimal 2 value).toList ++ rest) = .ok (value, rest) := by
  have length : (Text.paddedDecimal 2 value).toList.length = 2 :=
    Text.length_paddedDecimal (by decide) (by omega)
  have small : value ≤ limit := by
    have : 100 ≤ limit := by decide
    omega
  have read : number 1 (some 2) ((Text.paddedDecimal 2 value).toList ++ rest) = .ok (value, rest) :=
    number_paddedDecimal (by omega) (by simp [length]) small ended
  unfold short
  rw [bind_of_ok (blanks_paddedDecimal 2 value rest), bind_of_ok read, within,
    if_pos (by simp [notLess, notMore])]
  rfl

/-- A year between 0 and 9999 is read. -/
theorem signedYear_paddedDecimal
    {value : Nat}
    {rest : List Char}
    (fourDigits : value < 10 ^ 4)
    (ended : EndsNumber rest) :
    signedYear ((Text.paddedDecimal 4 value).toList ++ rest) = .ok ((value : Int), rest) := by
  have length : (Text.paddedDecimal 4 value).toList.length = 4 :=
    Text.length_paddedDecimal (by decide) fourDigits
  have small : value ≤ limit := by
    have : 10 ^ 4 ≤ limit := by decide
    omega
  have read : number 1 (some 4) ((Text.paddedDecimal 4 value).toList ++ rest) = .ok (value, rest) :=
    number_paddedDecimal (by omega) (by simp [length]) small ended
  have isDigit := isDigit_head_paddedDecimal 4 value rest
  unfold signedYear
  rw [bind_of_ok (show (get : Scan (List Char)) _ = .ok (_, _) from rfl)]
  generalize (Text.paddedDecimal 4 value).toList ++ rest = whole at read isDigit
  split
  · exact absurd (isDigit '-' rfl) (by decide)
  · exact absurd (isDigit '+' rfl) (by decide)
  · rw [bind_of_ok read]
    rfl

/-- The digits of a year behind a sign are read. -/
theorem number_year
    {value : Nat}
    {rest : List Char}
    (supported : value ≤ 262143)
    (ended : EndsNumber rest) :
    number 1 none ((Text.paddedDecimal 4 value).toList ++ rest) = .ok (value, rest) := by
  have small : value ≤ limit := by
    have : 262143 ≤ limit := by decide
    omega
  have nonempty := List.length_pos_iff.mpr (Text.paddedDecimal_ne_nil 4 value)
  exact number_paddedDecimal (by omega) (by simp) small ended

theorem signedYear_minus (rest : List Char) :
    signedYear ('-' :: rest) =
      (number 1 none >>= fun value => (return -(value : Int) : Scan Int)) rest := rfl

theorem signedYear_plus (rest : List Char) :
    signedYear ('+' :: rest) =
      (number 1 none >>= fun value => (return (value : Int) : Scan Int)) rest := rfl

/-- A year is read, with or without a sign. -/
theorem signedYear_yearText
    {value : Int}
    {rest : List Char}
    (supported : Date.isSupportedYear value = true)
    (ended : EndsNumber rest) :
    signedYear ((yearText value).toList ++ rest) = .ok (value, rest) := by
  have bounds : -262143 ≤ value ∧ value ≤ 262142 := by
    simpa [Date.isSupportedYear] using supported
  have read : number 1 none ((Text.paddedDecimal 4 value.natAbs).toList ++ rest) =
      .ok (value.natAbs, rest) := number_year (by omega) ended
  unfold yearText
  by_cases plain : 0 ≤ value ∧ value ≤ 9999
  · rw [if_pos (by simpa using plain), signedYear_paddedDecimal (by omega) ended]
    rw [Int.natAbs_of_nonneg plain.1]
  · rw [if_neg (by simpa using plain), String.toList_append, List.append_assoc]
    by_cases negative : value < 0
    · rw [if_pos negative, show "-".toList = ['-'] from rfl, List.singleton_append,
        signedYear_minus, bind_of_ok read, Int.ofNat_natAbs_of_nonpos (by omega), Int.neg_neg]
      rfl
    · rw [if_neg negative, show "+".toList = ['+'] from rfl, List.singleton_append,
        signedYear_plus, bind_of_ok read, Int.natAbs_of_nonneg (by omega)]
      rfl

theorem blanks_yearText (value : Int) (rest : List Char) :
    blanks ((yearText value).toList ++ rest) = .ok ((), (yearText value).toList ++ rest) := by
  unfold yearText
  split
  · exact blanks_paddedDecimal 4 value.natAbs rest
  · apply blanks_of_head
    intro character atFront
    rw [String.toList_append, List.append_assoc] at atFront
    split at atFront
    · cases atFront
      rfl
    · cases atFront
      rfl

theorem year_yearText
    {value : Int}
    {rest : List Char}
    (supported : Date.isSupportedYear value = true)
    (ended : EndsNumber rest) :
    year ((yearText value).toList ++ rest) = .ok (value, rest) := by
  have bounds : -262143 ≤ value ∧ value ≤ 262142 := by
    simpa [Date.isSupportedYear] using supported
  have fits : Word.spans 31 31 value = true := by
    have bound : Word.bound 31 = 2147483648 := by decide
    simp only [Word.spans, bound, Bool.and_eq_true, decide_eq_true_eq]
    omega
  unfold year
  rw [bind_of_ok (blanks_yearText value rest), bind_of_ok (signedYear_yearText supported ended),
    if_pos fits]
  rfl

theorem fraction_point (rest : List Char) :
    fraction ('.' :: rest) =
      (number 1 (some 9) >>= fun value => (do
        let count := rest.length - (← get).length
        modify fun characters => characters.dropWhile Char.isDigit
        return value * Nat.pow 10 (9 - count) : Scan Nat)) rest := rfl

/-- The digits of a fraction are read. -/
theorem fraction_paddedDecimal
    {width value : Nat}
    {rest : List Char}
    (widthPositive : 0 < width)
    (notLong : width ≤ 9)
    (fits : value < 10 ^ width)
    (ended : EndsNumber rest) :
    fraction (("." ++ Text.paddedDecimal width value).toList ++ rest) =
      .ok (value * 10 ^ (9 - width), rest) := by
  have length : (Text.paddedDecimal width value).toList.length = width :=
    Text.length_paddedDecimal widthPositive fits
  have small : value ≤ limit := by
    have : 10 ^ 9 ≤ limit := by decide
    have := Nat.pow_le_pow_right (show 0 < 10 by decide) notLong
    omega
  have read : number 1 (some 9) ((Text.paddedDecimal width value).toList ++ rest) =
      .ok (value, rest) :=
    number_paddedDecimal (by omega) (by simp [length, notLong]) small ended
  have noDigit : rest.dropWhile Char.isDigit = rest := by
    cases rest with
    | nil => rfl
    | cons character following =>
      rw [List.dropWhile_cons_of_neg (by simp [ended character rfl])]
  rw [String.toList_append, show ".".toList = ['.'] from rfl, List.singleton_append,
    List.cons_append, fraction_point, bind_of_ok read, List.length_append, length]
  change Except.ok (value * 10 ^ (9 - (width + rest.length - rest.length)),
    rest.dropWhile Char.isDigit) = _
  rw [noDigit, Nat.add_sub_cancel]

theorem fraction_none
    {rest : List Char}
    (noPoint : ∀ character ∈ rest.head?, character ≠ '.') :
    fraction rest = .ok (0, rest) := by
  unfold fraction
  rw [bind_of_ok (show (get : Scan (List Char)) rest = .ok (_, _) from rfl)]
  split
  · exact absurd rfl (noPoint '.' rfl)
  · rfl

/-- The digits of a second end where its fraction begins. -/
theorem endsNumber_fractionText
    (nanosecond : Nat)
    {rest : List Char}
    (ended : EndsNumber rest) :
    EndsNumber ((fractionText nanosecond).toList ++ rest) := by
  have atPoint (text : String) : EndsNumber (("." ++ text).toList ++ rest) := by
    intro character atFront
    rw [String.toList_append, List.append_assoc] at atFront
    cases atFront
    rfl
  unfold fractionText
  split
  · exact ended
  · split
    · exact atPoint _
    · split
      · exact atPoint _
      · exact atPoint _

/-- A fraction of a second is read, however many digits it is written with. -/
theorem fraction_fractionText
    {nanosecond : Nat}
    {rest : List Char}
    (lessThanSecond : nanosecond < 1000000000)
    (ended : EndsNumber rest)
    (noPoint : ∀ character ∈ rest.head?, character ≠ '.') :
    fraction ((fractionText nanosecond).toList ++ rest) = .ok (nanosecond, rest) := by
  unfold fractionText
  split
  · rename_i isZero
    rw [eq_of_beq isZero]
    exact fraction_none noPoint
  · split
    · rename_i milliseconds
      have exact := eq_of_beq milliseconds
      rw [fraction_paddedDecimal (by decide) (by decide) (by omega) ended]
      congr 2
      omega
    · split
      · rename_i microseconds
        have exact := eq_of_beq microseconds
        rw [fraction_paddedDecimal (by decide) (by decide) (by omega) ended]
        congr 2
        omega
      · rw [fraction_paddedDecimal (by decide) (by decide) (by omega) ended]
        congr 2
        omega

end Scan

/-! ## The relaxed notation -/

theorem ofLocal_zero
    {instant : Instant}
    (inDay : instant.second < 86400) :
    instant.ofLocal 0 = instant := by
  unfold ofLocal
  rw [Int.sub_zero]
  dsimp only
  rw [if_neg (by omega), if_neg (by omega)]
  rfl

/-- Parts in universal time that belong to an instant give it back. -/
theorem ofParts_of_eq
    {instant : Instant}
    {hour minute second nanosecond : Nat}
    (proper : instant.IsProper)
    (seconds : hour * 3600 + minute * 60 + (if second == 60 then 59 else second) = instant.second)
    (nanoseconds : nanosecond + (if second == 60 then 1000000000 else 0) = instant.nanosecond)
    (rest : List Char) :
    ofParts instant.date hour minute second nanosecond 0 rest = .ok (instant, rest) := by
  unfold ofParts validDate
  rw [if_pos proper.date, Scan.bind_of_ok (show (pure _ : Scan Date) rest = .ok (_, _) from rfl)]
  dsimp only
  rw [seconds, nanoseconds, if_pos (by decide), ofLocal_zero proper.second, if_pos proper.date]
  rfl

theorem toList_zuluText (instant : Instant) :
    instant.zuluText.toList =
      (yearText instant.date.year).toList ++ '-' ::
      ((Text.paddedDecimal 2 instant.date.month).toList ++ '-' ::
      ((Text.paddedDecimal 2 instant.date.day).toList ++ 'T' ::
      ((Text.paddedDecimal 2 (instant.second / 3600)).toList ++ ':' ::
      ((Text.paddedDecimal 2 (instant.second / 60 % 60)).toList ++ ':' ::
      ((Text.paddedDecimal 2
        (instant.second % 60 + if 1000000000 ≤ instant.nanosecond then 1 else 0)).toList ++
      ((fractionText
        (if 1000000000 ≤ instant.nanosecond then instant.nanosecond - 1000000000
          else instant.nanosecond)).toList ++ ['Z'])))))) := by
  simp [zuluText, localText]

/-- Every proper instant is read back from its writing. -/
theorem parse_zuluText
    {instant : Instant}
    (proper : instant.IsProper) :
    parse instant.zuluText = .ok instant := by
  obtain ⟨supported, ⟨monthLow, monthHigh⟩, dayLow, dayHigh⟩ :=
    Date.bounds_of_isValid proper.date
  have inDay := proper.second
  have inSecond := proper.nanosecond
  unfold parse runScan
  rw [toList_zuluText]
  generalize second_eq :
    (instant.second % 60 + if 1000000000 ≤ instant.nanosecond then 1 else 0) = second at *
  generalize fraction_eq : (if 1000000000 ≤ instant.nanosecond then
    instant.nanosecond - 1000000000 else instant.nanosecond) = nanosecond at *
  have secondHigh : second ≤ 60 := by
    split at second_eq <;> omega
  have fractionHigh : nanosecond < 1000000000 := by
    split at fraction_eq <;> omega
  have back : ofParts instant.date (instant.second / 3600) (instant.second / 60 % 60) second
      nanosecond 0 [] = .ok (instant, []) := by
    apply ofParts_of_eq proper
    · simp only [beq_iff_eq]
      split at second_eq <;> split <;> omega
    · simp only [beq_iff_eq]
      split at second_eq <;> split at fraction_eq <;> split <;> omega
  have ended (character : Char) (rest : List Char) (other : character.isDigit = false) :
      Scan.EndsNumber (character :: rest) := by
    intro first atFront
    cases atFront
    exact other
  have noBlank (character : Char) (rest : List Char) (other : Text.isBlank character = false) :
      Scan.blanks (character :: rest) = .ok ((), character :: rest) := by
    apply Scan.blanks_of_head
    intro first atFront
    cases atFront
    exact other
  have noPoint : ∀ character ∈ ['Z'].head?, character ≠ '.' := by
    intro character atFront
    cases atFront
    decide
  unfold relaxed
  rw [Scan.bind_of_ok (Scan.year_yearText supported (ended '-' _ rfl)),
    Scan.bind_of_ok (noBlank '-' _ rfl), Scan.bind_of_ok (Scan.literal_cons '-' _),
    Scan.bind_of_ok (Scan.short_paddedDecimal monthLow monthHigh (by decide) (ended '-' _ rfl)),
    Scan.bind_of_ok (noBlank '-' _ rfl), Scan.bind_of_ok (Scan.literal_cons '-' _),
    Scan.bind_of_ok (Scan.short_paddedDecimal dayLow dayHigh (by decide) (ended 'T' _ rfl)),
    Scan.bind_of_ok (show Scan.divider ('T' :: _) = .ok (_, _) from rfl),
    Scan.bind_of_ok
      (Scan.short_paddedDecimal (Nat.zero_le _) (by omega) (by decide) (ended ':' _ rfl)),
    Scan.bind_of_ok (noBlank ':' _ rfl), Scan.bind_of_ok (Scan.literal_cons ':' _),
    Scan.bind_of_ok
      (Scan.short_paddedDecimal (Nat.zero_le _) (by omega) (by decide) (ended ':' _ rfl)),
    Scan.bind_of_ok (noBlank ':' _ rfl), Scan.bind_of_ok (Scan.literal_cons ':' _),
    Scan.bind_of_ok
      (Scan.short_paddedDecimal (Nat.zero_le _) secondHigh (by decide)
        (Scan.endsNumber_fractionText nanosecond (ended 'Z' [] rfl))),
    Scan.bind_of_ok (Scan.fraction_fractionText fractionHigh (ended 'Z' [] rfl) noPoint),
    Scan.bind_of_ok (noBlank 'Z' [] rfl),
    Scan.bind_of_ok (show looseZone ['Z'] = .ok (0, []) from rfl),
    Scan.bind_of_ok (show Scan.blanks [] = .ok ((), []) from rfl),
    Scan.bind_of_ok (show Scan.finish [] = .ok ((), []) from rfl), back]
  rfl

end Instant
end QualityGate
