import QualityGate.Decoder
import QualityGate.Proofs.Instant.RoundTrip
import QualityGate.Proofs.Json.Reads

/-!
# Records are read back

Decoders read what was written for their values: natural numbers, texts with a meaning of their own,
and records whose members are written as an object.
-/

namespace QualityGate

namespace Reader

variable {α : Type} {depth : Nat} {after : List Char}

theorem reads_valueStart
    {before : List Char}
    {first : Char}
    (isFirst : before.head? = some first)
    (begins : isLayout first = false) :
    Reads valueStart depth before first before := by
  have read : Reads token? depth ([] ++ before) before.head? before :=
    reads_token? (by simp) (by simpa [isFirst] using begins)
  rw [isFirst] at read
  exact read.bind (Reads.pure first)

/-- A scalar is decoded from the JSON value that is read. -/
theorem reads_scalarOf
    {starts : Char → Bool}
    {expecting : String}
    {decode : Json → Except Cause α}
    {before : List Char}
    {first : Char}
    {value : Json}
    {decoded : α}
    (isFirst : before.head? = some first)
    (begins : isLayout first = false)
    (accepted : starts first = true)
    (read : Reads (scalar? first) depth before (some value) after)
    (decodes : decode value = .ok decoded) :
    Reads (scalarOf starts expecting decode) depth before decoded after := by
  refine (reads_valueStart isFirst begins).bind ?_
  rw [if_pos accepted]
  exact read.bind (reads_ofExcept decodes)

theorem reads_scalar?_quote (value : String) :
    Reads (scalar? '"') depth (Json.quotedText value ++ after) (some (.text value)) after := by
  rw [quotedText_append]
  have unfolded : scalar? '"' = (do
      skip
      return some (.text (← text))) := rfl
  rw [unfolded]
  exact (reads_skip '"').bind ((reads_text value).bind (Reads.pure _))

theorem beq_eq_false_of_isDigit
    {first : Char}
    (isDigit : first.isDigit = true)
    (other : Char)
    (noDigit : other.isDigit = false) :
    (first == other) = false := by
  rw [beq_eq_false_iff_ne]
  rintro rfl
  rw [noDigit] at isDigit
  cases isDigit

theorem isLayout_eq_false_of_isDigit
    {first : Char}
    (isDigit : first.isDigit = true) :
    isLayout first = false := by
  rw [isLayout, beq_eq_false_of_isDigit isDigit ' ' rfl, beq_eq_false_of_isDigit isDigit '\n' rfl,
    beq_eq_false_of_isDigit isDigit '\t' rfl, beq_eq_false_of_isDigit isDigit '\r' rfl]
  rfl

/-- A natural number is a scalar that begins with a digit. -/
theorem reads_scalar?_natural
    {value : Nat}
    (fits : value ≤ wordLimit)
    (ended : EndsInteger after)
    {first : Char}
    (isFirst : (Nat.toDigits 10 value).head? = some first) :
    Reads (scalar? first) depth (Nat.toDigits 10 value ++ after) (some (Json.natural value))
      after := by
  have isDigit : first.isDigit = true :=
    Nat.isDigit_of_mem_toDigits (by decide) (by decide) (List.mem_of_mem_head? isFirst)
  have differs (other : Char) (noDigit : other.isDigit = false) : ¬(first == other) = true := by
    rw [beq_eq_false_of_isDigit isDigit other noDigit]
    exact Bool.false_ne_true
  unfold scalar?
  rw [if_neg (differs 'n' rfl), if_neg (differs 't' rfl), if_neg (differs 'f' rfl),
    if_neg (differs '-' rfl), if_pos isDigit]
  exact (reads_number fits ended).bind (Reads.pure _)

end Reader

namespace Decoder

open Reader

variable {α σ : Type} {depth : Nat} {after : List Char}

/-- A natural number is read back. -/
theorem reads_natural
    {bound value : Nat}
    (expecting : String)
    (below : value < bound)
    (fits : value ≤ wordLimit)
    (ended : EndsInteger after) :
    Reads (natural bound expecting).fromText depth (Nat.toDigits 10 value ++ after) value
      after := by
  obtain ⟨first, others, digits_eq⟩ :=
    List.exists_cons_of_ne_nil (Nat.toDigits_ne_nil (n := value) (b := 10))
  have isFirst : (Nat.toDigits 10 value).head? = some first := by rw [digits_eq]; rfl
  have isDigit : first.isDigit = true :=
    Nat.isDigit_of_mem_toDigits (by decide) (by decide) (List.mem_of_mem_head? isFirst)
  have isFront : (Nat.toDigits 10 value ++ after).head? = some first := by
    rw [digits_eq]
    rfl
  refine reads_scalarOf isFront (isLayout_eq_false_of_isDigit isDigit) ?_
    (reads_scalar?_natural fits ended isFirst) (if_pos below)
  rw [startsNumber, isDigit, Bool.or_true]

/-- A text with a meaning of its own is read back. -/
theorem reads_parsedText
    {parse : String → Except Cause α}
    {value : String}
    {decoded : α}
    (expecting : String)
    (parses : parse value = .ok decoded) :
    Reads (parsedText expecting parse).fromText depth (Json.quotedText value ++ after) decoded
      after := by
  have isFirst : (Json.quotedText value ++ after).head? = some '"' := by
    rw [quotedText_append, List.head?_cons]
  exact reads_scalarOf isFirst rfl rfl (reads_scalar?_quote value) parses

/-- A proper instant is read back. -/
theorem reads_instant
    {value : Instant}
    (proper : value.IsProper) :
    Reads instant.fromText depth (Json.quotedText value.zuluText ++ after) value after := by
  have parses : (fun text => (Instant.parse text).mapError fun fault => Cause.other fault.message)
      value.zuluText = .ok value := by
    dsimp only
    rw [Instant.parse_zuluText proper]
    rfl
  exact reads_parsedText "an RFC 3339 formatted date and time string" parses

/-- A member of a record is stored, unless it was given before. -/
theorem reads_readMember
    {fields : List (Field σ)}
    {field : Field σ}
    {name : String}
    {draft : Draft σ}
    {content : List Char}
    {store : σ → σ}
    (known : (fields.find? fun field => field.answersTo name) = some field)
    (fresh : draft.given.contains field.name = false)
    (read : Reads field.decoder.fromText depth (content ++ after) store after) :
    Reads (readMember fields name draft) depth (':' :: content ++ after)
      ⟨store draft.value, field.name :: draft.given⟩ after := by
  unfold readMember
  rw [known]
  dsimp only
  rw [fresh]
  exact reads_colon.bind (read.bind (Reads.pure _))

/-- A record all of whose needed members are written is read back. -/
theorem reads_record
    {fields : List (Field σ)}
    {initial value : σ}
    {draft : Draft σ}
    {pieces : List (List Char)}
    (name : String)
    (collects : Collects (readMember fields) depth ⟨initial, []⟩ pieces draft)
    (completed : complete fields draft = .ok value)
    (positive : 0 < depth)
    {layout closing : List Char}
    (allLayout : ∀ character ∈ layout, isLayout character = true)
    (allClosing : ∀ character ∈ closing, isLayout character = true) :
    Reads (record name initial fields).fromText (depth + 1)
      ('\x7b' ::
        (layout ++ (Json.separated (',' :: layout) pieces ++ (closing ++ '\x7d' :: after))))
      value after := by
  have opening : Reads valueStart (depth + 1)
      ('\x7b' ::
        (layout ++ (Json.separated (',' :: layout) pieces ++ (closing ++ '\x7d' :: after))))
      '\x7b' _ := reads_valueStart rfl rfl
  refine opening.bind (Reads.placed (Reads.enclosed ?_ reads_closeObject positive '\x7b'))
  refine Reads.get_bind fun line column => (collects.reads_members allLayout allClosing ?_).bind ?_
  · have := collects.length_le layout
    simp only [List.length_append]
    omega
  · rw [completed]
    exact Reads.pure value

end Decoder
end QualityGate
