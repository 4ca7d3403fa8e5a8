import QualityGate.Proofs.Json.Record

/-!
# Indented writing is read back

Where a document is written with one member a line, layout stands in front of the tokens.  A reader
that takes a token first steps over it, so what is read without layout is read behind it as well.
Dictionaries in order and values that may be missing are read back from that writing.
-/

namespace QualityGate

/-! ## Dictionaries in order -/

namespace Dictionary

variable {α : Type}

/-- A key above all others is put behind them. -/
theorem insert_of_above
    {dictionary : Dictionary α}
    {key : String}
    (above : ∀ other ∈ dictionary.map Prod.fst, other < key)
    (value : α) :
    insert key value dictionary = dictionary ++ [(key, value)] := by
  induction dictionary with
  | nil => rfl
  | cons pair rest inductionHypothesis =>
    obtain ⟨other, held⟩ := pair
    obtain ⟨here, further⟩ := List.forall_mem_cons.mp above
    have notBefore : ¬key < other := Std.not_lt.mpr (Std.le_of_lt here)
    have differs : key ≠ other := fun same => Std.lt_irrefl (same ▸ here)
    rw [insert, if_neg notBefore, if_neg differs, inductionHypothesis further, List.cons_append]

end Dictionary

namespace Reader

variable {α : Type}

/-! ## Layout in front of a token -/

theorem exists_skipFrom_append
    {layout : List Char}
    (allLayout : ∀ character ∈ layout, isLayout character = true)
    (rest : List Char)
    (line column depth : Nat) :
    ∃ nextLine nextColumn,
      skipFrom isLayout (layout ++ rest) ⟨line, column, layout ++ rest, depth⟩ =
        skipFrom isLayout rest ⟨nextLine, nextColumn, rest, depth⟩ := by
  induction layout generalizing line column with
  | nil => exact ⟨line, column, rfl⟩
  | cons character others inductionHypothesis =>
    obtain ⟨here, further⟩ := List.forall_mem_cons.mp allLayout
    obtain ⟨nextLine, nextColumn, advanced⟩ :=
      exists_advance line column depth character (others ++ rest)
    rw [List.cons_append, skipFrom, if_pos here, advanced]
    exact inductionHypothesis further nextLine nextColumn

/-- A reader looks at the next token first. -/
def BeginsWithToken (reader : Reader α) : Prop :=
  ∃ next, reader = token? >>= next

theorem beginsWithToken_valueStart (next : Char → Reader α) :
    BeginsWithToken (valueStart >>= next) :=
  ⟨_, bind_assoc ..⟩

/-- Layout in front of the first token makes no difference. -/
theorem BeginsWithToken.reads
    {reader : Reader α}
    (begins : BeginsWithToken reader)
    {layout before after : List Char}
    (allLayout : ∀ character ∈ layout, isLayout character = true)
    {depth : Nat}
    {value : α}
    (read : Reads reader depth before value after) :
    Reads reader depth (layout ++ before) value after := by
  obtain ⟨next, rfl⟩ := begins
  intro line column
  obtain ⟨nextLine, nextColumn, skipped⟩ :=
    exists_skipFrom_append allLayout before line column depth
  obtain ⟨endLine, endColumn, found⟩ := read nextLine nextColumn
  refine ⟨endLine, endColumn, ?_⟩
  have token_eq : token? = skipWhile isLayout >>= fun _ => peek? := rfl
  have skips (cursor : Cursor) : ExceptT.run (skipWhile isLayout) cursor =
      (.ok (), skipFrom isLayout cursor.rest cursor) := rfl
  rw [token_eq, bind_assoc, run_bind_of_ok (skips _)] at found ⊢
  rw [skipped]
  exact found

theorem reads_word
    (letters : List Char)
    {depth : Nat}
    {after : List Char} :
    Reads (word letters) depth (letters ++ after) () after := by
  induction letters with
  | nil => exact Reads.pure ()
  | cons letter rest inductionHypothesis =>
    refine reads_peek?.bind ?_
    dsimp only [List.cons_append, List.head?_cons]
    rw [if_pos (beq_self_eq_true letter)]
    exact (reads_skip letter).bind inductionHypothesis

/-! ## Brackets -/

theorem isLayout_of_mem_lineBreak (level : Nat) :
    ∀ character ∈ Json.lineBreak level, isLayout character = true := by
  intro character member
  rcases List.mem_cons.mp member with rfl | isBlank
  · rfl
  · rw [List.eq_of_mem_replicate isBlank]
    rfl

/-- Members that are written on lines of their own stand between layout, as members that are written
without blanks do between none. -/
theorem exists_bracketed_append
    (level : Nat)
    (pieces : List (List Char))
    (after : List Char) :
    ∃ layout closing : List Char,
      (∀ character ∈ layout, isLayout character = true) ∧
        (∀ character ∈ closing, isLayout character = true) ∧
        Json.bracketed '\x7b' '\x7d' level pieces ++ after =
          '\x7b' :: (layout ++
            (Json.separated (',' :: layout) pieces ++ (closing ++ '\x7d' :: after))) := by
  cases pieces with
  | nil => exact ⟨[], [], by simp, by simp, rfl⟩
  | cons piece others =>
    refine ⟨Json.lineBreak (level + 1), Json.lineBreak level, isLayout_of_mem_lineBreak _,
      isLayout_of_mem_lineBreak _, ?_⟩
    simp [Json.bracketed]

end Reader

namespace Decoder

open Reader

variable {α σ : Type} {depth : Nat} {after : List Char}

/-! ## Decoders that begin with a token -/

theorem beginsWithToken_natural (bound : Nat) (expecting : String) :
    BeginsWithToken (natural bound expecting).fromText :=
  beginsWithToken_valueStart _

theorem beginsWithToken_dictionary (decoder : Decoder α) :
    BeginsWithToken decoder.dictionary.fromText :=
  beginsWithToken_valueStart _

theorem beginsWithToken_optional (decoder : Decoder α) :
    BeginsWithToken decoder.optional.fromText :=
  ⟨_, rfl⟩

/-! ## Values that may be missing -/

theorem reads_optional_null (decoder : Decoder α) :
    Reads decoder.optional.fromText depth (['n', 'u', 'l', 'l'] ++ after) none after := by
  refine (reads_token?_cons rfl).bind ?_
  exact (reads_skip 'n').bind ((reads_word ['u', 'l', 'l']).bind (Reads.pure none))

/-- A value that is there is read unless it could be taken for a missing one. -/
theorem reads_optional
    {decoder : Decoder α}
    {first : Char}
    {before : List Char}
    {value : α}
    (begins : isLayout first = false)
    (isPresent : first ≠ 'n')
    (read : Reads decoder.fromText depth (first :: before) value after) :
    Reads decoder.optional.fromText depth (first :: before) (some value) after := by
  refine (reads_token?_cons begins).bind ?_
  split
  · rename_i absent
    exact absurd (Option.some.inj absent) isPresent
  · exact read.map some

/-! ## Members behind layout -/

/-- A member of a record is stored from what stands behind layout. -/
theorem reads_readMember_layout
    {fields : List (Field σ)}
    {name : String}
    {draft : Draft σ}
    {decoder : Decoder α}
    {presence : Presence}
    {store : α → σ → σ}
    (known : (fields.find? fun field => field.answersTo name) =
      some (.stored name presence decoder store))
    (fresh : draft.given.contains name = false)
    (begins : BeginsWithToken decoder.fromText)
    {layout content : List Char}
    (allLayout : ∀ character ∈ layout, isLayout character = true)
    {value : α}
    (read : Reads decoder.fromText depth (content ++ after) value after) :
    Reads (readMember fields name draft) depth (':' :: layout ++ content ++ after)
      ⟨store value draft.value, name :: draft.given⟩ after := by
  have behind : Reads (decoder.map store).fromText depth (layout ++ content ++ after)
      (store value) after := by
    rw [List.append_assoc]
    exact (begins.reads allLayout read).map store
  exact reads_readMember known fresh behind

/-! ## Dictionaries -/

/-- Values in the order of their keys are read into the dictionary that they make up. -/
theorem collects_dictionary
    {decoder : Decoder α}
    {write : α → List Char}
    {entries : Dictionary α}
    (found : Dictionary α)
    (ascending : Dictionary.Ascending (found ++ entries))
    (reads : ∀ entry ∈ entries, ∀ rest, EndsInteger rest →
      Reads decoder.fromText depth (write entry.2 ++ rest) entry.2 rest) :
    Collects
      (fun name (found : Dictionary α) => do
        Reader.colon
        let value ← decoder.fromText
        return found.insert name value)
      depth found (entries.map fun entry => Json.quotedText entry.1 ++ ':' :: write entry.2)
      (found ++ entries) := by
  induction entries generalizing found with
  | nil =>
    rw [List.append_nil]
    exact Collects.nil found
  | cons entry others inductionHypothesis =>
    obtain ⟨key, value⟩ := entry
    obtain ⟨here, further⟩ := List.forall_mem_cons.mp reads
    have above : ∀ other ∈ found.map Prod.fst, other < key := by
      intro other member
      rw [Dictionary.Ascending, List.map_append, List.pairwise_append] at ascending
      exact ascending.2.2 other member key List.mem_cons_self
    have inserted := Dictionary.insert_of_above above value
    have regrouped : found ++ (key, value) :: others = found ++ [(key, value)] ++ others := by simp
    rw [regrouped] at ascending ⊢
    refine Collects.cons (fun rest ended => ?_) (inductionHypothesis _ ascending further)
    rw [← inserted]
    exact reads_colon.bind ((here rest ended).bind (Reads.pure _))

/-- A dictionary in order is read back. -/
theorem reads_dictionary
    {decoder : Decoder α}
    {write : α → List Char}
    {entries : Dictionary α}
    (ascending : Dictionary.Ascending entries)
    (reads : ∀ entry ∈ entries, ∀ rest, EndsInteger rest →
      Reads decoder.fromText depth (write entry.2 ++ rest) entry.2 rest)
    (positive : 0 < depth)
    (level : Nat) :
    Reads decoder.dictionary.fromText (depth + 1)
      (Json.bracketed '\x7b' '\x7d' level
        (entries.map fun entry => Json.quotedText entry.1 ++ ':' :: write entry.2) ++ after)
      entries after := by
  have collects := collects_dictionary [] ascending reads
  obtain ⟨layout, closing, allLayout, allClosing, written⟩ := exists_bracketed_append level
    (entries.map fun entry => Json.quotedText entry.1 ++ ':' :: write entry.2) after
  rw [written]
  refine (reads_valueStart rfl rfl).bind ?_
  refine Reads.placed (Reads.enclosed ?_ reads_closeObject positive '\x7b')
  refine Reads.get_bind fun line column => collects.reads_members allLayout allClosing ?_
  have := collects.length_le layout
  simp only [List.length_append]
  omega

end Decoder
end QualityGate
