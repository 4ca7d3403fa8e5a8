import QualityGate.Proofs.Json.Agreement
import QualityGate.Proofs.Placeholder.Promise
import QualityGate.Proofs.Text.Blanks

/-!
# Blanks around the fields of a declaration

The scope, the impact and the expiry of a declaration are read without the blanks at their ends: by
the check that they are given, by the readers of impacts and of instants, and by the search for
scopes that must not be degraded.  So blanks change no rule that is about declarations.

What a declaration governs is told from its scope as it is written, though.  Between blanks a scope
is as valid as before, and governs only what has the same blanks.
-/

namespace QualityGate
namespace Placeholder

/-! ## Declarations -/

/-- The second declaration is the first one with blanks around its scope, impact and expiry. -/
structure PadsDeclaration (declaration padded : Declaration) : Prop where
  id_eq : padded.id? = declaration.id?
  scope : Option.Rel Text.Pads declaration.scope? padded.scope?
  reason_eq : padded.reason? = declaration.reason?
  impact : Option.Rel Text.Pads declaration.impact? padded.impact?
  fallback_eq : padded.fallback? = declaration.fallback?
  debtNote_eq : padded.debtNote? = declaration.debtNote?
  expiry : Option.Rel Text.Pads declaration.expiry? padded.expiry?

theorem optionRel_pads_refl (value? : Option String) : Option.Rel Text.Pads value? value? := by
  cases value? with
  | none => exact .none
  | some value => exact .some (.refl value)

theorem PadsDeclaration.refl (declaration : Declaration) :
    PadsDeclaration declaration declaration where
  id_eq := rfl
  scope := optionRel_pads_refl _
  reason_eq := rfl
  impact := optionRel_pads_refl _
  fallback_eq := rfl
  debtNote_eq := rfl
  expiry := optionRel_pads_refl _

/-- What is read between blanks is read alike from both texts. -/
theorem bind_eq_of_pads
    {α : Type}
    {read : String → Option α}
    (readsTrimmed : ∀ text padded, Text.Pads text padded → read padded = read text)
    {value? padded? : Option String}
    (pads : Option.Rel Text.Pads value? padded?) :
    padded?.bind read = value?.bind read := by
  cases pads with
  | none => rfl
  | some pads => exact readsTrimmed _ _ pads

theorem all_eq_of_pads
    {accepts : String → Bool}
    (readsTrimmed : ∀ text padded, Text.Pads text padded → accepts padded = accepts text)
    {value? padded? : Option String}
    (pads : Option.Rel Text.Pads value? padded?) :
    padded?.all accepts = value?.all accepts := by
  cases pads with
  | none => rfl
  | some pads => exact readsTrimmed _ _ pads

section Declared

variable {declaration padded : Declaration}

theorem impactParse?_eq_of_pads
    (text padded : String)
    (pads : Text.Pads text padded) :
    Impact.parse? padded = Impact.parse? text := by
  rw [Impact.parse?, Impact.parse?, pads.trim_eq]

theorem parseExpiry_eq_of_pads
    (text padded : String)
    (pads : Text.Pads text padded) :
    Instant.parseExpiry padded = Instant.parseExpiry text := by
  rw [Instant.parseExpiry, Instant.parseExpiry, pads.trim_eq]

theorem nonDegradable?_eq_of_pads
    (settings : PlaceholderSettings)
    (text padded : String)
    (pads : Text.Pads text padded) :
    nonDegradable? settings padded = nonDegradable? settings text := by
  rw [nonDegradable?, nonDegradable?, pads.trim_eq]

theorem isMissing_eq_of_pads
    {value? padded? : Option String}
    (pads : Option.Rel Text.Pads value? padded?) :
    Declaration.isMissing padded? = Declaration.isMissing value? := by
  cases pads with
  | none => rfl
  | some pads => exact pads.isBlankText_eq

theorem PadsDeclaration.impactOf?_eq (pads : PadsDeclaration declaration padded) :
    padded.impactOf? = declaration.impactOf? :=
  bind_eq_of_pads impactParse?_eq_of_pads pads.impact

theorem PadsDeclaration.isExpired_eq (pads : PadsDeclaration declaration padded) (now : Instant) :
    padded.isExpired now = declaration.isExpired now := by
  rw [Declaration.isExpired, Declaration.isExpired,
    bind_eq_of_pads parseExpiry_eq_of_pads pads.expiry]

theorem PadsDeclaration.isCritical_iff
    (pads : PadsDeclaration declaration padded)
    (settings : PlaceholderSettings) :
    IsCritical settings padded ↔ IsCritical settings declaration := by
  rw [Placeholder.isCritical_iff, Placeholder.isCritical_iff,
    bind_eq_of_pads (nonDegradable?_eq_of_pads settings) pads.scope]

/-- Nothing is wrong with a declaration if what is needed is given, and impact and expiry can be
read. -/
theorem isValid_eq (declaration : Declaration) :
    declaration.isValid =
      ((declaration.needed.all fun field => !Declaration.isMissing field.2) &&
        (declaration.impact?.all fun impact =>
          Text.isBlankText impact || (Impact.parse? impact).isSome) &&
        declaration.expiry?.all fun expiry => (Instant.parseExpiry expiry).isSome) := by
  rw [Bool.eq_iff_iff, Declaration.isValid, List.isEmpty_iff, Declaration.problems,
    List.append_eq_nil_iff, List.append_eq_nil_iff, List.map_eq_nil_iff, List.filter_eq_nil_iff,
    Bool.and_eq_true, Bool.and_eq_true]
  refine and_congr (and_congr (by simp) ?_) ?_
  · cases declaration.impact? with
    | none => simp
    | some impact =>
      rw [ite_eq_right_iff]
      simp [or_iff_not_imp_left, Option.isSome_iff_ne_none]
  · cases declaration.expiry? with
    | none => simp
    | some expiry => simp [Option.isSome_iff_ne_none]

theorem PadsDeclaration.isValid_eq (pads : PadsDeclaration declaration padded) :
    padded.isValid = declaration.isValid := by
  have impact_eq (text padded : String) (pads : Text.Pads text padded) :
      (Text.isBlankText padded || (Impact.parse? padded).isSome) =
        (Text.isBlankText text || (Impact.parse? text).isSome) := by
    rw [pads.isBlankText_eq, impactParse?_eq_of_pads text padded pads]
  have expiry_eq (text padded : String) (pads : Text.Pads text padded) :
      (Instant.parseExpiry padded).isSome = (Instant.parseExpiry text).isSome := by
    rw [parseExpiry_eq_of_pads text padded pads]
  rw [Placeholder.isValid_eq, Placeholder.isValid_eq, all_eq_of_pads impact_eq pads.impact,
    all_eq_of_pads expiry_eq pads.expiry]
  simp only [Declaration.needed, List.all_cons, List.all_nil, pads.id_eq, pads.reason_eq,
    pads.fallback_eq, isMissing_eq_of_pads pads.scope, isMissing_eq_of_pads pads.impact]

end Declared

/-! ## Entries -/

/-- The fields that are read without the blanks at their ends. -/
def paddedFields : List String := ["scope", "impact", "expiry"]

/-- The second value of a field is the first one, possibly with blanks around its text. -/
inductive PadsContent (name : String) : Json → Json → Prop
  | same (content : Json) : PadsContent name content content
  | padded {text padded : String} (isPadded : name ∈ paddedFields)
      (pads : Text.Pads text padded) :
      PadsContent name (.text text) (.text padded)

/-- The names of the fields of a declaration, in the order in which an array gives them. -/
def fieldNames : List String :=
  ["id", "scope", "reason", "impact", "fallback", "debt_note", "expiry"]

/-- The second entry is the first one with blanks around its scope, impact and expiry. -/
def PadsEntry (entry padded : Json) : Prop :=
  Decoder.RecordsAlike PadsContent fieldNames entry padded

/-- A nullable text with blanks around it is read as one with the same blanks. -/
theorem agree_optional_text
    {name : String}
    {content padded : Json}
    (pads : PadsContent name content padded) :
    Decoder.Agree
      (fun value? padded? =>
        Option.Rel Text.Pads value? padded? ∧ (name ∉ paddedFields → padded? = value?))
      (Decoder.text.optional.fromJson content) (Decoder.text.optional.fromJson padded) := by
  cases pads with
  | same => exact .refl (fun value? => ⟨optionRel_pads_refl value?, fun _ => rfl⟩) _
  | padded isPadded pads => exact .value ⟨.some pads, fun isOther => absurd isPadded isOther⟩

/-- A field of a text respects blanks if storing does. -/
theorem respects_of_stores
    {field : Decoder.Field Declaration}
    {store : Option String → Declaration → Declaration}
    (decodes : field.decoder = Decoder.text.optional.map store)
    (stores : ∀ name, field.answersTo name = true → ∀ value? padded?,
      Option.Rel Text.Pads value? padded? → (name ∉ paddedFields → padded? = value?) →
        ∀ declaration padded, PadsDeclaration declaration padded →
          PadsDeclaration (store value? declaration) (store padded? padded)) :
    field.Respects PadsContent PadsDeclaration := by
  intro name answers content padded pads
  rw [decodes]
  exact (agree_optional_text pads).map fun value? padded? read =>
    stores name answers value? padded? read.1 read.2

/-- Only its own name leads to a field without further names. -/
theorem answersTo_nullable
    {own name : String}
    {store : Option String → Declaration → Declaration}
    (answers : (Decoder.Field.nullable own .text store).answersTo name = true) :
    name = own := by
  rw [Decoder.Field.answersTo, Bool.or_eq_true, beq_iff_eq] at answers
  rcases answers with isOwn | isAlias
  · exact isOwn.symm
  · exact absurd isAlias Bool.false_ne_true

/-- Entries that differ in blanks around the scope, the impact and the expiry are read as
declarations that differ in the same blanks, or they give the same fault. -/
theorem PadsEntry.agree
    {entry padded : Json}
    (pads : PadsEntry entry padded) :
    Decoder.Agree PadsDeclaration (Declaration.decoder.fromJson entry)
      (Declaration.decoder.fromJson padded) := by
  refine Decoder.agree_record "Placeholder" ?_ PadsDeclaration.refl default pads
  simp only [List.forall_mem_cons]
  refine ⟨respects_of_stores rfl ?_, respects_of_stores rfl ?_, respects_of_stores rfl ?_,
    respects_of_stores rfl ?_, respects_of_stores rfl ?_, respects_of_stores rfl ?_,
    respects_of_stores rfl ?_, List.forall_mem_nil _⟩ <;>
    intro name answers value? padded? read same declaration padded pads
  · exact { pads with id_eq := same (answersTo_nullable answers ▸ by decide) }
  · exact { pads with scope := read }
  · exact { pads with reason_eq := same (answersTo_nullable answers ▸ by decide) }
  · exact { pads with impact := read }
  · exact { pads with fallback_eq := same (answersTo_nullable answers ▸ by decide) }
  · have isOther : name ∉ paddedFields := by
      rw [Decoder.Field.answersTo, Bool.or_eq_true, beq_iff_eq, List.contains_iff_mem,
        List.mem_singleton] at answers
      rcases answers with rfl | rfl <;> decide
    exact { pads with debtNote_eq := same isOther }
  · exact { pads with expiry := read }

/-! ## Documents -/

/-- The second list of placeholders is the first one with blanks around fields of its entries. -/
inductive PadsPlaceholders : Json → Json → Prop
  | same (declared : Json) : PadsPlaceholders declared declared
  | array {entries padded : List Json} (pads : List.Forall₂ PadsEntry entries padded) :
      PadsPlaceholders (.array entries) (.array padded)

/-- The second member of a document is the first one, with blanks in the placeholders. -/
structure PadsMember (member padded : String × Json) : Prop where
  key_eq : padded.1 = member.1
  declared : member.1 = "placeholders" → PadsPlaceholders member.2 padded.2
  other : member.1 ≠ "placeholders" → padded.2 = member.2

/-- The second document is the first one with blanks around fields of its placeholders. -/
def PadsDocument (members padded : List (String × Json)) : Prop :=
  List.Forall₂ PadsMember members padded

section Document

variable {members padded : List (String × Json)}

theorem PadsDocument.lookup (pads : PadsDocument members padded) (key : String) :
    Option.Rel (fun content other => PadsMember (key, content) (key, other))
      (members.lookup key) (padded.lookup key) := by
  induction pads with
  | nil => exact .none
  | @cons member other _ _ here _ inductionHypothesis =>
    obtain ⟨name, content⟩ := member
    obtain ⟨otherName, otherContent⟩ := other
    cases here.key_eq
    rw [List.lookup_cons, List.lookup_cons]
    cases isKey : key == name with
    | true =>
      cases beq_iff_eq.mp isKey
      exact .some here
    | false => exact inductionHypothesis

theorem PadsDocument.statusOf?_eq (pads : PadsDocument members padded) :
    statusOf? padded = statusOf? members := by
  have found := pads.lookup "status"
  rw [statusOf?, statusOf?]
  generalize members.lookup "status" = status?, padded.lookup "status" = paddedStatus? at found ⊢
  cases found with
  | none => rfl
  | @some content other member =>
    have same : other = content := member.other (by simp)
    rw [same]

/-- Nothing changes outside of the placeholders. -/
theorem PadsDocument.filter_eq (pads : PadsDocument members padded) :
    (padded.filter fun member => member.1 != "placeholders") =
      members.filter fun member => member.1 != "placeholders" := by
  induction pads with
  | nil => rfl
  | @cons member other _ _ here _ inductionHypothesis =>
    rw [List.filter_cons, List.filter_cons, here.key_eq, inductionHypothesis]
    split
    · rename_i isOther
      have same : other = member := Prod.ext here.key_eq (here.other (bne_iff_ne.mp isOther))
      rw [same]
    · rfl

/-- The lists of placeholders are the same, or both are arrays of entries that differ in blanks. -/
theorem PadsDocument.placeholders (pads : PadsDocument members padded) :
    padded.lookup "placeholders" = members.lookup "placeholders" ∨
      ∃ entries others, members.lookup "placeholders" = some (.array entries) ∧
        padded.lookup "placeholders" = some (.array others) ∧
        List.Forall₂ PadsEntry entries others := by
  have found := pads.lookup "placeholders"
  generalize members.lookup "placeholders" = declared?,
    padded.lookup "placeholders" = paddedDeclared? at found ⊢
  cases found with
  | none => exact .inl rfl
  | @some content other member =>
    have declared : PadsPlaceholders content other := member.declared rfl
    cases declared with
    | same => exact .inl rfl
    | array entriesPad => exact .inr ⟨_, _, rfl, rfl, entriesPad⟩

theorem PadsDocument.forall₂_entriesOf (pads : PadsDocument members padded) :
    List.Forall₂ PadsEntry (entriesOf members) (entriesOf padded) := by
  rw [entriesOf, entriesOf]
  rcases pads.placeholders with same | ⟨entries, others, here, there, entriesPad⟩
  · rw [same]
    exact List.forall₂_same.mpr fun entry _ => .same entry
  · rw [here, there]
    exact entriesPad

theorem PadsDocument.isMisshapen_eq (pads : PadsDocument members padded) :
    isMisshapen padded = isMisshapen members := by
  rw [isMisshapen, isMisshapen]
  rcases pads.placeholders with same | ⟨entries, others, here, there, -⟩
  · rw [same]
  · rw [here, there]
    rfl

theorem PadsDocument.isArtifactDocument_iff (pads : PadsDocument members padded) :
    IsArtifactDocument padded ↔ IsArtifactDocument members := by
  rw [IsArtifactDocument, IsArtifactDocument, pads.statusOf?_eq]
  rcases pads.placeholders with same | ⟨entries, others, here, there, -⟩
  · rw [same]
  · simp [here, there]

/-- The declarations of both documents differ in blanks only. -/
theorem PadsDocument.forall₂_declarationsOf (pads : PadsDocument members padded) :
    List.Forall₂ PadsDeclaration (declarationsOf members) (declarationsOf padded) :=
  List.rel_filterMap (fun _ _ entryPads => entryPads.agree.toOption) pads.forall₂_entriesOf

/-- The same entries cannot be read, for the same reasons. -/
theorem PadsDocument.flatMap_checkEntry_eq
    (pads : PadsDocument members padded)
    (file : String) :
    (entriesOf padded).zipIdx.flatMap (checkEntry file) =
      (entriesOf members).zipIdx.flatMap (checkEntry file) := by
  have entriesPadded := pads.forall₂_entriesOf
  generalize entriesOf members = entries, entriesOf padded = otherEntries, 0 = start
    at entriesPadded ⊢
  induction entriesPadded generalizing start with
  | nil => rfl
  | @cons entry other _ _ here _ inductionHypothesis =>
    have agree := here.agree
    have same : checkEntry file (other, start) = checkEntry file (entry, start) := by
      rw [checkEntry, checkEntry]
      dsimp only
      generalize Declaration.decoder.fromJson entry = read,
        Declaration.decoder.fromJson other = otherRead at agree ⊢
      cases agree <;> rfl
    rw [List.zipIdx_cons, List.zipIdx_cons, List.flatMap_cons, List.flatMap_cons, same,
      inductionHypothesis]

end Document

/-! ## Findings -/

section Findings

variable (settings : PlaceholderSettings) (now : Instant) (file : String)
variable {members padded : List (String × Json)}

/-- Blanks change neither whether a declaration breaks a rule nor how often that is reported. -/
theorem PadsDeclaration.length_ofRule_eq
    {declaration padded : Declaration}
    (pads : PadsDeclaration declaration padded)
    (rule : String) :
    (ofRule rule (checkDeclaration settings now file none padded)).length =
      (ofRule rule (checkDeclaration settings now file none declaration)).length := by
  obtain ⟨malformed, critical, expired, others⟩ :=
    reports_ofRule_checkDeclaration settings now file declaration
  obtain ⟨paddedMalformed, paddedCritical, paddedExpired, paddedOthers⟩ :=
    reports_ofRule_checkDeclaration settings now file padded
  by_cases declares : rule ∈ ["PLACEHOLDER_SCHEMA", "NON_DEGRADABLE_SCOPE", "PLACEHOLDER_EXPIRED"]
  · simp only [List.mem_cons, List.not_mem_nil, or_false] at declares
    rcases declares with rfl | rfl | rfl
    · rw [paddedMalformed.length_eq, malformed.length_eq, pads.isValid_eq]
    · rw [paddedCritical.length_eq, critical.length_eq]
      exact if_congr (pads.isCritical_iff settings) rfl rfl
    · rw [paddedExpired.length_eq, expired.length_eq, pads.isExpired_eq]
  · rw [others rule declares, paddedOthers rule declares]

/-- What declarations have in common with padded ones is found in both lists of them. -/
theorem PadsDocument.map_declarationsOf_eq
    {α : Type}
    (pads : PadsDocument members padded)
    {read : Declaration → α}
    (readsAlike : ∀ declaration padded, PadsDeclaration declaration padded →
      read padded = read declaration) :
    (declarationsOf padded).map read = (declarationsOf members).map read := by
  rw [← List.forall₂_eq_eq_eq, List.forall₂_map_left_iff, List.forall₂_map_right_iff]
  exact (pads.forall₂_declarationsOf.imp readsAlike).flip

theorem PadsDocument.checkBudget_eq (pads : PadsDocument members padded) :
    checkBudget settings file (declarationsOf padded) =
      checkBudget settings file (declarationsOf members) := by
  have length_eq := pads.forall₂_declarationsOf.length_eq
  have debt_eq : debtOf settings (declarationsOf padded) =
      debtOf settings (declarationsOf members) := by
    have impacts := pads.map_declarationsOf_eq fun _ _ pads => pads.impactOf?_eq
    have named (declarations : List Declaration) : declarations.filterMap Declaration.impactOf? =
        (declarations.map Declaration.impactOf?).filterMap id := by
      rw [List.filterMap_map, Function.id_comp]
    rw [debtOf_eq, debtOf_eq, named, named, impacts]
  unfold checkBudget
  rw [length_eq, debt_eq]

/-- Blanks change the number of findings of no rule but the one about promises. -/
theorem PadsDocument.length_ofRule_eq
    (pads : PadsDocument members padded)
    {rule : String}
    (other : rule ≠ "DANGLING_PROMISE") :
    (ofRule rule (checkMembers settings now file padded)).length =
      (ofRule rule (checkMembers settings now file members)).length := by
  by_cases artifact : IsArtifactDocument members
  · have shape_eq : checkShape file padded = checkShape file members := by
      rw [checkShape, checkShape, pads.isMisshapen_eq]
    have declared_eq := pads.map_declarationsOf_eq fun _ _ pads =>
      pads.length_ofRule_eq settings now file rule
    have count_eq := pads.forall₂_entriesOf.length_eq
    rw [ofRule_checkMembers settings now file rule (pads.isArtifactDocument_iff.mpr artifact),
      ofRule_checkMembers settings now file rule artifact, shape_eq,
      pads.flatMap_checkEntry_eq file, pads.statusOf?_eq, ← count_eq,
      pads.checkBudget_eq settings file, if_neg other.symm, if_neg other.symm]
    simp only [List.length_append, List.length_flatMap, declared_eq]
  · rw [checkMembers_eq_nil settings now file _ artifact,
      checkMembers_eq_nil settings now file _ (mt pads.isArtifactDocument_iff.mp artifact)]

/-- The scopes of valid declarations, as they are written. -/
def validScopes (members : List (String × Json)) : List String :=
  ((declarationsOf members).filter Declaration.isValid).filterMap Declaration.scope?

theorem governedScopes_declarationsOf (members : List (String × Json)) :
    governedScopes (declarationsOf members) = (validScopes members).map Text.lower := by
  rw [governedScopes, validScopes, List.map_filterMap]

/-- The same declarations are valid, and their scopes keep the blanks. -/
theorem PadsDocument.forall₂_validScopes (pads : PadsDocument members padded) :
    List.Forall₂ Text.Pads (validScopes members) (validScopes padded) := by
  have validPads : List.Forall₂ PadsDeclaration
      ((declarationsOf members).filter Declaration.isValid)
      ((declarationsOf padded).filter Declaration.isValid) :=
    List.rel_filter (fun _ _ declarationPads => by simp [declarationPads.isValid_eq])
      pads.forall₂_declarationsOf
  exact List.rel_filterMap (fun _ _ declarationPads => declarationPads.scope) validPads

/-- Where the scopes of valid declarations have no further blanks, nothing changes about
promises. -/
theorem PadsDocument.ofRule_promise_eq
    (pads : PadsDocument members padded)
    (sameScopes : validScopes padded = validScopes members) :
    ofRule "DANGLING_PROMISE" (checkMembers settings now file padded) =
      ofRule "DANGLING_PROMISE" (checkMembers settings now file members) := by
  by_cases artifact : IsArtifactDocument members
  · rw [ofRule_promise_checkMembers settings now file (pads.isArtifactDocument_iff.mpr artifact),
      ofRule_promise_checkMembers settings now file artifact, danglingIn, danglingIn,
      pads.filter_eq, governedScopes_declarationsOf, governedScopes_declarationsOf, sameScopes]
  · rw [checkMembers_eq_nil settings now file _ artifact,
      checkMembers_eq_nil settings now file _ (mt pads.isArtifactDocument_iff.mp artifact)]

end Findings

/-! ## The report on a padded artifact -/

/-- What blanks around the scopes, impacts and expiries of placeholders change in the findings about
an artifact. -/
structure IgnoresPadding
    (settings : PlaceholderSettings)
    (now : Instant)
    (source other : Source)
    (members padded : List (String × Json)) : Prop where
  /-- Every rule but the one about promises makes as many findings as before. -/
  counts : ∀ rule ≠ "DANGLING_PROMISE",
    (ofRule rule (checkArtifact settings now other)).length =
      (ofRule rule (checkArtifact settings now source)).length
  /-- What governs promises are the scopes of the same declarations, with their blanks. -/
  scopes : List.Forall₂ Text.Pads (validScopes members) (validScopes padded) ∧
    ∀ scope, IsGoverning padded scope ↔
      ∃ written ∈ validScopes padded, Text.lower written = scope
  /-- Without blanks around the scope of a valid declaration, the same promises are reported. -/
  promises : validScopes padded = validScopes members →
    ofRule "DANGLING_PROMISE" (checkArtifact settings now other) =
      ofRule "DANGLING_PROMISE" (checkArtifact settings now source)

/-- Blanks around the fields of placeholders have no meaning, except around the scope of a valid
declaration: it is compared with promises as it is written. -/
theorem checkArtifact_ignoresPadding
    (settings : PlaceholderSettings)
    (now : Instant)
    {source other : Source}
    {members padded : List (String × Json)}
    (read : Json.parse source.content = .ok (.object members))
    (readPadded : Json.parse other.content = .ok (.object padded))
    (sameFile : other.display = source.display)
    (pads : PadsDocument members padded) :
    IgnoresPadding settings now source other members padded := by
  have checked : checkArtifact settings now source =
      checkMembers settings now source.display members := by
    rw [checkArtifact, read]
  have paddedChecked : checkArtifact settings now other =
      checkMembers settings now source.display padded := by
    rw [checkArtifact, readPadded, sameFile]
  refine ⟨?_, ⟨pads.forall₂_validScopes, ?_⟩, ?_⟩
  · intro rule isOther
    rw [checked, paddedChecked]
    exact pads.length_ofRule_eq settings now source.display isOther
  · intro scope
    rw [← mem_governedScopes_iff, governedScopes_declarationsOf, List.mem_map]
  · intro sameScopes
    rw [checked, paddedChecked]
    exact pads.ofRule_promise_eq settings now source.display sameScopes

set_option maxRecDepth 20000 in
/-- Between blanks an impact counts as before.  A scope between blanks does not govern its key. -/
theorem checkArtifact_ignoresPadding_of_padded_scope :
    let now : Instant := ⟨⟨2026, 5, 4⟩, 43200, 0⟩
    let written (scope impact : String) : Source :=
      ⟨"a.json", "\x7b\"auth\":\"TODO\",\"placeholders\":[\x7b\"id\":\"i\",\"scope\":\"" ++
        scope ++ "\",\"reason\":\"r\",\"impact\":\"" ++ impact ++
        "\",\"fallback\":\"f\"\x7d],\"status\":\"degraded\"\x7d"⟩
    let entry (scope impact : String) : Json :=
      .object [("fallback", .text "f"), ("id", .text "i"), ("impact", .text impact),
        ("reason", .text "r"), ("scope", .text scope)]
    let members (scope impact : String) : List (String × Json) :=
      [("auth", .text "TODO"), ("placeholders", .array [entry scope impact]),
        ("status", .text "degraded")]
    let source := written "auth" "partial"
    let other := written " auth " "partial "
    let padded := members " auth " "partial "
    PadsDocument (members "auth" "partial") padded ∧
      IgnoresPadding {} now source other (members "auth" "partial") padded ∧
      validScopes padded = [" auth "] ∧
      (checkArtifact {} now source).map Finding.rule = [] ∧
      (checkArtifact {} now other).map Finding.rule = ["DANGLING_PROMISE"] := by
  intro now written entry members source other padded
  have blank : Text.AreBlank [' '] := by simp [Text.AreBlank, Text.isBlank]
  have entryPads : PadsEntry (entry "auth" "partial") (entry " auth " "partial ") :=
    .object (.cons ⟨rfl, .same _⟩ <| .cons ⟨rfl, .same _⟩ <|
      .cons ⟨rfl, .padded (by decide) ⟨[], [' '], Text.areBlank_nil, blank, by decide⟩⟩ <|
      .cons ⟨rfl, .same _⟩ <|
      .cons ⟨rfl, .padded (by decide) ⟨[' '], [' '], blank, blank, by decide⟩⟩ .nil)
  have pads : PadsDocument (members "auth" "partial") padded :=
    .cons ⟨rfl, fun _ => .same _, fun _ => rfl⟩ <|
      .cons ⟨rfl, fun _ => .array (.cons entryPads .nil), fun isOther => absurd rfl isOther⟩ <|
      .cons ⟨rfl, fun _ => .same _, fun _ => rfl⟩ .nil
  -- without names for their parts the documents can be read
  have read : Json.parse source.content = .ok (.object (members "auth" "partial")) := by
    unfold source written members entry
    rfl
  have readPadded : Json.parse other.content = .ok (.object padded) := by
    unfold other padded written members entry
    rfl
  exact ⟨pads, checkArtifact_ignoresPadding {} now read readPadded rfl pads, by decide +kernel,
    by decide +kernel, by decide +kernel⟩

end Placeholder
end QualityGate
