import QualityGate.Proofs.Placeholder.Findings
import QualityGate.Proofs.Text.Search

/-!
# What is found in an artifact

An artifact is a document with placeholders or with the status of being degraded.  Its entries, the
entries that can be read as declarations, and the declarations with which nothing is wrong are three
different lists, and each rule looks at one of them.  Every rule reports what breaks it, once and in
order, and nothing else.
-/

namespace QualityGate
namespace Placeholder

/-! ## Artifacts -/

/-- The status of a document. -/
def statusOf? (members : List (String × Json)) : Option String :=
  (members.lookup "status").bind Json.text?

/-- The document declares placeholders, or says that it is degraded. -/
def IsArtifactDocument (members : List (String × Json)) : Prop :=
  (∃ declared, members.lookup "placeholders" = some declared) ∨
    statusOf? members = some degradedStatus

/-- The placeholders of a document are not given as an array. -/
def isMisshapen (members : List (String × Json)) : Bool :=
  (members.lookup "placeholders").any fun declared => declared.items?.isNone

/-- The entries in the array of placeholders. -/
def entriesOf (members : List (String × Json)) : List Json :=
  ((members.lookup "placeholders").bind Json.items?).getD []

/-- The declaration that an entry is read as. -/
def declarationOf? (entry : Json) : Option Declaration :=
  (Declaration.decoder.fromJson entry).toOption

/-- The declarations among the entries. -/
def declarationsOf (members : List (String × Json)) : List Declaration :=
  (entriesOf members).filterMap declarationOf?

/-- The promises outside of the placeholders that nothing governs. -/
def danglingIn (members : List (String × Json)) : List Promise :=
  (promisesInMembers [] (members.filter fun member => member.1 != "placeholders")).filter
    fun found => !isGoverned (governedScopes (declarationsOf members)) found

/-- The finding about placeholders that are not given as an array. -/
def checkShape (file : String) (members : List (String × Json)) : List Finding :=
  if isMisshapen members then
    [finding "PLACEHOLDER_SCHEMA" "'placeholders' must be an array" file]
  else []

section Members

variable (settings : PlaceholderSettings) (now : Instant) (file : String)
variable (members : List (String × Json))

/-- What is no artifact has no findings. -/
theorem checkMembers_eq_nil (notArtifact : ¬IsArtifactDocument members) :
    checkMembers settings now file members = [] := by
  rw [IsArtifactDocument, not_or, ← Option.isSome_iff_exists, Bool.not_eq_true,
    Option.isSome_eq_false_iff] at notArtifact
  have other : (statusOf? members != some degradedStatus) = true := by
    simpa using notArtifact.2
  rw [statusOf?] at other
  simp only [checkMembers, notArtifact.1, other, Bool.and_self, if_true]

theorem readEntries_snd (entries : List Json) :
    (readEntries file entries).2 = entries.filterMap declarationOf? := by
  rw [readEntries, List.filterMap_map]
  rfl

/-- The finding about an entry that cannot be read. -/
def checkEntry (entry : Json × Nat) : List Finding :=
  match Declaration.decoder.fromJson entry.1 with
  | .ok _ => []
  | .error cause =>
    [finding "PLACEHOLDER_SCHEMA"
      ("Placeholder entry " ++ Text.decimal (entry.2 + 1) ++ " is malformed: " ++ cause.message)
      file]

theorem readEntries_fst (entries : List Json) :
    (readEntries file entries).1 = entries.zipIdx.flatMap (checkEntry file) := by
  rw [readEntries, List.zipIdx_map, List.filterMap_map, List.filterMap_eq_flatMap_toList]
  refine List.flatMap_congr fun entry _ => ?_
  rw [checkEntry, Function.comp_apply, Prod.map]
  cases Declaration.decoder.fromJson entry.1 <;> rfl

theorem checkDeclarations_without_lines (declarations : List Declaration) :
    checkDeclarations settings now file (declarations.map fun declaration => (none, declaration)) =
      declarations.flatMap (checkDeclaration settings now file none) ++
        checkBudget settings file declarations := by
  simp [checkDeclarations, List.flatMap_map, Function.comp_def]

/-- The findings about an artifact, part by part. -/
theorem checkMembers_eq {members : List (String × Json)} (artifact : IsArtifactDocument members) :
    checkMembers settings now file members =
      checkShape file members ++ (entriesOf members).zipIdx.flatMap (checkEntry file) ++
      checkStatus file (statusOf? members) (entriesOf members).length ++
      ((declarationsOf members).flatMap (checkDeclaration settings now file none) ++
        checkBudget settings file (declarationsOf members)) ++
      (danglingIn members).map (promiseFinding file) := by
  have shown : ((members.lookup "placeholders").isNone &&
      (members.lookup "status").bind Json.text? != some degradedStatus) = false := by
    rw [Bool.eq_false_iff]
    intro unrelated
    simp only [Bool.and_eq_true, Option.isNone_iff_eq_none, bne_iff_ne] at unrelated
    rcases artifact with ⟨declared, present⟩ | degraded
    · rw [present] at unrelated
      exact absurd unrelated.1 (by simp)
    · exact unrelated.2 degraded
  simp only [checkMembers, shown, Bool.false_eq_true, if_false, danglingIn, declarationsOf,
    statusOf?, entriesOf, checkShape, isMisshapen, ← readEntries_fst, readEntries_snd,
    checkDeclarations_without_lines]
  -- what is left is to decide whether there are placeholders, and whether they are an array
  obtain absent | ⟨declared, present⟩ := (members.lookup "placeholders").eq_none_or_eq_some
  · simp only [absent]
    rfl
  · simp only [present]
    cases declared <;> rfl

end Members

/-! ## Reports of a rule -/

/-- The findings of a rule. -/
def ofRule (rule : String) (findings : List Finding) : List Finding :=
  findings.filter fun finding => finding.rule == rule

/-- A check makes one finding of a rule if the rule is broken, and none otherwise. -/
inductive Reports (rule : String) (broken : Prop) (describes : Finding → Prop) :
    List Finding → Prop
  | nothing (unbroken : ¬broken) : Reports rule broken describes []
  | once {finding : Finding} (isBroken : broken) (ofItsRule : finding.rule = rule)
      (described : describes finding) : Reports rule broken describes [finding]

section Reports

variable {rule own : String} {broken : Prop} {describes : Finding → Prop}
variable {findings : List Finding}

theorem ofRule_append (rule : String) (first second : List Finding) :
    ofRule rule (first ++ second) = ofRule rule first ++ ofRule rule second :=
  List.filter_append first second

/-- Findings of one rule are kept or dropped together. -/
theorem ofRule_eq_ite (same : ∀ finding ∈ findings, finding.rule = own) :
    ofRule rule findings = if own = rule then findings else [] := by
  split
  · rename_i equal
    exact List.filter_eq_self.mpr fun finding member => beq_iff_eq.mpr (same finding member ▸ equal)
  · rename_i different
    refine List.filter_eq_nil_iff.mpr fun finding member isRule => different ?_
    rw [← same finding member]
    exact beq_iff_eq.mp isRule

theorem Reports.rule_eq (reports : Reports own broken describes findings) :
    ∀ finding ∈ findings, finding.rule = own := by
  cases reports with
  | nothing => simp
  | once _ ofItsRule => simpa using ofItsRule

theorem Reports.length_eq [Decidable broken] (reports : Reports own broken describes findings) :
    findings.length = if broken then 1 else 0 := by
  cases reports with
  | nothing unbroken => rw [if_neg unbroken, List.length_nil]
  | once isBroken => rw [if_pos isBroken, List.length_singleton]

/-- A check of every item reports the items that break the rule, in order. -/
theorem forall₂_of_reports
    {α : Type}
    {broken : α → Prop}
    [DecidablePred broken]
    {describes : α → Finding → Prop}
    {check : α → List Finding}
    (items : List α)
    (reports : ∀ item, Reports rule (broken item) (describes item) (check item)) :
    List.Forall₂ describes (items.filter broken) (items.flatMap check) := by
  induction items with
  | nil => exact .nil
  | cons item rest inductionHypothesis =>
    have reported := reports item
    rw [List.flatMap_cons]
    generalize check item = found at reported
    cases reported with
    | nothing unbroken =>
      rw [List.filter_cons_of_neg (by simpa using unbroken)]
      exact inductionHypothesis
    | once isBroken _ described =>
      rw [List.filter_cons_of_pos (by simpa using isBroken)]
      exact .cons described inductionHypothesis

end Reports

/-! ## One declaration -/

/-- The scope of a declaration is one that must not be degraded, or belongs to one. -/
def IsCritical (settings : PlaceholderSettings) (declaration : Declaration) : Prop :=
  ∃ scope ∈ declaration.scope?, ∃ critical ∈ settings.nonDegradableScopes,
    Text.lower (Text.trim scope) = Text.lower critical ∨
      ∃ separator ∈ ['.', '/', ':', '-', '_'], ∃ rest,
        (Text.lower (Text.trim scope)).toList =
          (Text.lower critical).toList ++ separator :: rest

/-- A finding is about a declaration. -/
def Describes (declaration : Declaration) (finding : Finding) : Prop :=
  ∃ ending, finding.message = "Placeholder " ++ declaration.label ++ ending

/-- A finding is about an entry that cannot be read, which is known by its number. -/
def DescribesEntry (entry : Json × Nat) (finding : Finding) : Prop :=
  ∃ cause, Declaration.decoder.fromJson entry.1 = .error cause ∧
    finding.message =
      "Placeholder entry " ++ Text.decimal (entry.2 + 1) ++ " is malformed: " ++ cause.message

theorem isWithin_iff (scope critical : String) :
    isWithin scope critical = true ↔
      scope = critical ∨ ∃ separator ∈ ['.', '/', ':', '-', '_'], ∃ rest,
        scope.toList = critical.toList ++ separator :: rest := by
  unfold isWithin
  split
  · rename_i notInFront
    simp only [Bool.false_eq_true, false_iff]
    have apart (rest : List Char) : critical.toList ++ rest ≠ scope.toList := by
      intro equal
      rw [List.isPrefixOf?_eq_some_iff_append_eq.mpr equal] at notInFront
      cases notInFront
    rintro (rfl | ⟨separator, -, rest, equal⟩)
    · exact apart [] (List.append_nil _)
    · exact apart _ equal.symm
  · rename_i rest inFront
    have split := List.isPrefixOf?_eq_some_iff_append_eq.mp inFront
    rw [← String.toList_inj, ← split]
    cases rest with
    | nil => simp
    | cons first following => simp

theorem isSome_nonDegradable?_iff (settings : PlaceholderSettings) (scope : String) :
    (nonDegradable? settings scope).isSome = true ↔
      ∃ critical ∈ settings.nonDegradableScopes,
        isWithin (Text.lower (Text.trim scope)) (Text.lower critical) = true := by
  rw [nonDegradable?, List.find?_isSome]

theorem isCritical_iff (settings : PlaceholderSettings) (declaration : Declaration) :
    IsCritical settings declaration ↔
      (declaration.scope?.bind (nonDegradable? settings)).isSome = true := by
  cases given : declaration.scope? with
  | none => simp [IsCritical, given]
  | some scope =>
    rw [Option.bind_some, isSome_nonDegradable?_iff]
    simp only [isWithin_iff, IsCritical, given, Option.mem_some_iff, exists_eq_left']

instance (settings : PlaceholderSettings) : DecidablePred (IsCritical settings) :=
  fun declaration => decidable_of_iff _ (isCritical_iff settings declaration).symm

section Declared

variable (settings : PlaceholderSettings) (now : Instant) (file : String)
variable (declaration : Declaration)

/-- What is found about a declaration, rule by rule. -/
theorem exists_checkDeclaration_eq :
    ∃ malformed critical expired,
      checkDeclaration settings now file none declaration = malformed ++ critical ++ expired ∧
      Reports "PLACEHOLDER_SCHEMA" (declaration.isValid = false) (Describes declaration)
        malformed ∧
      Reports "NON_DEGRADABLE_SCOPE" (IsCritical settings declaration) (Describes declaration)
        critical ∧
      Reports "PLACEHOLDER_EXPIRED" (declaration.isExpired now = true) (Describes declaration)
        expired := by
  -- without a line the three parts stay as they were made
  refine ⟨_, _, _, List.map_id' _, ?_, ?_, ?_⟩
  · change Reports _ _ _ (if declaration.isValid then [] else _)
    cases declaration.isValid with
    | true => exact .nothing nofun
    | false => exact .once rfl rfl ⟨_, String.append_assoc⟩
  · rw [isCritical_iff]
    cases declaration.scope? with
    | none => exact .nothing Bool.false_ne_true
    | some scope =>
      dsimp only [Option.bind_some]
      cases nonDegradable? settings scope with
      | none => exact .nothing Bool.false_ne_true
      | some critical =>
        refine .once rfl rfl ?_
        simp only [Describes, finding, Finding.withSuggestion, Finding.withSeverity,
          Finding.ofFile, String.append_assoc]
        exact ⟨_, rfl⟩
  · split
    · rename_i expired
      exact .once expired rfl ⟨_, String.append_assoc⟩
    · rename_i lasting
      exact .nothing lasting

/-- A rule about declarations reports a declaration once, if it is broken; no other rule does. -/
theorem reports_ofRule_checkDeclaration :
    let findings := checkDeclaration settings now file none declaration
    Reports "PLACEHOLDER_SCHEMA" (declaration.isValid = false) (Describes declaration)
        (ofRule "PLACEHOLDER_SCHEMA" findings) ∧
      Reports "NON_DEGRADABLE_SCOPE" (IsCritical settings declaration) (Describes declaration)
        (ofRule "NON_DEGRADABLE_SCOPE" findings) ∧
      Reports "PLACEHOLDER_EXPIRED" (declaration.isExpired now = true) (Describes declaration)
        (ofRule "PLACEHOLDER_EXPIRED" findings) ∧
      ∀ rule ∉ ["PLACEHOLDER_SCHEMA", "NON_DEGRADABLE_SCOPE", "PLACEHOLDER_EXPIRED"],
        ofRule rule findings = [] := by
  obtain ⟨malformed, critical, expired, parts, isMalformed, isCritical, isExpired⟩ :=
    exists_checkDeclaration_eq settings now file declaration
  have kept (rule : String) : ofRule rule (checkDeclaration settings now file none declaration) =
      (if "PLACEHOLDER_SCHEMA" = rule then malformed else []) ++
        (if "NON_DEGRADABLE_SCOPE" = rule then critical else []) ++
        if "PLACEHOLDER_EXPIRED" = rule then expired else [] := by
    rw [parts, ofRule_append, ofRule_append, ofRule_eq_ite isMalformed.rule_eq,
      ofRule_eq_ite isCritical.rule_eq, ofRule_eq_ite isExpired.rule_eq]
  refine ⟨?_, ?_, ?_, fun rule other => ?_⟩
  · simpa [kept] using isMalformed
  · simpa [kept] using isCritical
  · simpa [kept] using isExpired
  · simp only [List.mem_cons, List.not_mem_nil, or_false, not_or] at other
    rw [kept, if_neg (Ne.symm other.1), if_neg (Ne.symm other.2.1), if_neg (Ne.symm other.2.2)]
    rfl

end Declared

/-! ## All declarations -/

section Document

variable (settings : PlaceholderSettings) (now : Instant) (file : String)

theorem reports_checkShape (members : List (String × Json)) :
    Reports "PLACEHOLDER_SCHEMA" (isMisshapen members = true) (fun _ => True)
      (checkShape file members) := by
  unfold checkShape
  split
  · rename_i misshapen
    exact .once misshapen rfl trivial
  · rename_i wellShaped
    exact .nothing wellShaped

theorem reports_checkEntry (entry : Json × Nat) :
    Reports "PLACEHOLDER_SCHEMA" (declarationOf? entry.1 = none) (DescribesEntry entry)
      (checkEntry file entry) := by
  rw [checkEntry, declarationOf?]
  cases read : Declaration.decoder.fromJson entry.1 with
  | ok declaration => exact .nothing nofun
  | error cause => exact .once rfl rfl ⟨cause, read, rfl⟩

/-- The status is compared with the entries, readable or not. -/
theorem reports_checkStatus (status? : Option String) (entries : List Json) :
    Reports "REGISTRY_MISMATCH" (¬(status? = some degradedStatus ↔ entries ≠ []))
      (fun _ => True) (checkStatus file status? entries.length) := by
  unfold checkStatus
  by_cases degraded : status? = some degradedStatus
  · rw [beq_iff_eq.mpr degraded]
    cases entries with
    | nil => exact .once (by simp [degraded]) rfl trivial
    | cons entry rest => exact .nothing (by simp [degraded])
  · rw [beq_eq_false_iff_ne.mpr degraded]
    cases entries with
    | nil => exact .nothing (by simp [degraded])
    | cons entry rest => exact .once (by simp [degraded]) rfl trivial

theorem reports_checkBudget (declarations : List Declaration) :
    Reports "DEBT_BUDGET"
      (settings.maxPlaceholders < declarations.length ∨
        settings.maxDebtScore <
          ((declarations.filterMap Declaration.impactOf?).map (Impact.weight settings)).foldr
            (· + ·) 0 % Word.bound 32)
      (fun _ => True) (checkBudget settings file declarations) := by
  rw [← debtOf_eq]
  unfold checkBudget
  simp only [Bool.or_eq_true, decide_eq_true_eq]
  split
  · rename_i exceeded
    exact .once exceeded rfl trivial
  · rename_i within
    exact .nothing within

/-- The findings of a rule about an artifact come from the parts that are checked. -/
theorem ofRule_checkMembers
    (rule : String)
    {members : List (String × Json)}
    (artifact : IsArtifactDocument members) :
    ofRule rule (checkMembers settings now file members) =
      (if "PLACEHOLDER_SCHEMA" = rule then checkShape file members else []) ++
      (if "PLACEHOLDER_SCHEMA" = rule then
        (entriesOf members).zipIdx.flatMap (checkEntry file) else []) ++
      (if "REGISTRY_MISMATCH" = rule then
        checkStatus file (statusOf? members) (entriesOf members).length else []) ++
      (((declarationsOf members).flatMap fun declaration =>
          ofRule rule (checkDeclaration settings now file none declaration)) ++
        if "DEBT_BUDGET" = rule then checkBudget settings file (declarationsOf members) else []) ++
      (if "DANGLING_PROMISE" = rule then
        (danglingIn members).map (promiseFinding file) else []) := by
  have unread : ∀ found ∈ (entriesOf members).zipIdx.flatMap (checkEntry file),
      found.rule = "PLACEHOLDER_SCHEMA" := by
    intro found member
    obtain ⟨entry, -, made⟩ := List.mem_flatMap.mp member
    exact (reports_checkEntry file entry).rule_eq found made
  have promised : ∀ found ∈ (danglingIn members).map (promiseFinding file),
      found.rule = "DANGLING_PROMISE" := by
    intro found member
    obtain ⟨promise, -, rfl⟩ := List.mem_map.mp member
    rfl
  simp only [checkMembers_eq settings now file artifact, ofRule_append, ofRule_eq_ite unread,
    ofRule_eq_ite promised, ofRule_eq_ite (reports_checkShape file members).rule_eq,
    ofRule_eq_ite (reports_checkStatus file (statusOf? members) (entriesOf members)).rule_eq,
    ofRule_eq_ite (reports_checkBudget settings file (declarationsOf members)).rule_eq]
  rw [ofRule, List.filter_flatMap]
  rfl

/-- Rules that are not about declarations find nothing in them. -/
theorem flatMap_ofRule_eq_nil
    {rule : String}
    (other : rule ∉ ["PLACEHOLDER_SCHEMA", "NON_DEGRADABLE_SCOPE", "PLACEHOLDER_EXPIRED"])
    (declarations : List Declaration) :
    (declarations.flatMap fun declaration =>
      ofRule rule (checkDeclaration settings now file none declaration)) = [] :=
  List.flatMap_eq_nil_iff.mpr fun declaration _ =>
    (reports_ofRule_checkDeclaration settings now file declaration).2.2.2 rule other

/-- The findings about promises are those about the ones that nothing governs. -/
theorem ofRule_promise_checkMembers
    {members : List (String × Json)}
    (artifact : IsArtifactDocument members) :
    ofRule "DANGLING_PROMISE" (checkMembers settings now file members) =
      (danglingIn members).map (promiseFinding file) := by
  rw [ofRule_checkMembers settings now file _ artifact,
    flatMap_ofRule_eq_nil settings now file (by decide)]
  simp

end Document

/-! ## The report on an artifact -/

/-- What is found in an artifact, apart from promises. -/
structure ReportsArtifact
    (settings : PlaceholderSettings)
    (now : Instant)
    (members : List (String × Json))
    (findings : List Finding) : Prop where
  /-- The status is compared with the entries, whether they can be read or not. -/
  registry : (ofRule "REGISTRY_MISMATCH" findings).length =
    if statusOf? members = some degradedStatus ↔ entriesOf members ≠ [] then 0 else 1
  /-- Placeholders that are no array, entries that cannot be read, and declarations with which
  something is wrong break the schema, each of them once. -/
  schema : ∃ misshapen unread malformed,
    ofRule "PLACEHOLDER_SCHEMA" findings = misshapen ++ unread ++ malformed ∧
      misshapen.length = (if isMisshapen members then 1 else 0) ∧
      List.Forall₂ DescribesEntry
        ((entriesOf members).zipIdx.filter fun entry => declarationOf? entry.1 = none) unread ∧
      List.Forall₂ Describes
        ((declarationsOf members).filter fun declaration => declaration.isValid = false) malformed
  /-- Declarations of critical scopes are reported, valid or not. -/
  critical : List.Forall₂ Describes ((declarationsOf members).filter (IsCritical settings))
    (ofRule "NON_DEGRADABLE_SCOPE" findings)
  /-- Declarations that have run out are reported, valid or not. -/
  expired : List.Forall₂ Describes
    ((declarationsOf members).filter fun declaration => declaration.isExpired now)
    (ofRule "PLACEHOLDER_EXPIRED" findings)
  /-- The budget is compared with all declarations, and with the impacts that are known as far as
  their weights fit in 32 bits. -/
  budget : (ofRule "DEBT_BUDGET" findings).length =
    if settings.maxPlaceholders < (declarationsOf members).length ∨
        settings.maxDebtScore <
          (((declarationsOf members).filterMap Declaration.impactOf?).map
            (Impact.weight settings)).foldr (· + ·) 0 % Word.bound 32
      then 1 else 0
  /-- A sum of weights that fits is compared as it is. -/
  fittingBudget :
    (((declarationsOf members).filterMap Declaration.impactOf?).map
        (Impact.weight settings)).foldr (· + ·) 0 < Word.bound 32 →
      (ofRule "DEBT_BUDGET" findings).length =
        if settings.maxPlaceholders < (declarationsOf members).length ∨
            settings.maxDebtScore <
              (((declarationsOf members).filterMap Declaration.impactOf?).map
                (Impact.weight settings)).foldr (· + ·) 0
          then 1 else 0
  /-- Nothing else is reported. -/
  complete : ∀ finding ∈ findings, finding.rule ∈
    ["PLACEHOLDER_SCHEMA", "REGISTRY_MISMATCH", "NON_DEGRADABLE_SCOPE", "PLACEHOLDER_EXPIRED",
      "DEBT_BUDGET", "DANGLING_PROMISE"]

theorem reportsArtifact_checkMembers
    (settings : PlaceholderSettings)
    (now : Instant)
    (file : String)
    {members : List (String × Json)}
    (artifact : IsArtifactDocument members) :
    ReportsArtifact settings now members (checkMembers settings now file members) := by
  have ofRule_eq := fun rule => ofRule_checkMembers settings now file rule artifact
  have reported := reports_ofRule_checkDeclaration settings now file
  have budget_eq : (ofRule "DEBT_BUDGET" (checkMembers settings now file members)).length =
      if settings.maxPlaceholders < (declarationsOf members).length ∨
          settings.maxDebtScore <
            (((declarationsOf members).filterMap Declaration.impactOf?).map
              (Impact.weight settings)).foldr (· + ·) 0 % Word.bound 32
        then 1 else 0 := by
    rw [ofRule_eq, flatMap_ofRule_eq_nil settings now file (by decide)]
    simpa using (reports_checkBudget settings file (declarationsOf members)).length_eq
  refine ⟨?registry, ?schema, ?critical, ?expired, budget_eq, ?fittingBudget, ?complete⟩
  case registry =>
    rw [ofRule_eq, flatMap_ofRule_eq_nil settings now file (by decide)]
    simpa using (reports_checkStatus file (statusOf? members) (entriesOf members)).length_eq
  case schema =>
    refine ⟨_, _, _, by simpa using ofRule_eq "PLACEHOLDER_SCHEMA", ?_, ?_, ?_⟩
    · exact (reports_checkShape file members).length_eq
    · exact forall₂_of_reports _ (reports_checkEntry file)
    · exact forall₂_of_reports _ fun declaration => (reported declaration).1
  case critical =>
    rw [ofRule_eq]
    simpa using forall₂_of_reports (declarationsOf members)
      fun declaration => (reported declaration).2.1
  case expired =>
    rw [ofRule_eq]
    simpa using forall₂_of_reports (declarationsOf members)
      fun declaration => (reported declaration).2.2.1
  case fittingBudget =>
    intro fits
    rw [budget_eq, Nat.mod_eq_of_lt fits]
  case complete =>
    -- a finding is one of its own rule, and no part makes findings of an unknown rule
    intro found member
    by_contra unknown
    have kept : found ∈ ofRule found.rule (checkMembers settings now file members) :=
      List.mem_filter.mpr ⟨member, beq_self_eq_true _⟩
    have declared : ["PLACEHOLDER_SCHEMA", "NON_DEGRADABLE_SCOPE", "PLACEHOLDER_EXPIRED"] ⊆
        ["PLACEHOLDER_SCHEMA", "REGISTRY_MISMATCH", "NON_DEGRADABLE_SCOPE",
          "PLACEHOLDER_EXPIRED", "DEBT_BUDGET", "DANGLING_PROMISE"] := by decide
    rw [ofRule_eq, flatMap_ofRule_eq_nil settings now file fun known => unknown (declared known)]
      at kept
    simp only [List.mem_cons, List.not_mem_nil, or_false, not_or, ← ne_eq] at unknown
    obtain ⟨schema, registry, -, -, budget, promise⟩ := unknown
    simp [schema.symm, registry.symm, budget.symm, promise.symm] at kept

/-- A document that is no artifact is left alone, and an artifact is checked exactly. -/
theorem checkArtifact_reportsArtifact
    (settings : PlaceholderSettings)
    (now : Instant)
    {source : Source}
    {members : List (String × Json)}
    (read : Json.parse source.content = .ok (.object members)) :
    (¬IsArtifactDocument members → checkArtifact settings now source = []) ∧
      (IsArtifactDocument members →
        ReportsArtifact settings now members (checkArtifact settings now source)) := by
  rw [checkArtifact, read]
  exact ⟨checkMembers_eq_nil settings now source.display members,
    reportsArtifact_checkMembers settings now source.display⟩

set_option maxRecDepth 20000 in
/-- An artifact with a fault in its status, in each of its three entries and in its debt; the last
entry has three of them. -/
theorem checkArtifact_reportsArtifact_of_faults :
    let now : Instant := ⟨⟨2026, 5, 4⟩, 43200, 0⟩
    let settings : PlaceholderSettings := { maxDebtScore := 2 }
    let source : Source := ⟨"a.json", "\x7b\"status\":\"done\",\"placeholders\":[7,\x7b\x7d," ++
      "\x7b\"scope\":\" Security/keys\",\"impact\":\"partial\",\"expiry\":\"2026-01-01\"\x7d]\x7d"⟩
    let members : List (String × Json) :=
      [("placeholders", .array [.natural 7, .object [],
          .object [("expiry", .text "2026-01-01"), ("impact", .text "partial"),
            ("scope", .text " Security/keys")]]),
        ("status", .text "done")]
    ReportsArtifact settings now members (checkArtifact settings now source) ∧
      (checkArtifact settings now source).map Finding.rule =
        ["PLACEHOLDER_SCHEMA", "REGISTRY_MISMATCH", "PLACEHOLDER_SCHEMA", "PLACEHOLDER_SCHEMA",
          "NON_DEGRADABLE_SCOPE", "PLACEHOLDER_EXPIRED", "DEBT_BUDGET"] := by
  -- without names for its parts the goal is closed, and the document can be read
  dsimp only
  refine ⟨(checkArtifact_reportsArtifact _ _ ?_).2 (.inl ⟨_, rfl⟩), by decide +kernel⟩
  rfl

end Placeholder
end QualityGate
