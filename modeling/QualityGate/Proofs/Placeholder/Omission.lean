import QualityGate.Proofs.HiddenTodo.Grouping
import QualityGate.Proofs.Placeholder.Findings

/-!
# Nothing is left out silently

Two gates look for work that is left undone, and each of them passes over the lines that declared
placeholders govern.  Both pass over the same lines.  What governs them is accounted for: a marker
stands before a valid declaration, which counts against the budget of the file, or it is reported on
its line.  So in a file about which the placeholder gate finds nothing, every promise is covered by
a declaration that is valid and has not run out.
-/

namespace QualityGate
namespace Placeholder

open HiddenTodo (linesOf coverageOf)

/-! ## Valid declarations are counted -/

/-- A valid declaration names its impact. -/
theorem Declaration.exists_impactOf?
    {declaration : Declaration}
    (valid : declaration.isValid = true) :
    ∃ impact, declaration.impactOf? = some impact := by
  have noProblem : declaration.problems = [] := List.isEmpty_iff.mp valid
  simp only [problems, List.append_eq_nil_iff, List.map_eq_nil_iff, List.filter_eq_nil_iff]
    at noProblem
  obtain ⟨⟨given, known⟩, -⟩ := noProblem
  have impactGiven := given ("impact", declaration.impact?) (by simp [needed])
  rw [← Option.isSome_iff_exists, impactOf?]
  cases impact_eq : declaration.impact? with
  | none => simp [impact_eq, isMissing] at impactGiven
  | some text =>
    rw [impact_eq] at impactGiven known
    have notBlank : Text.isBlankText text = false := Bool.not_eq_true _ ▸ impactGiven
    simpa [notBlank, Option.isSome_iff_ne_none] using known

section Lines

variable (source : Source)

/-- The impact that the declaration on a line names. -/
def impactAt? (line : Nat) : Option Impact :=
  (declaredAt? source line).bind Declaration.impactOf?

/-- The number of lines of a file with a declaration that was read. -/
def placeholderCount : Nat :=
  (List.range' 1 source.lineCount).countP fun line => (declaredAt? source line).isSome

/-- The debt of the declarations in a file, line by line, as far as it fits in 32 bits. -/
def placeholderDebt (settings : PlaceholderSettings) : Nat :=
  ((List.range' 1 source.lineCount).map fun line =>
    (impactAt? source line).elim 0 (Impact.weight settings)).foldr (· + ·) 0 % Word.bound 32

end Lines

/-- What is chosen from the items of a list with their numbers is chosen number by number. -/
theorem filterMap_zipIdx
    {α β : Type}
    (items : List α)
    (start : Nat)
    (choose : Nat → α → Option β) :
    ((items.zipIdx start).filterMap fun item => choose (item.2 + 1) item.1) =
      (List.range' (start + 1) items.length).filterMap fun number =>
        items[number - (start + 1)]?.bind (choose number) := by
  induction items generalizing start with
  | nil => rfl
  | cons item rest inductionHypothesis =>
    have further : (List.range' (start + 2) rest.length).filterMap (fun number =>
          (item :: rest)[number - (start + 1)]?.bind (choose number)) =
        (List.range' (start + 2) rest.length).filterMap fun number =>
          rest[number - (start + 2)]?.bind (choose number) := by
      apply List.filterMap_congr
      intro number member
      obtain ⟨after, -⟩ := List.mem_range'_1.mp member
      rw [show number - (start + 1) = number - (start + 2) + 1 by omega, List.getElem?_cons_succ]
    rw [List.zipIdx_cons, List.length_cons, List.range'_succ, List.filterMap_cons,
      List.filterMap_cons, further, inductionHypothesis]
    simp only [Nat.sub_self, List.getElem?_cons_zero, Option.bind_some]

/-- The declarations of a file that were read are those of its lines. -/
theorem map_snd_readIn (source : Source) :
    (readIn source).map Prod.snd =
      (List.range' 1 source.lineCount).filterMap (declaredAt? source) := by
  have read : (readIn source).map Prod.snd =
      ((linesOf source).zipIdx 0).filterMap fun item =>
        (declarationIn? (item.2 + 1) item.1.comment).bind fun inline => inline.parsed.toOption := by
    rw [readIn, declarationsIn, List.filterMap_filterMap, List.map_filterMap]
    apply List.filterMap_congr
    rintro ⟨parts, index⟩ -
    rw [Option.map_bind]
    congr 1
    funext inline
    rw [Function.comp_apply, Option.map_map, Function.comp_def, Option.map_id']
  rw [read, filterMap_zipIdx (linesOf source) 0 fun number parts =>
    (declarationIn? number parts.comment).bind fun inline => inline.parsed.toOption,
    HiddenTodo.length_linesOf]
  apply List.filterMap_congr
  intro line member
  obtain ⟨positive, -⟩ := List.mem_range'_1.mp member
  obtain ⟨index, rfl⟩ := Nat.exists_eq_add_of_le' positive
  rw [declaredAt?, inlineAt?, commentAt?, Nat.add_sub_cancel]
  cases (linesOf source)[index]? <;> rfl

theorem length_readIn (source : Source) :
    ((readIn source).map Prod.snd).length = placeholderCount source := by
  rw [map_snd_readIn, List.length_filterMap_eq_countP, placeholderCount]

theorem debtOf_readIn (settings : PlaceholderSettings) (source : Source) :
    debtOf settings ((readIn source).map Prod.snd) = placeholderDebt source settings := by
  have impacts : ((readIn source).map Prod.snd).filterMap Declaration.impactOf? =
      (List.range' 1 source.lineCount).filterMap (impactAt? source) := by
    rw [map_snd_readIn, List.filterMap_filterMap]
    rfl
  rw [debtOf_eq, impacts, placeholderDebt]
  congr 1
  induction List.range' 1 source.lineCount with
  | nil => rfl
  | cons line rest inductionHypothesis =>
    rw [List.map_cons, List.foldr_cons, ← inductionHypothesis]
    cases impact : impactAt? source line with
    | none => rw [List.filterMap_cons_none impact, Option.elim_none, Nat.zero_add]
    | some named =>
      rw [List.filterMap_cons_some impact, List.map_cons, List.foldr_cons, Option.elim_some]

/-! ## What is found, rule by rule -/

section Source

variable {settings : PlaceholderSettings} {now : Instant} {source : Source}

/-- A declaration with which something is wrong leaves its line without a valid one. -/
theorem not_validAt
    {line : Nat}
    {declaration : Declaration}
    (declared : declaredAt? source line = some declaration)
    (invalid : declaration.isValid = false) :
    ¬ValidAt source line := by
  rintro ⟨other, isOther, valid⟩
  cases Option.mem_unique declared isOther
  rw [valid] at invalid
  cases invalid

/-- The schema is broken on a line exactly if there is a marker without a valid declaration. -/
theorem exists_schema_iff (line : Nat) :
    (∃ finding ∈ checkSource settings now source,
        finding.rule = "PLACEHOLDER_SCHEMA" ∧ finding.line? = some line) ↔
      MarkedAt source line ∧ ¬ValidAt source line := by
  constructor
  · rintro ⟨finding, member, isSchema, onLine⟩
    rcases (mem_checkSource_iff_of_schema isSchema).mp member with
      unread | ⟨first, declaration, declared, made⟩
    · obtain ⟨marked, nothing⟩ := (exists_mem_checkReadable_iff line).mp ⟨finding, unread, onLine⟩
      refine ⟨marked, ?_⟩
      rintro ⟨declaration, declared, -⟩
      rw [nothing] at declared
      cases declared
    · rw [line?_of_mem_checkDeclaration made, Option.some.injEq] at onLine
      subst onLine
      refine ⟨markedAt_of_declaredAt? declared, not_validAt declared ?_⟩
      rcases cases_of_mem_checkDeclaration made with ⟨-, invalid⟩ | rule_eq | rule_eq
      · exact invalid
      · exact absurd (rule_eq.symm.trans isSchema) (by decide)
      · exact absurd (rule_eq.symm.trans isSchema) (by decide)
  · rintro ⟨marked, invalid⟩
    cases declared : declaredAt? source line with
    | none =>
      obtain ⟨finding, unread, onLine⟩ := (exists_mem_checkReadable_iff line).mpr ⟨marked, declared⟩
      have isSchema := rule_of_mem_checkReadable unread
      exact ⟨finding, (mem_checkSource_iff_of_schema isSchema).mpr (Or.inl unread), isSchema,
        onLine⟩
    | some declaration =>
      have wrong : declaration.isValid = false := by
        rw [← Bool.not_eq_true]
        exact fun valid => invalid ⟨declaration, declared, valid⟩
      obtain ⟨finding, made, isSchema⟩ := exists_schema_mem_checkDeclaration (some line) wrong
      exact ⟨finding, (mem_checkSource_iff_of_schema isSchema).mpr
        (Or.inr ⟨line, declaration, declared, made⟩), isSchema, line?_of_mem_checkDeclaration made⟩

/-- A promise is reported on a line exactly if nothing governs it. -/
theorem exists_promise_iff (line : Nat) :
    (∃ finding ∈ checkSource settings now source,
        finding.rule = "DANGLING_PROMISE" ∧ finding.line? = some line) ↔
      ¬Governed source settings.coverageWindow line ∧ PromisesAt source line := by
  rw [← exists_mem_checkPromises_iff]
  constructor
  · rintro ⟨finding, member, isPromise, onLine⟩
    exact ⟨finding, (mem_checkSource_iff_of_promise isPromise).mp member, onLine⟩
  · rintro ⟨finding, member, onLine⟩
    have isPromise := rule_of_mem_checkPromises member
    exact ⟨finding, (mem_checkSource_iff_of_promise isPromise).mpr member, isPromise, onLine⟩

/-- The budget is exceeded exactly if the lines of the file have too many declarations, or too much
debt. -/
theorem mem_checkSource_and_budget_iff (finding : Finding) :
    finding ∈ checkSource settings now source ∧ finding.rule = "DEBT_BUDGET" ↔
      (settings.maxPlaceholders < placeholderCount source ∨
        settings.maxDebtScore < placeholderDebt source settings) ∧
      finding = Placeholder.finding "DEBT_BUDGET"
        (Text.decimal (placeholderCount source) ++ " placeholders with debt score " ++
          Text.decimal (placeholderDebt source settings) ++ " exceed the budget (" ++
          Text.decimal settings.maxPlaceholders ++ " placeholders, debt " ++
          Text.decimal settings.maxDebtScore ++ ")")
        source.display := by
  rw [← length_readIn, ← debtOf_readIn, ← mem_checkBudget_iff]
  constructor
  · rintro ⟨member, isBudget⟩
    exact (mem_checkSource_iff_of_budget isBudget).mp member
  · intro member
    have isBudget := rule_of_mem_checkBudget member
    exact ⟨(mem_checkSource_iff_of_budget isBudget).mpr member, isBudget⟩

/-- If nothing is found, the declarations of a file have not run out. -/
theorem isExpired_eq_false
    (nothing : checkSource settings now source = [])
    {line : Nat}
    {declaration : Declaration}
    (declared : declaredAt? source line = some declaration) :
    declaration.isExpired now = false := by
  rw [← Bool.not_eq_true]
  intro expired
  obtain ⟨finding, made⟩ :=
    exists_mem_checkDeclaration_of_isExpired settings source.display (some line) expired
  have member := (mem_checkSource_iff finding).mpr
    (Or.inr (Or.inl ⟨line, declaration, declared, made⟩))
  rw [nothing] at member
  cases member

end Source

/-! ## Both gates -/

/-- Artifacts are data. -/
theorem isProseOrData_of_isArtifact
    {path : String}
    (artifact : isArtifact path = true) :
    Source.isProseOrData path = true := by
  obtain ⟨extension, isExtension, equal⟩ := (Option.any_eq_true _ _).mp artifact
  have lower_eq : Text.lower extension = "json" :=
    Text.lower_eq_of_equalIgnoringCase equal (by simp)
  rw [Source.isProseOrData, Location.lowerExtension?, isExtension, Option.map_some, lower_eq]
  decide

/-- What a marker governs is accounted for in a file, whatever rules the gate for hidden work has.
-/
structure OmitsNothing (settings : Settings) (now : Instant) (source : Source) : Prop where
  /-- The gate for hidden work passes over the governed lines only. -/
  examined : ∀ rules : HiddenTodo.RuleSet, ∃ groups : List (List HiddenTodo.Hit),
    HiddenTodo.analyzeWith rules settings.hiddenTodo settings.placeholder.coverageWindow source =
        groups.filterMap
          (HiddenTodo.groupFinding? settings.hiddenTodo (HiddenTodo.surroundingsOf source)) ∧
      ∀ line, (∃ hit ∈ groups.flatten, hit.line = line) ↔
        ¬Governed source settings.placeholder.coverageWindow line ∧
          ∃ rule ∈ HiddenTodo.rulesAt rules source line, rule.category.isSignal = true
  /-- The placeholder gate passes over the same lines when it looks for promises. -/
  promised : ∀ line,
    (∃ finding ∈ checkFile settings.placeholder now source,
        finding.rule = "DANGLING_PROMISE" ∧ finding.line? = some line) ↔
      ¬Governed source settings.placeholder.coverageWindow line ∧ PromisesAt source line
  /-- Every marker stands before a valid declaration or is reported on its line. -/
  reported : ∀ line,
    (∃ finding ∈ checkFile settings.placeholder now source,
        finding.rule = "PLACEHOLDER_SCHEMA" ∧ finding.line? = some line) ↔
      MarkedAt source line ∧ ¬ValidAt source line
  /-- Valid declarations are among those that are counted, and name their impact. -/
  counted : ∀ line, ValidAt source line →
    line ∈ List.range' 1 source.lineCount ∧ (declaredAt? source line).isSome = true ∧
      ∃ impact, impactAt? source line = some impact
  /-- Count and debt are what the budget is compared with; the debt is kept in 32 bits. -/
  budgeted : ∀ finding,
    finding ∈ checkFile settings.placeholder now source ∧ finding.rule = "DEBT_BUDGET" ↔
      (settings.placeholder.maxPlaceholders < placeholderCount source ∨
        settings.placeholder.maxDebtScore < placeholderDebt source settings.placeholder) ∧
      finding = Placeholder.finding "DEBT_BUDGET"
        (Text.decimal (placeholderCount source) ++ " placeholders with debt score " ++
          Text.decimal (placeholderDebt source settings.placeholder) ++ " exceed the budget (" ++
          Text.decimal settings.placeholder.maxPlaceholders ++ " placeholders, debt " ++
          Text.decimal settings.placeholder.maxDebtScore ++ ")")
        source.display
  /-- Where nothing is reported, a valid declaration that has not run out covers every promise. -/
  covered : checkFile settings.placeholder now source = [] → ∀ line, PromisesAt source line →
    ∃ first, ∃ declaration ∈ declaredAt? source first,
      declaration.isValid = true ∧ declaration.isExpired now = false ∧
        first ≤ line ∧ line ≤ first + settings.placeholder.coverageWindow

section Gates

variable {source : Source}

/-- The gate for hidden work looks at a line exactly if nothing governs it. -/
theorem isHit_iff (rules : HiddenTodo.RuleSet) (window line : Nat) :
    HiddenTodo.IsHit rules window source line ↔
      ¬Governed source window line ∧
        ∃ rule ∈ HiddenTodo.rulesAt rules source line, rule.category.isSignal = true := by
  rw [HiddenTodo.IsHit, ← governs_coverageOf_iff, Bool.not_eq_true]

/-- The line of a declaration is one of the file, and a valid one names its impact. -/
theorem ValidAt.counted
    {line : Nat}
    (validAt : ValidAt source line) :
    line ∈ List.range' 1 source.lineCount ∧ (declaredAt? source line).isSome = true ∧
      ∃ impact, impactAt? source line = some impact := by
  obtain ⟨declaration, declared, valid⟩ := validAt
  obtain ⟨impact, named⟩ := Declaration.exists_impactOf? valid
  obtain ⟨comment, isComment, -⟩ := markedAt_of_declaredAt? declared
  obtain ⟨positive, atMost⟩ := inside_of_commentAt? isComment
  exact ⟨List.mem_range'_1.mpr ⟨positive, by omega⟩,
    Option.isSome_iff_exists.mpr ⟨declaration, declared⟩, impact,
    Option.bind_eq_some_iff.mpr ⟨declaration, declared, named⟩⟩

/-- If nothing is found, every promise has a valid declaration that has not run out, or lies at most
the window below one. -/
theorem exists_covering
    {settings : PlaceholderSettings}
    {now : Instant}
    (nothing : checkSource settings now source = [])
    {line : Nat}
    (promises : PromisesAt source line) :
    ∃ first, ∃ declaration ∈ declaredAt? source first,
      declaration.isValid = true ∧ declaration.isExpired now = false ∧
        first ≤ line ∧ line ≤ first + settings.coverageWindow := by
  have silent {rule : String} : ¬∃ finding ∈ checkSource settings now source,
      finding.rule = rule ∧ finding.line? = some line := by
    rw [nothing]
    simp
  have governed : Governed source settings.coverageWindow line := by
    by_contra free
    exact silent ((exists_promise_iff line).mpr ⟨free, promises⟩)
  have valid : MarkedAt source line → ValidAt source line := by
    intro marked
    by_contra invalid
    exact silent ((exists_schema_iff line).mpr ⟨marked, invalid⟩)
  obtain ⟨first, ⟨declaration, declared, isValid⟩, after, within⟩ := governed.exists_validAt valid
  exact ⟨first, declaration, declared, isValid, isExpired_eq_false nothing declared, after, within⟩

end Gates

/-- Nothing is left out silently in source files: the two gates pass over the same lines, and what
governs them is valid and counted, or reported. -/
theorem gates_omit_nothing
    (settings : Settings)
    (now : Instant)
    {source : Source}
    (isCode : Source.isProseOrData source.path = false) :
    OmitsNothing settings now source := by
  have checked : checkFile settings.placeholder now source =
      checkSource settings.placeholder now source := by
    rw [checkFile, if_neg]
    intro artifact
    rw [isProseOrData_of_isArtifact artifact] at isCode
    cases isCode
  refine ⟨?_, ?_, ?_, fun _ validAt => validAt.counted, ?_, ?_⟩
  · intro rules
    refine ⟨HiddenTodo.runs (HiddenTodo.hitsOf rules settings.placeholder.coverageWindow source),
      rfl, ?_⟩
    intro line
    rw [HiddenTodo.flatten_runs, ← List.mem_map, HiddenTodo.mem_lines_hitsOf_iff, isHit_iff]
  · rw [checked]
    exact exists_promise_iff
  · rw [checked]
    exact exists_schema_iff
  · rw [checked]
    exact mem_checkSource_and_budget_iff
  · rw [checked]
    exact fun nothing line promises => exists_covering nothing promises

/-- A promise below a declaration that runs out years later, and lists its fields in order. -/
theorem gates_omit_nothing_declared :
    let now : Instant := ⟨⟨2026, 5, 4⟩, 43200, 0⟩
    let source : Source :=
      ⟨"a.rs", "//@placeholder[\"a\",\"b\",\"c\",\"partial\",\"d\",null,\"2030-01-01\"]\n//todo"⟩
    Source.isProseOrData source.path = false ∧ checkFile {} now source = [] ∧
      PromisesAt source 2 ∧
      ∃ first, ∃ declaration ∈ declaredAt? source first,
        declaration.isValid = true ∧ declaration.isExpired now = false ∧
          first ≤ 2 ∧ 2 ≤ first + 10 := by
  intro now source
  have isCode : Source.isProseOrData source.path = false := by decide +kernel
  have nothing : checkFile {} now source = [] := by
    rw [← List.isEmpty_iff]
    decide +kernel
  have promises : PromisesAt source 2 := ⟨"todo", by decide +kernel, by decide +kernel⟩
  exact ⟨isCode, nothing, promises, (gates_omit_nothing {} now isCode).covered nothing 2 promises⟩

end Placeholder
end QualityGate
