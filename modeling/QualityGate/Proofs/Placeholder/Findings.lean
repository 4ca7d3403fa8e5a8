import QualityGate.Detector.Placeholder.Scan
import QualityGate.Proofs.Placeholder.Governed
import QualityGate.Proofs.Text.Letter

/-!
# What the placeholder gate finds in a source file

The findings about a source file come from four checks: declarations that cannot be read, what is
wrong with each declaration that was read, the budget of the file, and promises in lines that
nothing governs.  Each rule of findings belongs to one of them, apart from the schema, which the
first two share.
-/

namespace QualityGate
namespace Placeholder

open HiddenTodo (linesOf coverageOf)

/-! ## One declaration -/

section Declared

variable {settings : PlaceholderSettings} {now : Instant} {file : String}
variable {declaration : Declaration}

theorem rule_atLine? (line? : Option Nat) (finding : Finding) :
    (atLine? line? finding).rule = finding.rule := by
  cases line? <;> rfl

/-- The findings about a declaration stand on its line. -/
theorem line?_of_mem_checkDeclaration
    {line : Nat}
    {finding : Finding}
    (member : finding ∈ checkDeclaration settings now file (some line) declaration) :
    finding.line? = some line := by
  obtain ⟨lineless, -, rfl⟩ := List.mem_map.mp member
  rfl

/-- What a finding about a declaration that was read can mean. -/
theorem cases_of_mem_checkDeclaration
    {line? : Option Nat}
    {finding : Finding}
    (member : finding ∈ checkDeclaration settings now file line? declaration) :
    finding.rule = "PLACEHOLDER_SCHEMA" ∧ declaration.isValid = false ∨
      finding.rule = "NON_DEGRADABLE_SCOPE" ∨
      finding.rule = "PLACEHOLDER_EXPIRED" := by
  obtain ⟨lineless, made, rfl⟩ := List.mem_map.mp member
  rw [rule_atLine?]
  simp only [List.mem_append] at made
  rcases made with (malformed | critical) | expired
  · split at malformed
    · cases malformed
    · rename_i wrong
      rw [List.mem_singleton.mp malformed]
      exact Or.inl ⟨rfl, Bool.not_eq_true _ ▸ wrong⟩
  · split at critical
    · cases critical
    · split at critical
      · cases critical
      · rw [List.mem_singleton.mp critical]
        exact Or.inr (Or.inl rfl)
  · split at expired
    · rw [List.mem_singleton.mp expired]
      exact Or.inr (Or.inr rfl)
    · cases expired

/-- A declaration with which something is wrong breaks the schema. -/
theorem exists_schema_mem_checkDeclaration
    (line? : Option Nat)
    (invalid : declaration.isValid = false) :
    ∃ finding ∈ checkDeclaration settings now file line? declaration,
      finding.rule = "PLACEHOLDER_SCHEMA" := by
  have wrong : declaration.problems.isEmpty = false := invalid
  simp only [checkDeclaration, wrong, Bool.false_eq_true, if_false, List.cons_append, List.map_cons]
  exact ⟨_, List.mem_cons_self, rule_atLine? line? _⟩

/-- A declaration that has run out makes a finding. -/
theorem exists_mem_checkDeclaration_of_isExpired
    (settings : PlaceholderSettings)
    (file : String)
    (line? : Option Nat)
    (expired : declaration.isExpired now = true) :
    ∃ finding, finding ∈ checkDeclaration settings now file line? declaration := by
  rw [← List.isEmpty_eq_false_iff_exists_mem, checkDeclaration, List.isEmpty_map, expired]
  simp

end Declared

/-! ## A source file -/

/-- The declarations of a file that were read, with their lines. -/
def readIn (source : Source) : List (Option Nat × Declaration) :=
  (declarationsIn (linesOf source)).filterMap fun inline =>
    inline.parsed.toOption.map fun declaration => (some inline.line, declaration)

section Source

variable {settings : PlaceholderSettings} {now : Instant} {source : Source}

theorem mem_readIn_iff (line? : Option Nat) (declaration : Declaration) :
    (line?, declaration) ∈ readIn source ↔
      ∃ line, line? = some line ∧ declaredAt? source line = some declaration := by
  simp only [readIn, List.mem_filterMap, Option.map_eq_some_iff, Prod.mk.injEq,
    mem_declarationsIn_iff]
  constructor
  · rintro ⟨inline, ⟨line, found⟩, read, isRead, rfl, rfl⟩
    rw [line_eq_of_inlineAt? found]
    exact ⟨line, rfl, Option.bind_eq_some_iff.mpr ⟨inline, found, isRead⟩⟩
  · rintro ⟨line, rfl, declared⟩
    obtain ⟨inline, found, isRead⟩ := Option.bind_eq_some_iff.mp declared
    exact ⟨inline, ⟨line, found⟩, declaration, isRead, by rw [line_eq_of_inlineAt? found], rfl⟩

/-! ### The four checks -/

/-- A declaration that cannot be read breaks the schema on its line. -/
theorem exists_mem_checkReadable_iff (line : Nat) :
    (∃ finding ∈ checkReadable source.display (declarationsIn (linesOf source)),
        finding.line? = some line) ↔
      MarkedAt source line ∧ declaredAt? source line = none := by
  constructor
  · rintro ⟨finding, member, onLine⟩
    obtain ⟨inline, isInline, made⟩ := List.mem_filterMap.mp member
    obtain ⟨first, found⟩ := (mem_declarationsIn_iff inline).mp isInline
    split at made
    · cases made
    · rename_i message unread
      cases made
      cases onLine
      rw [line_eq_of_inlineAt? found]
      refine ⟨(exists_inlineAt?_iff first).mp ⟨inline, found⟩, ?_⟩
      rw [declaredAt?, found, Option.bind_some, unread]
      rfl
  · rintro ⟨marked, unread⟩
    obtain ⟨inline, found⟩ := (exists_inlineAt?_iff line).mpr marked
    rw [declaredAt?, found, Option.bind_some] at unread
    cases parsed : inline.parsed with
    | ok declaration =>
      rw [parsed] at unread
      cases unread
    | error message =>
      refine ⟨_, List.mem_filterMap.mpr ⟨inline, (mem_declarationsIn_iff inline).mpr ⟨line, found⟩,
        by rw [parsed]⟩, ?_⟩
      exact congrArg some (line_eq_of_inlineAt? found)

theorem rule_of_mem_checkReadable
    {file : String}
    {declarations : List InlineDeclaration}
    {finding : Finding}
    (member : finding ∈ checkReadable file declarations) :
    finding.rule = "PLACEHOLDER_SCHEMA" := by
  obtain ⟨inline, -, made⟩ := List.mem_filterMap.mp member
  split at made
  · cases made
  · cases made
    rfl

/-- The debt of declarations is what is left of the sum of their weights in 32 bits. -/
theorem debtOf_eq (declarations : List Declaration) :
    debtOf settings declarations =
      ((declarations.filterMap Declaration.impactOf?).map (Impact.weight settings)).foldr
        (· + ·) 0 % Word.bound 32 := by
  have summed (debt : Nat) (weights : List Nat) :
      weights.foldl (fun debt weight => (debt + weight) % Word.bound 32) (debt % Word.bound 32) =
        (debt + weights.foldr (· + ·) 0) % Word.bound 32 := by
    induction weights generalizing debt with
    | nil => rfl
    | cons weight rest inductionHypothesis =>
      rw [List.foldl_cons, List.foldr_cons, Nat.mod_add_mod, inductionHypothesis, Nat.add_assoc]
  have fromZero := summed 0
  rw [Nat.zero_mod] at fromZero
  rw [debtOf, fromZero, Nat.zero_add, List.map_filterMap]

/-- Two weights of half the range leave no debt. -/
example :
    debtOf { weightPartial := 2147483648 }
      (List.replicate 2 { (default : Declaration) with impact? := some "partial" }) = 0 := by
  decide +kernel

theorem mem_checkBudget_iff (file : String) (declarations : List Declaration) (finding : Finding) :
    finding ∈ checkBudget settings file declarations ↔
      (settings.maxPlaceholders < declarations.length ∨
        settings.maxDebtScore < debtOf settings declarations) ∧
      finding = Placeholder.finding "DEBT_BUDGET"
        (Text.decimal declarations.length ++ " placeholders with debt score " ++
          Text.decimal (debtOf settings declarations) ++ " exceed the budget (" ++
          Text.decimal settings.maxPlaceholders ++ " placeholders, debt " ++
          Text.decimal settings.maxDebtScore ++ ")")
        file := by
  unfold checkBudget
  simp only [Bool.or_eq_true, decide_eq_true_eq]
  split
  · rename_i exceeded
    rw [List.mem_singleton]
    exact ⟨fun equal => ⟨exceeded, equal⟩, And.right⟩
  · rename_i within
    exact ⟨fun member => absurd member List.not_mem_nil, fun both => absurd both.1 within⟩

theorem rule_of_mem_checkBudget
    {file : String}
    {declarations : List Declaration}
    {finding : Finding}
    (member : finding ∈ checkBudget settings file declarations) :
    finding.rule = "DEBT_BUDGET" := by
  rw [((mem_checkBudget_iff file declarations finding).mp member).2]
  rfl

/-- The comment of the line promises work for later. -/
def PromisesAt (source : Source) (line : Nat) : Prop :=
  ∃ comment ∈ commentAt? source line, promise.occursIn comment = true

theorem exists_mem_checkPromises_iff (window line : Nat) :
    (∃ finding ∈ checkPromises source.display (coverageOf window source) (linesOf source),
        finding.line? = some line) ↔
      ¬Governed source window line ∧ PromisesAt source line := by
  have occurs (comment : String) :
      promise.occursIn comment = true ↔ ∃ text, promise.findText? comment = some text := by
    rw [← Option.isSome_iff_exists, Pattern.findText?, Option.isSome_map, Pattern.occursIn]
  rw [← governs_coverageOf_iff, Bool.not_eq_true]
  constructor
  · rintro ⟨finding, member, onLine⟩
    obtain ⟨⟨parts, index⟩, atIndex, made⟩ := List.mem_filterMap.mp member
    rw [List.mem_zipIdx_iff_getElem?] at atIndex
    dsimp only at made atIndex
    split at made
    · cases made
    · rename_i free
      obtain ⟨text, found, rfl⟩ := Option.map_eq_some_iff.mp made
      cases onLine
      refine ⟨Bool.not_eq_true _ ▸ free, parts.comment, ?_, (occurs _).mpr ⟨text, found⟩⟩
      rw [commentAt?, atIndex]
      rfl
  · rintro ⟨free, comment, isComment, promised⟩
    obtain ⟨text, found⟩ := (occurs comment).mp promised
    cases line with
    | zero => cases isComment
    | succ index =>
      obtain ⟨parts, atIndex, rfl⟩ := Option.map_eq_some_iff.mp isComment
      refine ⟨danglingFinding source.display (index + 1) text, List.mem_filterMap.mpr
        ⟨(parts, index), List.mem_zipIdx_iff_getElem?.mpr atIndex, ?_⟩, rfl⟩
      simp only [free, found, Bool.false_eq_true, if_false, Option.map_some]

theorem rule_of_mem_checkPromises
    {file : String}
    {coverage : Coverage}
    {lines : List LineParts}
    {finding : Finding}
    (member : finding ∈ checkPromises file coverage lines) :
    finding.rule = "DANGLING_PROMISE" := by
  obtain ⟨⟨parts, index⟩, -, made⟩ := List.mem_filterMap.mp member
  dsimp only at made
  split at made
  · cases made
  · obtain ⟨text, -, rfl⟩ := Option.map_eq_some_iff.mp made
    rfl

/-! ### The findings of a rule -/

/-- A finding about a source file comes from one of the four checks. -/
theorem mem_checkSource_iff (finding : Finding) :
    finding ∈ checkSource settings now source ↔
      finding ∈ checkReadable source.display (declarationsIn (linesOf source)) ∨
      (∃ line, ∃ declaration ∈ declaredAt? source line,
        finding ∈ checkDeclaration settings now source.display (some line) declaration) ∨
      finding ∈ checkBudget settings source.display ((readIn source).map Prod.snd) ∨
      finding ∈ checkPromises source.display (coverageOf settings.coverageWindow source)
        (linesOf source) := by
  have parts : checkSource settings now source =
      checkReadable source.display (declarationsIn (linesOf source)) ++
        checkDeclarations settings now source.display (readIn source) ++
        checkPromises source.display (coverageOf settings.coverageWindow source)
          (linesOf source) := rfl
  have declared : (∃ read ∈ readIn source,
        finding ∈ checkDeclaration settings now source.display read.1 read.2) ↔
      ∃ line, ∃ declaration ∈ declaredAt? source line,
        finding ∈ checkDeclaration settings now source.display (some line) declaration := by
    constructor
    · rintro ⟨⟨line?, declaration⟩, member, made⟩
      obtain ⟨line, rfl, declared⟩ := (mem_readIn_iff line? declaration).mp member
      exact ⟨line, declaration, declared, made⟩
    · rintro ⟨line, declaration, declared, made⟩
      exact ⟨(some line, declaration), (mem_readIn_iff _ _).mpr ⟨line, rfl, declared⟩, made⟩
  rw [parts, checkDeclarations, List.mem_append, List.mem_append, List.mem_append,
    List.mem_flatMap, declared, or_assoc, or_assoc]

section Rules

variable {finding : Finding}

/-- Findings about the schema are about declarations. -/
theorem mem_checkSource_iff_of_schema (isSchema : finding.rule = "PLACEHOLDER_SCHEMA") :
    finding ∈ checkSource settings now source ↔
      finding ∈ checkReadable source.display (declarationsIn (linesOf source)) ∨
      ∃ line, ∃ declaration ∈ declaredAt? source line,
        finding ∈ checkDeclaration settings now source.display (some line) declaration := by
  rw [mem_checkSource_iff]
  grind [rule_of_mem_checkBudget, rule_of_mem_checkPromises]

/-- Findings about the budget are about the declarations that were read. -/
theorem mem_checkSource_iff_of_budget (isBudget : finding.rule = "DEBT_BUDGET") :
    finding ∈ checkSource settings now source ↔
      finding ∈ checkBudget settings source.display ((readIn source).map Prod.snd) := by
  rw [mem_checkSource_iff]
  grind [rule_of_mem_checkReadable, → cases_of_mem_checkDeclaration, rule_of_mem_checkPromises]

/-- Findings about promises are about lines that nothing governs. -/
theorem mem_checkSource_iff_of_promise (isPromise : finding.rule = "DANGLING_PROMISE") :
    finding ∈ checkSource settings now source ↔
      finding ∈ checkPromises source.display (coverageOf settings.coverageWindow source)
        (linesOf source) := by
  rw [mem_checkSource_iff]
  grind [rule_of_mem_checkReadable, → cases_of_mem_checkDeclaration, rule_of_mem_checkBudget]

end Rules

end Source

end Placeholder
end QualityGate
