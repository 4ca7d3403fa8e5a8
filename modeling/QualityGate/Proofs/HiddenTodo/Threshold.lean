import QualityGate.Proofs.HiddenTodo.Grouping
import QualityGate.Proofs.Number.Order
import Mathlib.Data.List.Flatten

/-!
# Stricter settings only drop findings

The threshold and the bypass decide whether a group of hits makes its finding, and nothing else: the
groups, and all that a finding says, are the same for every threshold.  So a higher threshold, or
settings without the bypass, leave some of the findings out and change nothing about the others.
-/

namespace QualityGate
namespace HiddenTodo

/-- Settings are at most as strict as others: they let every group pass that the others let pass,
and word findings in the same way. -/
structure Loosens (loose strict : HiddenTodoSettings) : Prop where
  templates : loose.suggestTemplates = strict.suggestTemplates
  bypass : strict.broadKeywordBypass = true → loose.broadKeywordBypass = true
  threshold : ∀ confidence : Float,
    confidence < loose.confidenceThreshold → confidence < strict.confidenceThreshold

/-- A lower threshold is at most as strict.  NaN is not at most anything, so both are numbers. -/
theorem loosens_of_le
    (settings : HiddenTodoSettings)
    {low high : Float}
    (atMost : low ≤ high) :
    Loosens { settings with confidenceThreshold := low }
      { settings with confidenceThreshold := high } where
  templates := rfl
  bypass := id
  threshold := fun _ below => Number.lt_of_lt_of_le below atMost

/-- Settings with the bypass are at most as strict as those without. -/
theorem loosens_of_bypass (settings : HiddenTodoSettings) :
    Loosens { settings with broadKeywordBypass := true }
      { settings with broadKeywordBypass := false } where
  templates := rfl
  bypass := fun _ => rfl
  threshold := fun _ below => below

section Loosened

variable {loose strict : HiddenTodoSettings}

/-- What a finding says does not depend on how strict the settings are. -/
theorem Loosens.findingOf_eq
    (loosens : Loosens loose strict)
    (surroundings : Surroundings)
    (category : Category)
    (rule : String)
    (first : Hit)
    (group : List Hit) :
    findingOf loose surroundings category rule first group =
      findingOf strict surroundings category rule first group := by
  unfold findingOf suggestionOf
  rw [loosens.templates]

/-- A group that is bypassed stays so. -/
theorem Loosens.bypasses
    (loosens : Loosens loose strict)
    {category : Category}
    {group : List Hit}
    (bypassed : bypasses strict category group = true) :
    bypasses loose category group = true := by
  simp only [HiddenTodo.bypasses, Bool.and_eq_true] at bypassed ⊢
  exact ⟨⟨loosens.bypass bypassed.1.1, bypassed.1.2⟩, bypassed.2⟩

/-- The finding of a group that passes the stricter settings is made with the looser ones too. -/
theorem Loosens.groupFinding?_eq_some
    (loosens : Loosens loose strict)
    {surroundings : Surroundings}
    {group : List Hit}
    {finding : Finding}
    (made : groupFinding? strict surroundings group = some finding) :
    groupFinding? loose surroundings group = some finding := by
  unfold groupFinding? at made ⊢
  simp only [Option.bind_eq_bind, Option.bind_eq_some_iff] at made ⊢
  obtain ⟨first, isFirst, category, isCategory, rule, isRule, passed⟩ := made
  refine ⟨first, isFirst, category, isCategory, rule, isRule, ?_⟩
  simp only [Option.ite_none_left_eq_some, Bool.and_eq_true, Bool.not_eq_true', decide_eq_true_eq,
    not_and] at passed ⊢
  obtain ⟨passes, equal⟩ := passed
  refine ⟨?_, by rw [loosens.findingOf_eq, equal]⟩
  intro notBypassed below
  refine passes ?_ (loosens.threshold _ below)
  rw [← Bool.not_eq_true] at notBypassed ⊢
  exact fun bypassed => notBypassed (loosens.bypasses bypassed)

/-- The findings about a file with stricter settings are some of those with looser ones. -/
theorem Loosens.analyzeWith_sublist
    (loosens : Loosens loose strict)
    (rules : RuleSet)
    (window : Nat)
    (source : Source) :
    (analyzeWith rules strict window source).Sublist (analyzeWith rules loose window source) := by
  rw [analyzeWith_eq, analyzeWith_eq, List.filterMap_eq_flatMap_toList,
    List.filterMap_eq_flatMap_toList]
  apply List.Sublist.flatMap_right
  intro group _
  cases made : groupFinding? strict (surroundingsOf source) group with
  | none => exact List.nil_sublist _
  | some finding => rw [loosens.groupFinding?_eq_some made]

/-- The findings about a set of files with stricter settings are some of those with looser ones. -/
theorem Loosens.scan_sublist
    (loosens : Loosens loose strict)
    (window : Nat)
    (tree : Tree)
    (files : FileSet) :
    (scan strict window tree files).findings.Sublist (scan loose window tree files).findings :=
  List.Sublist.flatMap_right _ fun source _ => loosens.analyzeWith_sublist .standard window source

end Loosened

/-- Raising the threshold only leaves findings out, and so does turning the bypass off: all that is
still found stands in the same order and says the same. -/
theorem scan_antitone
    (settings : HiddenTodoSettings)
    (window : Nat)
    (tree : Tree)
    (files : FileSet) :
    (∀ low high : Float, low ≤ high →
      (scan { settings with confidenceThreshold := high } window tree files).findings.Sublist
        (scan { settings with confidenceThreshold := low } window tree files).findings) ∧
      (scan { settings with broadKeywordBypass := false } window tree files).findings.Sublist
        (scan { settings with broadKeywordBypass := true } window tree files).findings := by
  constructor
  · intro low high atMost
    exact (loosens_of_le settings atMost).scan_sublist window tree files
  · exact (loosens_of_bypass settings).scan_sublist window tree files

/-- The weaker of two keywords is found below its confidence only. -/
theorem scan_antitone_two_keywords :
    let tree : Tree := ⟨"/project", [(["a.rs"], .file (.text "//disabled\n\n//todo\n"))]⟩
    let settings : HiddenTodoSettings := { broadKeywordBypass := false }
    let found (threshold : Float) : List Finding :=
      (scan { settings with confidenceThreshold := threshold } 10 tree ⟨["a.rs"]⟩).findings
    (0.3 : Float) ≤ 0.5 ∧ (found 0.3).map Finding.line? = [some 1, some 3] ∧
      (found 0.5).map Finding.line? = [some 3] ∧ (found 0.5).Sublist (found 0.3) := by
  intro tree settings found
  have atMost : (0.3 : Float) ≤ 0.5 := by decide
  exact ⟨atMost, by decide +kernel, by decide +kernel,
    (scan_antitone settings 10 tree ⟨["a.rs"]⟩).1 0.3 0.5 atMost⟩

end HiddenTodo
end QualityGate
