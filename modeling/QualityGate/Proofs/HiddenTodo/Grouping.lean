import QualityGate.Proofs.HiddenTodo.GroupFinding
import QualityGate.Proofs.HiddenTodo.Runs
import Mathlib.Data.List.Forall2
import Mathlib.Data.List.Pairwise

/-!
# One finding for every run

The scan of a file cuts its hits into maximal runs of consecutive lines.  Every run that passes
makes one finding, in the order of lines, and nothing else does.  So no broad keyword is missed
while the bypass is on.
-/

namespace QualityGate
namespace HiddenTodo

/-! ## The groups of a file -/

section Statement

variable (rules : RuleSet) (window : Nat) (source : Source)

/-- The groups are the hits of a file, cut into maximal runs. -/
structure IsGrouping (groups : List (List Hit)) : Prop where
  hits : ∀ group ∈ groups, ∀ hit ∈ group, IsHitOf rules window source hit
  complete : ∀ line, IsHit rules window source line →
    ∃ group ∈ groups, ∃ hit ∈ group, hit.line = line
  ascending : groups.flatten.Pairwise fun earlier later => earlier.line < later.line
  runs : ∀ group ∈ groups, ∃ first, IsRun (IsHit rules window source) group first

/-- The line is not before the first one, and all lines from there to it are hits. -/
def Reaches (first line : Nat) : Prop :=
  first ≤ line ∧ ∀ between, first ≤ between → between ≤ line → IsHit rules window source between

/-- Two lines belong to the same run. -/
def SameRun (line other : Nat) : Prop :=
  ∃ first, Reaches rules window source first line ∧ Reaches rules window source first other

/-- A rule of the category matches the line. -/
def MatchesAt (category : Category) (line : Nat) : Prop :=
  ∃ rule ∈ rulesAt rules source line, rule.category = category

/-- What the groups of a file are weighed with besides their rules. -/
def surroundingsOf : Surroundings where
  kind := FileKind.ofFile source.path source.content
  hasCode := (linesOf source).map fun parts => !Text.isBlankText parts.code
  marker := (Profile.ofPath source.path).comments.markers.headD "//"
  file := source.display

end Statement

section Runs

variable {rules : RuleSet} {window : Nat} {source : Source}

theorem IsHitOf.has_eq_true_iff
    {hit : Hit}
    (isHitOf : IsHitOf rules window source hit)
    (category : Category) :
    hit.has category = true ↔ MatchesAt rules source category hit.line := by
  rw [Hit.has_eq_true_iff, isHitOf.rules, MatchesAt]

/-- The groups of the scan are the maximal runs of the hits of a file. -/
theorem isGrouping_runs : IsGrouping rules window source (runs (hitsOf rules window source)) := by
  have ascending : (hitsOf rules window source).Pairwise fun earlier later =>
      earlier.line < later.line := pairwise_hitsFrom 1 (linesOf source)
  refine ⟨?_, ?_, ?_, ?_⟩
  · intro group isGroup hit member
    apply isHitOf_of_mem_hitsOf
    rw [← flatten_runs (hitsOf rules window source)]
    exact List.mem_flatten.mpr ⟨group, isGroup, member⟩
  · intro line isHit
    obtain ⟨hit, member, line_eq⟩ := exists_mem_hitsOf isHit
    rw [← flatten_runs (hitsOf rules window source)] at member
    obtain ⟨group, isGroup, inGroup⟩ := List.mem_flatten.mp member
    exact ⟨group, isGroup, hit, inGroup, line_eq⟩
  · rw [flatten_runs]
    exact ascending
  · have hit_eq : (· ∈ (hitsOf rules window source).map Hit.line) = IsHit rules window source :=
      funext fun line => propext (mem_lines_hitsOf_iff line)
    rw [← hit_eq]
    exact isRun_of_mem_runs ascending

/-- The lines of a run are those that its first line reaches. -/
theorem mem_lines_iff_reaches
    {group : List Hit}
    {first : Nat}
    (run : IsRun (IsHit rules window source) group first)
    (hits : ∀ hit ∈ group, IsHitOf rules window source hit)
    (line : Nat) :
    line ∈ group.map Hit.line ↔ Reaches rules window source first line := by
  have inside : ∀ between, between ∈ group.map Hit.line → IsHit rules window source between := by
    intro between member
    obtain ⟨hit, inGroup, rfl⟩ := List.mem_map.mp member
    exact (hits hit inGroup).isHit
  rw [run.lines] at inside ⊢
  simp only [List.mem_range'_1] at inside ⊢
  constructor
  · rintro ⟨after, before⟩
    exact ⟨after, fun between low high => inside between ⟨low, by omega⟩⟩
  · rintro ⟨after, between⟩
    refine ⟨after, Nat.lt_of_not_le fun beyond => ?_⟩
    exact run.ends (between _ (Nat.le_add_right first group.length) beyond)

end Runs

/-! ## The findings of a file -/

section Findings

variable {rules : RuleSet} {window : Nat} {source : Source}
variable (settings : HiddenTodoSettings)

theorem analyzeWith_eq :
    analyzeWith rules settings window source =
      (runs (hitsOf rules window source)).filterMap
        (groupFinding? settings (surroundingsOf source)) := rfl

/-- A group of hits passes and makes a finding about it, or does neither. -/
theorem IsGrouping.groupFinding?_spec
    {groups : List (List Hit)}
    (grouping : IsGrouping rules window source groups)
    {group : List Hit}
    (member : group ∈ groups) :
    (Passes settings (surroundingsOf source) group ∧
        ∃ finding, groupFinding? settings (surroundingsOf source) group = some finding ∧
          Reports (surroundingsOf source) group finding) ∨
      (¬Passes settings (surroundingsOf source) group ∧
        groupFinding? settings (surroundingsOf source) group = none) := by
  obtain ⟨first, run⟩ := grouping.runs group member
  apply HiddenTodo.groupFinding?_spec settings (surroundingsOf source) run.nonempty
  intro hit inGroup
  have isHitOf := grouping.hits group member hit inGroup
  rw [isHitOf.rules]
  exact isHitOf.isHit.2

/-- What a group makes is about it. -/
theorem IsGrouping.reports
    {groups : List (List Hit)}
    (grouping : IsGrouping rules window source groups)
    {group : List Hit}
    (member : group ∈ groups)
    {finding : Finding}
    (made : groupFinding? settings (surroundingsOf source) group = some finding) :
    Reports (surroundingsOf source) group finding := by
  rcases grouping.groupFinding?_spec settings member with ⟨-, other, equal, reports⟩ | ⟨-, nothing⟩
  · rw [made] at equal
    rwa [Option.some.inj equal]
  · rw [made] at nothing
    cases nothing

/-- The group of a broad keyword is bypassed unless its run talks about keeping track of work. -/
theorem IsGrouping.bypassed
    {settings : HiddenTodoSettings}
    {groups : List (List Hit)}
    (grouping : IsGrouping rules window source groups)
    (bypass : settings.broadKeywordBypass = true)
    {group : List Hit}
    (member : group ∈ groups)
    {hit : Hit}
    (inGroup : hit ∈ group)
    (keyword : MatchesAt rules source .broadKeyword hit.line)
    (untracked : ∀ other, SameRun rules window source hit.line other →
      ¬MatchesAt rules source .todoVocabulary other) :
    Bypassed settings group := by
  have hits := grouping.hits group member
  obtain ⟨first, run⟩ := grouping.runs group member
  have reaches : ∀ other ∈ group, Reaches rules window source first other.line :=
    fun other isOther =>
      (mem_lines_iff_reaches run hits other.line).mp (List.mem_map_of_mem isOther)
  refine ⟨bypass, ⟨hit, inGroup, ((hits hit inGroup).has_eq_true_iff _).mpr keyword⟩, ?_⟩
  intro other isOther
  rw [← Bool.not_eq_true, (hits other isOther).has_eq_true_iff]
  exact untracked other.line ⟨first, reaches hit inGroup, reaches other isOther⟩

end Findings

end HiddenTodo
end QualityGate
