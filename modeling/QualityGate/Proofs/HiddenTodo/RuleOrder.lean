import QualityGate.Proofs.HiddenTodo.Signals
import Mathlib.Data.List.Forall2

/-!
# The order of the rules

Rules that are tried in another order, or more than once, match the same lines, so a file falls into
the same groups and every group has the same rules.  Nothing that is said about a group depends on
how its rules are listed: where every id has one weight, the findings are the same.  The confidence
in a group is fixed by the ids of its rules and by its circumstances.
-/

namespace QualityGate
namespace HiddenTodo

/-- Two sets have the same rules, in any order and any number of times. -/
structure RuleSet.SameRules (rules others : RuleSet) : Prop where
  text : ∀ rule, rule ∈ rules.text ↔ rule ∈ others.text
  stubs : ∀ (language? : Option Language) (rule : Rule),
    rule ∈ rules.stubs language? ↔ rule ∈ others.stubs language?

/-- Two hits are about the same line and have the same rules, which may be listed in different
ways. -/
structure Hit.Alike (hit other : Hit) : Prop where
  line : hit.line = other.line
  rules : ∀ rule, rule ∈ hit.rules ↔ rule ∈ other.rules
  comment : hit.comment = other.comment
  code : hit.code = other.code
  docComment : hit.docComment = other.docComment

/-! ## Hits and their groups -/

section Scan

variable {text otherText stubs otherStubs : List Rule}

theorem matchedRules_alike
    (sameText : ∀ rule, rule ∈ text ↔ rule ∈ otherText)
    (sameStubs : ∀ rule, rule ∈ stubs ↔ rule ∈ otherStubs)
    (parts : LineParts)
    (next? : Option LineParts)
    (rule : Rule) :
    rule ∈ matchedRules text stubs parts next? ↔
      rule ∈ matchedRules otherText otherStubs parts next? := by
  simp only [matchedRules_eq, List.mem_append, List.mem_filter, sameText, sameStubs]

/-- A line is a hit with both lists of rules or with none. -/
theorem forall₂_hitOf?
    (sameText : ∀ rule, rule ∈ text ↔ rule ∈ otherText)
    (sameStubs : ∀ rule, rule ∈ stubs ↔ rule ∈ otherStubs)
    (line : Nat)
    (parts : LineParts)
    (next? : Option LineParts) :
    List.Forall₂ Hit.Alike (hitOf? text stubs line parts next?).toList
      (hitOf? otherText otherStubs line parts next?).toList := by
  have same := matchedRules_alike sameText sameStubs parts next?
  have anySignal :
      ((matchedRules text stubs parts next?).any fun rule => rule.category.isSignal) =
        (matchedRules otherText otherStubs parts next?).any fun rule =>
          rule.category.isSignal := by
    rw [Bool.eq_iff_iff, List.any_eq_true, List.any_eq_true]
    exact exists_congr fun rule => and_congr_left' (same rule)
  unfold hitOf?
  dsimp only
  rw [anySignal]
  split
  · exact List.Forall₂.cons ⟨rfl, same, rfl, rfl, rfl⟩ List.Forall₂.nil
  · exact List.Forall₂.nil

/-- The hits among lines are the same. -/
theorem forall₂_hitsFrom
    (sameText : ∀ rule, rule ∈ text ↔ rule ∈ otherText)
    (sameStubs : ∀ rule, rule ∈ stubs ↔ rule ∈ otherStubs)
    (coverage : Placeholder.Coverage)
    (first : Nat)
    (lines : List LineParts) :
    List.Forall₂ Hit.Alike (hitsFrom text stubs coverage first lines)
      (hitsFrom otherText otherStubs coverage first lines) := by
  induction lines generalizing first with
  | nil => exact List.Forall₂.nil
  | cons parts rest inductionHypothesis =>
    rw [hitsFrom, hitsFrom]
    split
    · exact inductionHypothesis (first + 1)
    · exact List.rel_append (forall₂_hitOf? sameText sameStubs first parts rest.head?)
        (inductionHypothesis (first + 1))

end Scan

/-- Groups are cut by the numbers of lines only. -/
theorem forall₂_runs
    {hits others : List Hit}
    (alike : List.Forall₂ Hit.Alike hits others) :
    List.Forall₂ (List.Forall₂ Hit.Alike) (runs hits) (runs others) := by
  induction alike with
  | nil => exact List.Forall₂.nil
  | @cons hit other rest otherRest here _ inductionHypothesis =>
    -- whether a hit goes on with the next group depends on the line of its first hit
    rw [runs, runs]
    generalize runs rest = restRuns, runs otherRest = otherRuns at inductionHypothesis ⊢
    cases inductionHypothesis with
    | nil => exact List.Forall₂.cons (.cons here .nil) .nil
    | cons group following =>
      cases group with
      | nil => exact List.Forall₂.cons (.cons here .nil) (.cons .nil following)
      | cons next further =>
        dsimp only
        rw [here.line, next.line]
        split
        · exact .cons (.cons here (.cons next further)) following
        · exact .cons (.cons here .nil) (.cons (.cons next further) following)

/-! ## Findings of groups -/

section Group

variable {hit other : Hit} {group others : List Hit}

theorem Hit.Alike.has_eq (alike : hit.Alike other) (category : Category) :
    hit.has category = other.has category := by
  rw [Bool.eq_iff_iff, hit.has_eq_true_iff, other.has_eq_true_iff]
  exact exists_congr fun rule => and_congr_left' (alike.rules rule)

/-- The leading category is told from the categories that occur. -/
theorem Leads.of_sameCategories
    {category : Category}
    (leads : Leads group category)
    (same : ∀ occurring, (∃ hit ∈ group, hit.has occurring = true) ↔
      ∃ hit ∈ others, hit.has occurring = true) :
    Leads others category where
  signal := leads.signal
  occurs := (same category).mp leads.occurs
  strongest := by
    intro hit member weaker has signal
    obtain ⟨found, isFound, foundHas⟩ := (same weaker).mpr ⟨hit, member, has⟩
    exact leads.strongest found isFound weaker foundHas signal

theorem Hit.Alike.topCategory?_eq (alike : hit.Alike other) :
    hit.topCategory? = other.topCategory? := by
  ext category
  rw [hit.topCategory?_eq_some_iff, other.topCategory?_eq_some_iff]
  have same (category : Category) : (∃ only ∈ [hit], only.has category = true) ↔
      ∃ only ∈ [other], only.has category = true := by
    simp [alike.has_eq]
  exact ⟨fun leads => leads.of_sameCategories same,
    fun leads => leads.of_sameCategories fun category => (same category).symm⟩

/-- What is the same for hits that are alike is the same all over groups that are alike. -/
theorem map_eq_of_alike
    {β : Type}
    {view : Hit → β}
    (view_eq : ∀ {hit other : Hit}, hit.Alike other → view hit = view other)
    (alike : List.Forall₂ Hit.Alike group others) :
    group.map view = others.map view := by
  rw [← List.forall₂_eq_eq_eq, List.forall₂_map_left_iff, List.forall₂_map_right_iff]
  exact alike.imp fun _ _ => view_eq

theorem any_eq_of_alike
    (test : Hit → Bool)
    (test_eq : ∀ {hit other : Hit}, hit.Alike other → test hit = test other)
    (alike : List.Forall₂ Hit.Alike group others) :
    group.any test = others.any test := by
  have tests_eq := map_eq_of_alike test_eq alike
  rw [← Function.id_comp test, ← List.any_map, ← List.any_map, tests_eq]

/-- The same rules match somewhere in groups that are alike. -/
theorem mem_flatMap_rules_iff_of_alike
    (alike : List.Forall₂ Hit.Alike group others)
    (rule : Rule) :
    rule ∈ group.flatMap Hit.rules ↔ rule ∈ others.flatMap Hit.rules := by
  induction alike with
  | nil => exact Iff.rfl
  | cons here _ inductionHypothesis =>
    rw [List.flatMap_cons, List.flatMap_cons, List.mem_append, List.mem_append, here.rules,
      inductionHypothesis]

theorem mem_signalsOf_iff_of_alike
    (alike : List.Forall₂ Hit.Alike group others)
    (signal : String × Float) :
    signal ∈ signalsOf group ↔ signal ∈ signalsOf others := by
  rw [signalsOf, signalsOf, List.mem_map, List.mem_map]
  simp only [mem_flatMap_rules_iff_of_alike alike]

theorem circumstancesOf_eq_of_alike
    (surroundings : Surroundings)
    (alike : List.Forall₂ Hit.Alike group others) :
    circumstancesOf surroundings group = circumstancesOf surroundings others := by
  have documentation_eq : group.all Hit.docComment = others.all Hit.docComment := by
    rw [← Function.id_comp Hit.docComment, ← List.all_map, ← List.all_map,
      map_eq_of_alike Hit.Alike.docComment alike]
  have words_eq := any_eq_of_alike
    (fun hit => hit.has .broadKeyword || hit.has .disguisedPhrase)
    (fun alike => by rw [alike.has_eq, alike.has_eq]) alike
  have code_eq := any_eq_of_alike Hit.hasCode
    (fun alike => by rw [Hit.hasCode, Hit.hasCode, alike.code]) alike
  have last_eq (hits : List Hit) :
      (hits.getLast?.bind fun last => surroundings.hasCode[last.line]?) =
        (hits.map Hit.line).getLast?.bind fun line => surroundings.hasCode[line]? := by
    rw [List.getLast?_map, Option.bind_map]
    rfl
  rw [circumstancesOf, circumstancesOf, documentation_eq, words_eq, code_eq, last_eq group,
    last_eq others, map_eq_of_alike Hit.Alike.line alike]

/-- Groups that are alike have the same score. -/
theorem scoreOf_eq_of_alike
    {weight : String → Float}
    (surroundings : Surroundings)
    (weighed : IsWeighedBy weight (signalsOf group))
    (alike : List.Forall₂ Hit.Alike group others) :
    scoreOf surroundings group = scoreOf surroundings others := by
  have same := mem_signalsOf_iff_of_alike alike
  refine scoreOf_congr (circumstancesOf_eq_of_alike surroundings alike)
    (Score.addAll_eq_of_sameIds weighed ?_ ?_)
  · exact fun signal member => weighed signal ((same signal).mpr member)
  · intro id
    rw [List.mem_map, List.mem_map]
    exact exists_congr fun signal => and_congr_left' (same signal)

/-- The first hits of a category are alike. -/
theorem lead_alike
    (alike : List.Forall₂ Hit.Alike group others)
    (here : hit.Alike other)
    (category : Category) :
    ((group.find? fun hit => hit.topCategory? = some category).getD hit).Alike
      ((others.find? fun hit => hit.topCategory? = some category).getD other) := by
  induction alike with
  | nil => exact here
  | cons first _ inductionHypothesis =>
    rw [List.find?_cons, List.find?_cons, first.topCategory?_eq]
    split
    · exact first
    · exact inductionHypothesis

theorem Hit.Alike.messageOf_eq (alike : hit.Alike other) (category : Category) (count : Nat) :
    messageOf category hit count = messageOf category other count := by
  unfold messageOf shownText
  rw [alike.comment, alike.code]

theorem Hit.Alike.suggestionOf_eq
    (alike : hit.Alike other)
    (settings : HiddenTodoSettings)
    (marker : String)
    (category : Category) :
    suggestionOf settings marker category hit = suggestionOf settings marker category other := by
  unfold suggestionOf
  rw [alike.comment]

/-- A finding shows the line, the text and the score of its group, and these are the same for groups
that are alike. -/
theorem findingOf_eq_of_alike
    (settings : HiddenTodoSettings)
    {surroundings : Surroundings}
    (sameScore : scoreOf surroundings group = scoreOf surroundings others)
    (alike : List.Forall₂ Hit.Alike group others)
    (here : hit.Alike other)
    (category : Category)
    (rule : String) :
    findingOf settings surroundings category rule hit group =
      findingOf settings surroundings category rule other others := by
  have lead := lead_alike alike here category
  unfold findingOf
  dsimp only
  rw [sameScore, alike.length_eq, here.line, lead.messageOf_eq, lead.suggestionOf_eq]

theorem bypasses_eq_of_alike
    (settings : HiddenTodoSettings)
    (alike : List.Forall₂ Hit.Alike group others)
    (category : Category) :
    bypasses settings category group = bypasses settings category others := by
  rw [bypasses, bypasses, any_eq_of_alike _ (fun alike => alike.has_eq .todoVocabulary) alike]

/-- Groups that are alike make the same finding, or none. -/
theorem groupFinding?_eq_of_alike
    (settings : HiddenTodoSettings)
    {surroundings : Surroundings}
    (sameScore : scoreOf surroundings group = scoreOf surroundings others)
    (alike : List.Forall₂ Hit.Alike group others) :
    groupFinding? settings surroundings group = groupFinding? settings surroundings others := by
  have categories_eq : group.filterMap Hit.topCategory? = others.filterMap Hit.topCategory? := by
    rw [← Function.id_comp Hit.topCategory?, ← List.filterMap_map, ← List.filterMap_map,
      map_eq_of_alike Hit.Alike.topCategory?_eq alike]
  have bypasses_eq := bypasses_eq_of_alike settings alike
  have finding_eq {hit other : Hit} (here : hit.Alike other) :=
    findingOf_eq_of_alike settings sameScore alike here
  cases alike with
  | nil => rfl
  | cons first _ =>
    unfold groupFinding?
    simp only [List.head?_cons, Option.bind_eq_bind, Option.bind_some, categories_eq, bypasses_eq,
      sameScore, finding_eq first]

end Group

/-! ## Findings of files -/

theorem filterMap_eq_of_forall₂
    {α β γ : Type}
    {related : α → β → Prop}
    {items : List α}
    {others : List β}
    (paired : List.Forall₂ related items others)
    {view : α → Option γ}
    {otherView : β → Option γ}
    (view_eq : ∀ item ∈ items, ∀ other, related item other → view item = otherView other) :
    items.filterMap view = others.filterMap otherView := by
  induction paired with
  | nil => rfl
  | cons here _ inductionHypothesis =>
    obtain ⟨first, further⟩ := List.forall_mem_cons.mp view_eq
    rw [List.filterMap_cons, List.filterMap_cons, first _ here, inductionHypothesis further]

/-- The findings about a file do not depend on the order in which the rules are tried, nor on how
often they are. -/
theorem analyzeWith_eq_of_sameRules
    {rules others : RuleSet}
    {weight : String → Float}
    (weighed : rules.IsWeighedBy weight)
    (same : rules.SameRules others)
    (settings : HiddenTodoSettings)
    (window : Nat)
    (source : Source) :
    analyzeWith rules settings window source = analyzeWith others settings window source := by
  have alike : List.Forall₂ (List.Forall₂ Hit.Alike) (runs (hitsOf rules window source))
      (runs (hitsOf others window source)) :=
    forall₂_runs (forall₂_hitsFrom same.text (same.stubs _) _ 1 _)
  rw [analyzeWith_eq, analyzeWith_eq]
  refine filterMap_eq_of_forall₂ alike fun group isGroup other groupsAlike => ?_
  exact groupFinding?_eq_of_alike settings
    (scoreOf_eq_of_alike (surroundingsOf source) (weighed.signalsOf isGroup) groupsAlike)
    groupsAlike

/-- The confidence in a group depends on which signals fired, and on nothing else.  Additions with
one weight for every id make a score of exactly the ids they mention, each with its weight and in
order, so additions that mention the same ids make the same signals and the same confidence, to the
last bit.  A group is weighed by the signals of its rules and of its circumstances; two groups of any
files with the same ids of rules and the same circumstances have the same score, wherever and however
often the rules match.  The rules that are built in have one weight for every id, and tried in any
other order they make the same findings. -/
theorem confidence_determined_by_signals (weight : String → Float) :
    (∀ signals others : List (String × Float),
      IsWeighedBy weight signals → IsWeighedBy weight others →
      (Score.empty.addAll signals).Holds weight (signals.map Prod.fst) ∧
        ((∀ id, id ∈ signals.map Prod.fst ↔ id ∈ others.map Prod.fst) →
          (Score.empty.addAll signals).signals = (Score.empty.addAll others).signals ∧
            (Score.empty.addAll signals).confidence = (Score.empty.addAll others).confidence)) ∧
    (∀ (surroundings : Surroundings) (group : List Hit),
      scoreOf surroundings group =
        Score.empty.addAll (signalsOf group ++ (circumstancesOf surroundings group).signals)) ∧
    (∀ rules otherRules : RuleSet,
      rules.IsWeighedBy weight → otherRules.IsWeighedBy weight →
      ∀ (window otherWindow : Nat) (source otherSource : Source),
      ∀ group ∈ runs (hitsOf rules window source),
      ∀ other ∈ runs (hitsOf otherRules otherWindow otherSource),
        (∀ id, id ∈ idsOf group ↔ id ∈ idsOf other) →
        circumstancesOf (surroundingsOf source) group =
          circumstancesOf (surroundingsOf otherSource) other →
        (scoreOf (surroundingsOf source) group).signals =
            (scoreOf (surroundingsOf otherSource) other).signals ∧
          (scoreOf (surroundingsOf source) group).confidence =
            (scoreOf (surroundingsOf otherSource) other).confidence) ∧
    RuleSet.standard.IsWeighedBy Rule.weightOf ∧
    (∀ rules, RuleSet.standard.SameRules rules →
      ∀ settings window source,
        analyze settings window source = analyzeWith rules settings window source) := by
  refine ⟨?_, scoreOf_eq_addAll, ?_, RuleSet.isWeighedBy_standard, ?_⟩
  · intro signals others weighed othersWeighed
    have holds := (Score.holds_empty weight).addAll weighed
    rw [List.append_nil] at holds
    refine ⟨holds, fun same => ?_⟩
    rw [Score.addAll_eq_of_sameIds weighed othersWeighed same]
    exact ⟨rfl, rfl⟩
  · intro rules otherRules weighed othersWeighed window otherWindow source otherSource group isGroup
      other isOther same circumstances_eq
    have added := Score.addAll_eq_of_sameIds (weighed.signalsOf isGroup)
      (othersWeighed.signalsOf isOther) same
    rw [scoreOf_congr circumstances_eq added]
    exact ⟨rfl, rfl⟩
  · intro rules same settings window source
    exact analyzeWith_eq_of_sameRules RuleSet.isWeighedBy_standard same settings window source

/-- Sums in two orders differ, and scores do not; neither do those of a run of four lines and of one
line with the same rules, nor the findings of rules that are listed backwards and twice. -/
theorem confidence_determined_by_signals_of_scattered_rules :
    let weight : String → Float := fun id => if id = "a" then 0.1 else if id = "b" then 0.2 else 0.3
    let signals (ids : List String) : List (String × Float) := ids.map fun id => (id, weight id)
    let source : Source := ⟨"a.rs", "//todo list\n//disabled\n//a temporary fix\n//todo\n"⟩
    let other : Source := ⟨"b.py", "\n\n#disabled, a temporary fix, todo list\n"⟩
    let rules : RuleSet :=
      ⟨RuleSet.standard.text.reverse, fun language? =>
        RuleSet.standard.stubs language? ++ RuleSet.standard.stubs language?⟩
    (0.3 + 0.2 + 0.1 : Float) < 0.1 + 0.2 + 0.3 ∧
      (Score.empty.addAll (signals ["c", "b", "c", "a"])).confidence =
        (Score.empty.addAll (signals ["a", "b", "c"])).confidence ∧
      (runs (hitsOf .standard 10 source)).map (List.map Hit.line) = [[1, 2, 3, 4]] ∧
      (runs (hitsOf .standard 10 other)).map (List.map Hit.line) = [[3]] ∧
      (∀ group ∈ runs (hitsOf .standard 10 source), ∀ line ∈ runs (hitsOf .standard 10 other),
        (scoreOf (surroundingsOf source) group).confidence =
          (scoreOf (surroundingsOf other) line).confidence) ∧
      RuleSet.standard.SameRules rules ∧
      analyze {} 10 source = analyzeWith rules {} 10 source := by
  intro weight signals source other rules
  obtain ⟨byAdditions, -⟩ := confidence_determined_by_signals weight
  obtain ⟨-, -, byGroups, weighed, byRules⟩ := confidence_determined_by_signals Rule.weightOf
  have signalsWeighed (ids : List String) : IsWeighedBy weight (signals ids) := by
    intro signal member
    obtain ⟨id, -, rfl⟩ := List.mem_map.mp member
    rfl
  have sameIds (id : String) : id ∈ (signals ["c", "b", "c", "a"]).map Prod.fst ↔
      id ∈ (signals ["a", "b", "c"]).map Prod.fst := by
    simp [signals]
    tauto
  have groupsAlike : ∀ group ∈ runs (hitsOf .standard 10 source),
      ∀ line ∈ runs (hitsOf .standard 10 other),
        (idsOf group ⊆ idsOf line ∧ idsOf line ⊆ idsOf group) ∧
          circumstancesOf (surroundingsOf source) group =
            circumstancesOf (surroundingsOf other) line := by
    decide +kernel
  have sameRules : RuleSet.standard.SameRules rules :=
    ⟨fun rule => List.mem_reverse.symm, fun language? rule => by simp [rules]⟩
  refine ⟨by decide, ?_, by decide +kernel, by decide +kernel, ?_, sameRules,
    byRules rules sameRules {} 10 source⟩
  · exact ((byAdditions _ _ (signalsWeighed _) (signalsWeighed _)).2 sameIds).2
  · intro group isGroup line isLine
    obtain ⟨⟨subset, superset⟩, circumstances_eq⟩ := groupsAlike group isGroup line isLine
    exact (byGroups .standard .standard weighed weighed 10 10 source other group isGroup line
      isLine (fun id => ⟨@subset id, @superset id⟩) circumstances_eq).2

end HiddenTodo
end QualityGate
