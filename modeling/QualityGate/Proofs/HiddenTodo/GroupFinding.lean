import QualityGate.Detector.HiddenTodo.Scan

/-!
# The finding of a group

A group of hits is led by the strongest category that makes findings among the rules that match it.
A group passes if its confidence is not below the threshold, or if it is bypassed: it has a broad
keyword and does not talk about keeping track of work.  A group that passes makes one finding, and
any other group makes none.
-/

namespace QualityGate
namespace HiddenTodo

/-! ## The strongest category -/

namespace Category

theorem rank_injective : Function.Injective rank := by
  intro first second equal
  cases first <;> cases second <;> first | rfl | cases equal

theorem rank_stronger (first second : Category) :
    (stronger first second).rank = min first.rank second.rank := by
  unfold stronger
  split
  · rename_i before
    rw [Nat.min_eq_left before]
  · rename_i after
    rw [Nat.min_eq_right (Nat.le_of_not_le after)]

theorem stronger_eq_or (first second : Category) :
    stronger first second = first ∨ stronger first second = second := by
  unfold stronger
  split
  · exact Or.inl rfl
  · exact Or.inr rfl

theorem foldl_stronger_spec (first : Category) (rest : List Category) :
    rest.foldl stronger first ∈ first :: rest ∧
      ∀ other ∈ first :: rest, (rest.foldl stronger first).rank ≤ other.rank := by
  induction rest generalizing first with
  | nil => simp
  | cons second rest inductionHypothesis =>
    obtain ⟨member, least⟩ := inductionHypothesis (stronger first second)
    have headLeast := least _ List.mem_cons_self
    rw [rank_stronger] at headLeast
    rw [List.foldl_cons]
    constructor
    · rcases List.mem_cons.mp member with equal | later
      · rw [equal]
        rcases stronger_eq_or first second with isFirst | isSecond
        · rw [isFirst]
          exact List.mem_cons_self
        · rw [isSecond]
          exact List.mem_cons_of_mem _ List.mem_cons_self
      · exact List.mem_cons_of_mem _ (List.mem_cons_of_mem _ later)
    · intro other isOther
      rcases List.mem_cons.mp isOther with rfl | later
      · omega
      · rcases List.mem_cons.mp later with rfl | latest
        · omega
        · exact least other (List.mem_cons_of_mem _ latest)

/-- The strongest category is the one of least rank. -/
theorem strongest?_eq_some_iff (categories : List Category) (category : Category) :
    strongest? categories = some category ↔
      category ∈ categories ∧ ∀ other ∈ categories, category.rank ≤ other.rank := by
  cases categories with
  | nil => simp [strongest?]
  | cons first rest =>
    obtain ⟨member, least⟩ := foldl_stronger_spec first rest
    rw [strongest?, Option.some.injEq]
    constructor
    · rintro rfl
      exact ⟨member, least⟩
    · rintro ⟨isMember, isLeast⟩
      exact rank_injective (Nat.le_antisymm (least category isMember) (isLeast _ member))

theorem strongest?_eq_none_iff (categories : List Category) :
    strongest? categories = none ↔ categories = [] := by
  cases categories <;> simp [strongest?]

end Category

theorem Hit.has_eq_true_iff (hit : Hit) (category : Category) :
    hit.has category = true ↔ ∃ rule ∈ hit.rules, rule.category = category := by
  simp [Hit.has]

/-- The category is the strongest one that makes findings among the rules that match a group. -/
structure Leads (group : List Hit) (category : Category) : Prop where
  signal : category.isSignal = true
  occurs : ∃ hit ∈ group, hit.has category = true
  strongest : ∀ hit ∈ group, ∀ other, hit.has other = true → other.isSignal = true →
    category.rank ≤ other.rank

/-- The strongest category of a hit is the one that leads it alone. -/
theorem Hit.topCategory?_eq_some_iff (hit : Hit) (category : Category) :
    hit.topCategory? = some category ↔ Leads [hit] category := by
  have member (other : Category) :
      other ∈ (hit.rules.map Rule.category).filter Category.isSignal ↔
        hit.has other = true ∧ other.isSignal = true := by
    rw [List.mem_filter, List.mem_map, hit.has_eq_true_iff]
  rw [topCategory?, Category.strongest?_eq_some_iff]
  simp only [member]
  constructor
  · rintro ⟨⟨occurs, signal⟩, strongest⟩
    refine ⟨signal, ⟨hit, List.mem_cons_self, occurs⟩, ?_⟩
    intro only isOnly other has isSignal
    rw [List.mem_singleton.mp isOnly] at has
    exact strongest other ⟨has, isSignal⟩
  · rintro ⟨signal, ⟨only, isOnly, occurs⟩, strongest⟩
    rw [List.mem_singleton.mp isOnly] at occurs
    exact ⟨⟨occurs, signal⟩, fun other has =>
      strongest hit List.mem_cons_self other has.1 has.2⟩

/-- A hit that has the leading category of its group is led by it. -/
theorem Leads.restrict
    {group : List Hit}
    {category : Category}
    (leads : Leads group category)
    {hit : Hit}
    (member : hit ∈ group)
    (has : hit.has category = true) :
    Leads [hit] category := by
  refine ⟨leads.signal, ⟨hit, List.mem_cons_self, has⟩, ?_⟩
  intro only isOnly
  rw [List.mem_singleton.mp isOnly]
  exact leads.strongest hit member

/-- A hit with a category that makes findings has a strongest one. -/
theorem Hit.exists_topCategory?
    {hit : Hit}
    {category : Category}
    (has : hit.has category = true)
    (signal : category.isSignal = true) :
    ∃ top, hit.topCategory? = some top := by
  rw [← Option.isSome_iff_exists, ← Option.ne_none_iff_isSome]
  intro nothing
  have empty := (Category.strongest?_eq_none_iff _).mp nothing
  obtain ⟨rule, member, rfl⟩ := (hit.has_eq_true_iff category).mp has
  have found : rule.category ∈ (hit.rules.map Rule.category).filter Category.isSignal :=
    List.mem_filter.mpr ⟨List.mem_map_of_mem member, signal⟩
  rw [empty] at found
  cases found

/-- The category that is chosen for a group is the one that leads it. -/
theorem strongest?_eq_some_iff_leads (group : List Hit) (category : Category) :
    Category.strongest? (group.filterMap Hit.topCategory?) = some category ↔
      Leads group category := by
  simp only [Category.strongest?_eq_some_iff, List.mem_filterMap, Hit.topCategory?_eq_some_iff]
  constructor
  · rintro ⟨⟨hit, member, leads⟩, least⟩
    obtain ⟨only, isOnly, has⟩ := leads.occurs
    rw [List.mem_singleton.mp isOnly] at has
    refine ⟨leads.signal, ⟨hit, member, has⟩, ?_⟩
    intro hit member other has signal
    obtain ⟨top, isTop⟩ := Hit.exists_topCategory? has signal
    have topLeads := (hit.topCategory?_eq_some_iff top).mp isTop
    exact Nat.le_trans (least top ⟨hit, member, topLeads⟩)
      (topLeads.strongest hit List.mem_cons_self other has signal)
  · intro leads
    obtain ⟨hit, member, has⟩ := leads.occurs
    refine ⟨⟨hit, member, leads.restrict member has⟩, ?_⟩
    rintro other ⟨hit, member, otherLeads⟩
    obtain ⟨only, isOnly, has⟩ := otherLeads.occurs
    rw [List.mem_singleton.mp isOnly] at has
    exact leads.strongest hit member other has otherLeads.signal

/-- A group of hits has a leading category. -/
theorem exists_leads
    {group : List Hit}
    (nonempty : group ≠ [])
    (signals : ∀ hit ∈ group, ∃ rule ∈ hit.rules, rule.category.isSignal = true) :
    ∃ category, Leads group category := by
  obtain ⟨hit, member⟩ := List.exists_mem_of_ne_nil group nonempty
  obtain ⟨rule, matched, signal⟩ := signals hit member
  have has := (hit.has_eq_true_iff rule.category).mpr ⟨rule, matched, rfl⟩
  obtain ⟨top, isTop⟩ := Hit.exists_topCategory? has signal
  simp only [← strongest?_eq_some_iff_leads]
  rw [← Option.isSome_iff_exists, ← Option.ne_none_iff_isSome, Ne,
    Category.strongest?_eq_none_iff]
  exact List.ne_nil_of_mem (List.mem_filterMap.mpr ⟨hit, member, isTop⟩)

/-! ## Findings of groups -/

/-- The group need not reach the threshold: it has a broad keyword and does not talk about keeping
track of work. -/
def Bypassed (settings : HiddenTodoSettings) (group : List Hit) : Prop :=
  settings.broadKeywordBypass = true ∧
    (∃ hit ∈ group, hit.has .broadKeyword = true) ∧
    ∀ hit ∈ group, hit.has .todoVocabulary = false

/-- The group makes a finding. -/
def Passes
    (settings : HiddenTodoSettings)
    (surroundings : Surroundings)
    (group : List Hit) : Prop :=
  Bypassed settings group ∨
    ¬(scoreOf surroundings group).confidence < settings.confidenceThreshold

instance (settings : HiddenTodoSettings) (group : List Hit) :
    Decidable (Bypassed settings group) :=
  inferInstanceAs (Decidable (_ ∧ _))

instance
    (settings : HiddenTodoSettings)
    (surroundings : Surroundings)
    (group : List Hit) :
    Decidable (Passes settings surroundings group) :=
  inferInstanceAs (Decidable (_ ∨ _))

/-- A finding is about a group: it stands at the first line, its rule is the one of the leading
category, and its message shows a hit of that category and counts the lines. -/
structure Reports (surroundings : Surroundings) (group : List Hit) (finding : Finding) : Prop where
  gate : finding.gate = .hiddenTodo
  file : finding.file = surroundings.file
  line : finding.line? = group.head?.map Hit.line
  message : ∃ category lead, Leads group category ∧
    category.findingRule? = some finding.rule ∧ lead ∈ group ∧ lead.has category = true ∧
    finding.message = messageOf category lead group.length

theorem leads_broadKeyword_iff
    {group : List Hit}
    {category : Category}
    (leads : Leads group category) :
    category = .broadKeyword ↔ ∃ hit ∈ group, hit.has .broadKeyword = true := by
  constructor
  · rintro rfl
    exact leads.occurs
  · rintro ⟨hit, member, has⟩
    have least := leads.strongest hit member .broadKeyword has rfl
    exact Category.rank_injective (Nat.le_zero.mp least)

theorem bypasses_eq_true_iff
    (settings : HiddenTodoSettings)
    {group : List Hit}
    {category : Category}
    (leads : Leads group category) :
    bypasses settings category group = true ↔ Bypassed settings group := by
  simp only [bypasses, Bypassed, Bool.and_eq_true, decide_eq_true_eq, leads_broadKeyword_iff leads,
    Bool.not_eq_true', List.any_eq_false, Bool.not_eq_true, and_assoc]

/-- The finding of a group reports the group. -/
theorem reports_findingOf
    (settings : HiddenTodoSettings)
    (surroundings : Surroundings)
    {first : Hit}
    {rest : List Hit}
    {category : Category}
    {rule : String}
    (leads : Leads (first :: rest) category)
    (rule_eq : category.findingRule? = some rule) :
    Reports surroundings (first :: rest)
      (findingOf settings surroundings category rule first (first :: rest)) := by
  obtain ⟨hit, member, has⟩ := leads.occurs
  have top := (hit.topCategory?_eq_some_iff category).mpr (leads.restrict member has)
  obtain ⟨lead, found⟩ : ∃ lead,
      ((first :: rest).find? fun hit => hit.topCategory? = some category) = some lead := by
    rw [← Option.isSome_iff_exists, List.find?_isSome]
    exact ⟨hit, member, decide_eq_true top⟩
  have leadTop : lead.topCategory? = some category := by simpa using List.find?_some found
  obtain ⟨only, isOnly, leadHas⟩ := ((lead.topCategory?_eq_some_iff category).mp leadTop).occurs
  rw [List.mem_singleton.mp isOnly] at leadHas
  unfold findingOf
  rw [found]
  dsimp only
  split
  · exact ⟨rfl, rfl, rfl, category, lead, leads, rule_eq, List.mem_of_find?_eq_some found, leadHas,
      rfl⟩
  · exact ⟨rfl, rfl, rfl, category, lead, leads, rule_eq, List.mem_of_find?_eq_some found, leadHas,
      rfl⟩

/-- A group that passes makes a finding about it; any other group makes none. -/
theorem groupFinding?_spec
    (settings : HiddenTodoSettings)
    (surroundings : Surroundings)
    {group : List Hit}
    (nonempty : group ≠ [])
    (signals : ∀ hit ∈ group, ∃ rule ∈ hit.rules, rule.category.isSignal = true) :
    (Passes settings surroundings group ∧
        ∃ finding, groupFinding? settings surroundings group = some finding ∧
          Reports surroundings group finding) ∨
      (¬Passes settings surroundings group ∧
        groupFinding? settings surroundings group = none) := by
  obtain ⟨category, leads⟩ := exists_leads nonempty signals
  obtain ⟨rule, rule_eq⟩ := Option.isSome_iff_exists.mp leads.signal
  obtain ⟨first, rest, rfl⟩ := List.exists_cons_of_ne_nil nonempty
  have found : groupFinding? settings surroundings (first :: rest) =
      if !bypasses settings category (first :: rest) &&
          (scoreOf surroundings (first :: rest)).confidence < settings.confidenceThreshold then none
      else some (findingOf settings surroundings category rule first (first :: rest)) := by
    unfold groupFinding?
    rw [(strongest?_eq_some_iff_leads _ _).mpr leads]
    simp only [List.head?_cons, Option.bind_eq_bind, Option.bind_some, rule_eq]
  have test : (!bypasses settings category (first :: rest) &&
      decide ((scoreOf surroundings (first :: rest)).confidence < settings.confidenceThreshold)) =
        true ↔ ¬Passes settings surroundings (first :: rest) := by
    rw [Bool.and_eq_true, Bool.not_eq_true', ← Bool.not_eq_true,
      bypasses_eq_true_iff settings leads, decide_eq_true_eq, Passes, not_or, Decidable.not_not]
  by_cases passes : Passes settings surroundings (first :: rest)
  · refine Or.inl ⟨passes, _, ?_, reports_findingOf settings surroundings leads rule_eq⟩
    rw [found, if_neg (fun held => test.mp held passes)]
  · exact Or.inr ⟨passes, by rw [found, if_pos (test.mpr passes)]⟩

end HiddenTodo
end QualityGate
