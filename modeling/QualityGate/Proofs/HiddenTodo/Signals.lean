import QualityGate.Proofs.HiddenTodo.Grouping
import Mathlib.Data.List.Sort

/-!
# The signals of a score

A score keeps every signal once, with the weight that came first, and in the order of the ids.  Where
every id has one weight, nothing else is left of a sequence of additions than the set of their ids,
so the sum is taken over the same numbers in the same order however the signals came in.  The score
of a group is therefore told from the ids of its rules and its circumstances.
-/

namespace QualityGate

/-! ## New keys -/

namespace Dictionary

variable {α : Type}

theorem holds_eq_true_iff (key : String) (dictionary : Dictionary α) :
    holds key dictionary = true ↔ key ∈ dictionary.map Prod.fst := by
  induction dictionary with
  | nil => simp [holds, find?]
  | cons pair rest inductionHypothesis =>
    obtain ⟨other, value⟩ := pair
    rw [holds, find?_cons, List.map_cons, List.mem_cons, ← inductionHypothesis, holds]
    by_cases same : key = other <;> simp [same]

/-- A key that is new is put among the others, which stay as they are. -/
theorem insert_perm
    {dictionary : Dictionary α}
    {key : String}
    (isNew : key ∉ dictionary.map Prod.fst)
    (value : α) :
    (insert key value dictionary).Perm ((key, value) :: dictionary) := by
  induction dictionary with
  | nil => exact List.Perm.refl _
  | cons pair rest inductionHypothesis =>
    obtain ⟨other, held⟩ := pair
    rw [List.map_cons, List.mem_cons, not_or] at isNew
    obtain ⟨differs, further⟩ := isNew
    rw [insert, if_neg differs]
    split
    · exact List.Perm.refl _
    · exact ((inductionHypothesis further).cons _).trans (List.Perm.swap _ _ _)

end Dictionary

namespace HiddenTodo

/-! ## Additions to a score -/

/-- Every signal has the weight that is given to its id. -/
def IsWeighedBy (weight : String → Float) (signals : List (String × Float)) : Prop :=
  ∀ signal ∈ signals, signal.2 = weight signal.1

namespace Score

/-- Add signals from the first to the last. -/
def addAll (score : Score) (signals : List (String × Float)) : Score :=
  signals.foldl (fun score signal => score.add signal.1 signal.2) score

theorem addAll_append (score : Score) (signals others : List (String × Float)) :
    score.addAll (signals ++ others) = (score.addAll signals).addAll others :=
  List.foldl_append

/-- The signals of the score are those with the given ids, each once and with its weight, in the
order of the ids. -/
structure Holds (score : Score) (weight : String → Float) (ids : List String) : Prop where
  ascending : Dictionary.Ascending score.signals
  mem_iff : ∀ id value, (id, value) ∈ score.signals ↔ id ∈ ids ∧ value = weight id

section Holds

variable {score other : Score} {weight : String → Float} {ids : List String}

theorem holds_empty (weight : String → Float) : empty.Holds weight [] where
  ascending := List.Pairwise.nil
  mem_iff := by simp [empty]

/-- Order and repetition of the ids do not matter. -/
theorem Holds.of_sameIds
    (holds : score.Holds weight ids)
    {others : List String}
    (same : ∀ id, id ∈ ids ↔ id ∈ others) :
    score.Holds weight others where
  ascending := holds.ascending
  mem_iff := fun id value => (holds.mem_iff id value).trans (and_congr_left' (same id))

theorem Holds.has_eq_true_iff (holds : score.Holds weight ids) (id : String) :
    score.has id = true ↔ id ∈ ids := by
  rw [has, Dictionary.holds_eq_true_iff, List.mem_map]
  constructor
  · rintro ⟨⟨key, value⟩, member, rfl⟩
    exact ((holds.mem_iff key value).mp member).1
  · intro member
    exact ⟨(id, weight id), (holds.mem_iff id (weight id)).mpr ⟨member, rfl⟩, rfl⟩

/-- One addition: a new signal is put where its id belongs, and one that was seen before changes
nothing. -/
theorem Holds.add (holds : score.Holds weight ids) (id : String) :
    (score.add id (weight id)).Holds weight (id :: ids) := by
  cases seen : score.has id with
  | true =>
    have member : id ∈ ids := (holds.has_eq_true_iff id).mp seen
    rw [add_of_has seen]
    refine holds.of_sameIds fun other => ?_
    rw [List.mem_cons, or_iff_right_of_imp]
    rintro rfl
    exact member
  | false =>
    have isNew : id ∉ score.signals.map Prod.fst := by
      rw [← Dictionary.holds_eq_true_iff, Bool.not_eq_true]
      exact seen
    rw [Score.add, seen, if_neg Bool.false_ne_true]
    refine ⟨holds.ascending.insert id (weight id), fun key value => ?_⟩
    rw [(Dictionary.insert_perm isNew (weight id)).mem_iff, List.mem_cons, holds.mem_iff,
      Prod.mk.injEq, List.mem_cons]
    constructor
    · rintro (⟨rfl, rfl⟩ | ⟨member, rfl⟩)
      · exact ⟨Or.inl rfl, rfl⟩
      · exact ⟨Or.inr member, rfl⟩
    · rintro ⟨rfl | member, rfl⟩
      · exact Or.inl ⟨rfl, rfl⟩
      · exact Or.inr ⟨member, rfl⟩

/-- After any sequence of additions the signals are those that were mentioned. -/
theorem Holds.addAll
    (holds : score.Holds weight ids)
    {signals : List (String × Float)}
    (weighed : IsWeighedBy weight signals) :
    (score.addAll signals).Holds weight (signals.map Prod.fst ++ ids) := by
  -- every addition keeps what the score holds in order and mentions one id more
  induction signals generalizing score ids with
  | nil => exact holds
  | cons signal rest inductionHypothesis =>
    obtain ⟨here, further⟩ := List.forall_mem_cons.mp weighed
    have added := holds.add signal.1
    rw [← here] at added
    refine (inductionHypothesis added further).of_sameIds fun id => ?_
    rw [List.map_cons, List.mem_append, List.mem_cons, List.cons_append, List.mem_cons,
      List.mem_append, or_left_comm]

/-- A score is told from its signals: they stand in strictly increasing order. -/
theorem Holds.unique
    (holds : score.Holds weight ids)
    (otherHolds : other.Holds weight ids) :
    score = other := by
  have irreflexive : Std.Irrefl fun first second : String × Float => first.1 < second.1 :=
    ⟨fun signal => String.lt_irrefl signal.1⟩
  have antisymmetric : Std.Antisymm fun first second : String × Float => first.1 < second.1 :=
    ⟨fun _ _ before behind => absurd behind (String.lt_asymm before)⟩
  have signals_eq : score.signals = other.signals := by
    apply (List.pairwise_map.mp holds.ascending).eq_of_mem_iff
      (List.pairwise_map.mp otherHolds.ascending)
    rintro ⟨id, value⟩
    rw [holds.mem_iff, otherHolds.mem_iff]
  cases score
  cases other
  exact congrArg Score.mk signals_eq

end Holds

/-- Additions that mention the same ids make the same score. -/
theorem addAll_eq_of_sameIds
    {weight : String → Float}
    {signals others : List (String × Float)}
    (weighed : IsWeighedBy weight signals)
    (othersWeighed : IsWeighedBy weight others)
    (same : ∀ id, id ∈ signals.map Prod.fst ↔ id ∈ others.map Prod.fst) :
    empty.addAll signals = empty.addAll others := by
  have holds := (holds_empty weight).addAll weighed
  have othersHolds := (holds_empty weight).addAll othersWeighed
  rw [List.append_nil] at holds othersHolds
  exact (holds.of_sameIds same).unique othersHolds

end Score

/-! ## The score of a group -/

/-- The signals of the rules that match a group, in the order in which they are found. -/
def signalsOf (group : List Hit) : List (String × Float) :=
  (group.flatMap Hit.rules).map fun rule => (rule.id, rule.weight)

/-- The ids of the rules that match a group. -/
def idsOf (group : List Hit) : List String :=
  (signalsOf group).map Prod.fst

/-- What a group is weighed with besides the rules that match it: the kind of its file, whether all
its lines are documentation comments, and whether words in its comments stand beside code. -/
structure Circumstances where
  kind : FileKind
  documentation : Bool
  besideCode : Bool
deriving Repr, DecidableEq

/-- The circumstances of a group. -/
def circumstancesOf (surroundings : Surroundings) (group : List Hit) : Circumstances where
  kind := surroundings.kind
  documentation := group.all Hit.docComment
  besideCode :=
    (group.any fun hit => hit.has .broadKeyword || hit.has .disguisedPhrase) &&
      (group.any Hit.hasCode ||
        (group.getLast?.bind fun last => surroundings.hasCode[last.line]?).getD false)

/-- The signals that apply. -/
def applying (signals : List (Bool × String × Float)) : List (String × Float) :=
  signals.filterMap fun (applies, signal) => if applies then some signal else none

/-- The signals of circumstances. -/
def Circumstances.signals (circumstances : Circumstances) : List (String × Float) :=
  applying
    [ (circumstances.kind.test, "context_test_file", -0.2),
      (circumstances.kind.sample, "context_example_file", -0.4),
      (circumstances.kind.documentation, "context_documentation_file", -0.4),
      (circumstances.kind.generated, "context_generated_file", -0.6),
      (circumstances.documentation, "context_doc_comment", -0.2),
      (circumstances.besideCode, "context_adjacent_code", 0.1) ]

theorem addAll_applying_cons
    (score : Score)
    (applies : Bool)
    (id : String)
    (weight : Float)
    (rest : List (Bool × String × Float)) :
    score.addAll (applying ((applies, id, weight) :: rest)) =
      (score.addIf applies id weight).addAll (applying rest) := by
  cases applies <;> rfl

/-- A group is weighed by the signals of its rules and, behind them, those of its circumstances. -/
theorem scoreOf_eq_addAll (surroundings : Surroundings) (group : List Hit) :
    scoreOf surroundings group =
      Score.empty.addAll
        (signalsOf group ++ (circumstancesOf surroundings group).signals) := by
  have rules_eq : (group.flatMap Hit.rules).foldl
        (fun score rule => score.add rule.id rule.weight) Score.empty =
      Score.empty.addAll (signalsOf group) := by
    rw [Score.addAll, signalsOf, List.foldl_map]
  rw [Score.addAll_append, Circumstances.signals]
  simp only [addAll_applying_cons, ← rules_eq]
  rfl

/-- The score of a group depends on its circumstances and on the score of its rules. -/
theorem scoreOf_congr
    {surroundings otherSurroundings : Surroundings}
    {group other : List Hit}
    (circumstances_eq :
      circumstancesOf surroundings group = circumstancesOf otherSurroundings other)
    (added : Score.empty.addAll (signalsOf group) = Score.empty.addAll (signalsOf other)) :
    scoreOf surroundings group = scoreOf otherSurroundings other := by
  rw [scoreOf_eq_addAll, scoreOf_eq_addAll, Score.addAll_append, Score.addAll_append, added,
    circumstances_eq]

/-! ## Rules with one weight for every id -/

/-- Every rule of the set has the weight that is given to its id. -/
structure RuleSet.IsWeighedBy (rules : RuleSet) (weight : String → Float) : Prop where
  text : ∀ rule ∈ rules.text, rule.weight = weight rule.id
  stubs : ∀ language? : Option Language, ∀ rule ∈ rules.stubs language?,
    rule.weight = weight rule.id

theorem mem_of_mem_hitsOf
    {rules : RuleSet}
    {window : Nat}
    {source : Source}
    {hit : Hit}
    (member : hit ∈ hitsOf rules window source)
    {rule : Rule}
    (matched : rule ∈ hit.rules) :
    rule ∈ rules.text ∨ ∃ language?, rule ∈ rules.stubs language? := by
  rw [(isHitOf_of_mem_hitsOf member).rules] at matched
  unfold rulesAt at matched
  split at matched
  · cases matched
  · split at matched
    · cases matched
    · simp only [List.mem_append, List.mem_filter] at matched
      rcases matched with ⟨isText, -⟩ | ⟨isText, -⟩ | ⟨isStub, -⟩
      · exact Or.inl isText
      · exact Or.inl isText
      · exact Or.inr ⟨_, isStub⟩

/-- The groups of a file are weighed as the rules are. -/
theorem RuleSet.IsWeighedBy.signalsOf
    {rules : RuleSet}
    {weight : String → Float}
    (weighed : rules.IsWeighedBy weight)
    {window : Nat}
    {source : Source}
    {group : List Hit}
    (isGroup : group ∈ runs (hitsOf rules window source)) :
    HiddenTodo.IsWeighedBy weight (signalsOf group) := by
  intro signal member
  obtain ⟨rule, matched, rfl⟩ := List.mem_map.mp member
  obtain ⟨hit, inGroup, ofHit⟩ := List.mem_flatMap.mp matched
  have isHit : hit ∈ hitsOf rules window source := by
    rw [← flatten_runs (hitsOf rules window source)]
    exact List.mem_flatten.mpr ⟨group, isGroup, inGroup⟩
  rcases mem_of_mem_hitsOf isHit ofHit with isText | ⟨language?, isStub⟩
  · exact weighed.text rule isText
  · exact weighed.stubs language? rule isStub

/-! ## The rules that are built in -/

namespace Rule

/-- The signs of stubs in any language. -/
def allStubs : List StubSign :=
  StubSign.rust ++ StubSign.python ++ StubSign.javaScript ++ StubSign.go ++ StubSign.jvm ++
    StubSign.cSharp ++ StubSign.c ++ StubSign.ruby ++ StubSign.php ++ StubSign.swift ++
    StubSign.general

/-- The rules that are built in, for any language. -/
def all : List Rule :=
  textRules ++ allStubs.map ofStub

/-- No two rules that are built in have the same id. -/
theorem nodup_ids_all : (all.map Rule.id).Nodup := by
  decide

/-- The weight of the rule with an id that is built in. -/
def weightOf (id : String) : Float :=
  ((all.find? fun rule => rule.id == id).map Rule.weight).getD 0.0

theorem weight_eq_weightOf {rule : Rule} (builtIn : rule ∈ all) :
    rule.weight = weightOf rule.id := by
  obtain ⟨found, isFound⟩ : ∃ found, (all.find? fun other => other.id == rule.id) = some found := by
    rw [← Option.isSome_iff_exists, List.find?_isSome]
    exact ⟨rule, builtIn, beq_self_eq_true _⟩
  have sameId : found.id = rule.id := by simpa using List.find?_some isFound
  have found_eq : found = rule :=
    List.inj_on_of_nodup_map nodup_ids_all (List.mem_of_find?_eq_some isFound) builtIn sameId
  rw [weightOf, isFound, found_eq]
  rfl

theorem stubs_subset_allStubs (language : Language) : language.stubs ⊆ allStubs := by
  intro stub ofLanguage
  cases language <;> simp_all [Language.stubs, allStubs]

theorem mem_all_of_mem_stubRules
    {language? : Option Language}
    {rule : Rule}
    (isStub : rule ∈ stubRules language?) :
    rule ∈ all := by
  have general : StubSign.general ⊆ allStubs := List.subset_append_right _ _
  refine List.mem_append_right _ ?_
  cases language? with
  | none => exact List.map_subset ofStub general isStub
  | some language =>
    exact List.map_subset ofStub
      (List.append_subset.mpr ⟨stubs_subset_allStubs language, general⟩) isStub

end Rule

/-- Every id of the rules that are built in has one weight. -/
theorem RuleSet.isWeighedBy_standard : RuleSet.standard.IsWeighedBy Rule.weightOf where
  text := fun _ isText => Rule.weight_eq_weightOf (List.mem_append_left _ isText)
  stubs := fun _ _ isStub => Rule.weight_eq_weightOf (Rule.mem_all_of_mem_stubRules isStub)

end HiddenTodo
end QualityGate
