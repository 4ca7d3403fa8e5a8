import QualityGate.Detector.HiddenTodo.Scan
import Mathlib.Data.List.Basic

/-!
# Hits and their runs

Which lines of a file are hits is said here line by line.  The scan finds exactly these lines, in
increasing order, and cuts them into maximal runs of consecutive numbers.
-/

namespace QualityGate
namespace HiddenTodo

/-! ## Matching rules -/

namespace Rule

/-- A rule about comments matches a line: it occurs in its comment. -/
def MatchesComment (rule : Rule) (parts : LineParts) : Prop :=
  rule.appliesToComment = true ∧ parts.hasComment = true ∧
    rule.pattern.occursIn parts.comment = true

/-- A rule about code matches a line: it occurs in its code. -/
def MatchesCode (rule : Rule) (parts : LineParts) : Prop :=
  rule.appliesToCode = true ∧ Text.isBlankText parts.code = false ∧
    rule.pattern.occursIn parts.code = true

/-- A rule about stubs matches a line with code: it occurs there, or it begins there once the code
of the next line stands behind it. -/
def MatchesStub (rule : Rule) (parts : LineParts) (next? : Option LineParts) : Prop :=
  Text.isBlankText parts.code = false ∧
    (rule.pattern.occursIn parts.code = true ∨
      ∃ next ∈ next?, Text.isBlankText next.code = false ∧
        ∃ found ∈ rule.pattern.find? (Text.trimEnd parts.code ++ "\n" ++ Text.trim next.code),
          found.first < (Text.trimEnd parts.code).length)

instance (rule : Rule) (parts : LineParts) : Decidable (rule.MatchesComment parts) :=
  inferInstanceAs (Decidable (_ ∧ _ ∧ _))

instance (rule : Rule) (parts : LineParts) : Decidable (rule.MatchesCode parts) :=
  inferInstanceAs (Decidable (_ ∧ _ ∧ _))

instance (rule : Rule) (parts : LineParts) (next? : Option LineParts) :
    Decidable (rule.MatchesStub parts next?) :=
  inferInstanceAs (Decidable (_ ∧ (_ ∨ _)))

end Rule

theorem beginsOnFirst_eq_true_iff (pattern : Pattern) (code next : String) :
    beginsOnFirst pattern code next = true ↔
      ∃ found ∈ pattern.find? (Text.trimEnd code ++ "\n" ++ Text.trim next),
        found.first < (Text.trimEnd code).length := by
  unfold beginsOnFirst
  dsimp only
  split <;> simp_all

/-- The rules that the scan finds for a line are those that match its comment, those that match its
code and the stubs that match it, in this order. -/
theorem matchedRules_eq
    (text stubs : List Rule)
    (parts : LineParts)
    (next? : Option LineParts) :
    matchedRules text stubs parts next? =
      text.filter (·.MatchesComment parts) ++ (text.filter (·.MatchesCode parts) ++
        stubs.filter (·.MatchesStub parts next?)) := by
  have inComment : (if parts.hasComment then text.filter fun rule =>
        rule.appliesToComment && rule.pattern.occursIn parts.comment else []) =
      text.filter (·.MatchesComment parts) := by
    cases commented : parts.hasComment <;> simp [Rule.MatchesComment, commented]
  have inCode (coded : Text.isBlankText parts.code = false) :
      (text.filter fun rule => rule.appliesToCode && rule.pattern.occursIn parts.code) =
        text.filter (·.MatchesCode parts) := by
    simp [Rule.MatchesCode, coded]
  have inStubs (coded : Text.isBlankText parts.code = false) :
      stubMatches stubs parts.code next? = stubs.filter (·.MatchesStub parts next?) := by
    refine List.filter_congr fun rule _ => ?_
    rw [Bool.eq_iff_iff, decide_eq_true_iff, Rule.MatchesStub]
    simp [coded, Option.any_eq_true, beginsOnFirst_eq_true_iff]
  unfold matchedRules
  dsimp only
  rw [inComment]
  cases coded : Text.isBlankText parts.code with
  | true => simp [Rule.MatchesCode, Rule.MatchesStub, coded]
  | false => rw [inCode coded, inStubs coded, if_neg Bool.false_ne_true]

/-! ## Hits -/

section Lines

variable (rules : RuleSet) (window : Nat) (source : Source)

/-- The lines of a file with code and comment apart. -/
def linesOf : List LineParts :=
  Comment.split (Profile.ofPath source.path).comments source.lines

/-- The lines of a file that declared placeholders govern. -/
def coverageOf : Placeholder.Coverage :=
  Placeholder.Coverage.ofDeclarations (Placeholder.declarationsIn (linesOf source)) window

/-- The rules that match a line of a file; lines are counted from one. -/
def rulesAt : Nat → List Rule
  | 0 => []
  | index + 1 =>
    match (linesOf source)[index]? with
    | none => []
    | some parts =>
      rules.text.filter (·.MatchesComment parts) ++ (rules.text.filter (·.MatchesCode parts) ++
        (rules.stubs (Profile.ofPath source.path).language?).filter
          (·.MatchesStub parts (linesOf source)[index + 1]?))

/-- A line is a hit: no declared placeholder governs it, and a rule that makes findings matches
it. -/
def IsHit (line : Nat) : Prop :=
  (coverageOf window source).governs line = false ∧
    ∃ rule ∈ rulesAt rules source line, rule.category.isSignal = true

/-- What is known about a line that is a hit. -/
structure IsHitOf (hit : Hit) : Prop where
  isHit : IsHit rules window source hit.line
  rules : hit.rules = rulesAt rules source hit.line
  parts : ∃ parts, (linesOf source)[hit.line - 1]? = some parts ∧ hit.comment = parts.comment ∧
    hit.code = parts.code ∧
    hit.docComment = (Text.isBlankText parts.code && isDocComment parts.comment)

end Lines

theorem length_linesOf (source : Source) : (linesOf source).length = source.lineCount :=
  Comment.length_split _ source.lines

/-- A line has a hit exactly if a rule that makes findings matches it. -/
theorem hitOf?_eq_some_iff
    (text stubs : List Rule)
    (line : Nat)
    (parts : LineParts)
    (next? : Option LineParts)
    (hit : Hit) :
    hitOf? text stubs line parts next? = some hit ↔
      (∃ rule ∈ matchedRules text stubs parts next?, rule.category.isSignal = true) ∧
        hit =
          { line
            rules := matchedRules text stubs parts next?
            comment := parts.comment
            code := parts.code
            docComment := Text.isBlankText parts.code && isDocComment parts.comment } := by
  unfold hitOf?
  simp only [Option.ite_none_right_eq_some, List.any_eq_true, Option.some.injEq]
  exact and_congr_right fun _ => eq_comm

section Scan

variable {text stubs : List Rule} {coverage : Placeholder.Coverage}

/-- The hits among lines are those of the single lines. -/
theorem mem_hitsFrom_iff
    (first : Nat)
    (lines : List LineParts)
    (hit : Hit) :
    hit ∈ hitsFrom text stubs coverage first lines ↔
      ∃ index parts, lines[index]? = some parts ∧
        coverage.governs (first + index) = false ∧
        hitOf? text stubs (first + index) parts lines[index + 1]? = some hit := by
  induction lines generalizing first with
  | nil => simp [hitsFrom]
  | cons parts rest inductionHypothesis =>
    have here : hit ∈ (if coverage.governs first then []
          else (hitOf? text stubs first parts rest.head?).toList) ↔
        coverage.governs first = false ∧ hitOf? text stubs first parts rest[0]? = some hit := by
      cases coverage.governs first <;> simp [List.head?_eq_getElem?]
    have unfolded : hitsFrom text stubs coverage first (parts :: rest) =
        (if coverage.governs first then []
          else (hitOf? text stubs first parts rest.head?).toList) ++
          hitsFrom text stubs coverage (first + 1) rest := by
      rw [hitsFrom]
      split <;> simp
    rw [unfolded, List.mem_append, here, inductionHypothesis]
    constructor
    · rintro (⟨free, found⟩ | ⟨index, parts, atIndex, free, found⟩)
      · exact ⟨0, _, rfl, free, found⟩
      · have shifted : first + 1 + index = first + (index + 1) := by omega
        rw [shifted] at free found
        exact ⟨index + 1, parts, atIndex, free, found⟩
    · rintro ⟨index, parts, atIndex, free, found⟩
      cases index with
      | zero =>
        cases atIndex
        exact Or.inl ⟨free, found⟩
      | succ index =>
        have shifted : first + (index + 1) = first + 1 + index := by omega
        rw [shifted] at free found
        exact Or.inr ⟨index, parts, atIndex, free, found⟩

/-- The number of a hit is the one of its line. -/
theorem le_line_of_mem_hitsFrom
    {first : Nat}
    {lines : List LineParts}
    {hit : Hit}
    (member : hit ∈ hitsFrom text stubs coverage first lines) :
    first ≤ hit.line := by
  obtain ⟨index, parts, -, -, found⟩ := (mem_hitsFrom_iff first lines hit).mp member
  rw [((hitOf?_eq_some_iff _ _ _ _ _ _).mp found).2]
  exact Nat.le_add_right first index

/-- Hits are found in increasing order of their lines. -/
theorem pairwise_hitsFrom (first : Nat) (lines : List LineParts) :
    (hitsFrom text stubs coverage first lines).Pairwise fun earlier later =>
      earlier.line < later.line := by
  induction lines generalizing first with
  | nil => exact List.Pairwise.nil
  | cons parts rest inductionHypothesis =>
    rw [hitsFrom]
    split
    · exact inductionHypothesis (first + 1)
    · refine List.pairwise_append.mpr ⟨?_, inductionHypothesis (first + 1), ?_⟩
      · cases hitOf? text stubs first parts rest.head? <;> simp
      · intro earlier isFirst later member
        have found := Option.mem_toList.mp isFirst
        rw [((hitOf?_eq_some_iff _ _ _ _ _ _).mp found).2]
        exact le_line_of_mem_hitsFrom member

end Scan

/-- The hits of a file. -/
def hitsOf (rules : RuleSet) (window : Nat) (source : Source) : List Hit :=
  hitsFrom rules.text (rules.stubs (Profile.ofPath source.path).language?)
    (coverageOf window source) 1 (linesOf source)

section Hits

variable {rules : RuleSet} {window : Nat} {source : Source}

/-- Every hit that is found tells what is known about its line. -/
theorem isHitOf_of_mem_hitsOf
    {hit : Hit}
    (member : hit ∈ hitsOf rules window source) :
    IsHitOf rules window source hit := by
  obtain ⟨index, parts, atIndex, free, found⟩ := (mem_hitsFrom_iff _ _ _).mp member
  obtain ⟨matched, rfl⟩ := (hitOf?_eq_some_iff _ _ _ _ _ _).mp found
  rw [Nat.add_comm] at free
  have rules_eq : rulesAt rules source (index + 1) =
      matchedRules rules.text (rules.stubs (Profile.ofPath source.path).language?) parts
        (linesOf source)[index + 1]? := by
    rw [rulesAt, atIndex, matchedRules_eq]
  have numbered : 1 + index = index + 1 := Nat.add_comm 1 index
  refine ⟨?_, ?_, parts, ?_, rfl, rfl, rfl⟩
  · simp only [numbered]
    exact ⟨free, by rwa [rules_eq]⟩
  · simp only [numbered, rules_eq]
  · simpa [numbered] using atIndex

/-- Every line that is a hit is found. -/
theorem exists_mem_hitsOf
    {line : Nat}
    (isHit : IsHit rules window source line) :
    ∃ hit ∈ hitsOf rules window source, hit.line = line := by
  obtain ⟨free, rule, matched, signal⟩ := isHit
  cases line with
  | zero => simp [rulesAt] at matched
  | succ index =>
    rw [rulesAt] at matched
    split at matched
    · simp at matched
    · rename_i parts atIndex
      rw [← matchedRules_eq] at matched
      refine ⟨_, (mem_hitsFrom_iff _ _ _).mpr ⟨index, parts, atIndex, ?_,
        (hitOf?_eq_some_iff _ _ _ _ _ _).mpr ⟨⟨rule, matched, signal⟩, rfl⟩⟩,
        Nat.add_comm 1 index⟩
      rwa [Nat.add_comm]

theorem mem_lines_hitsOf_iff (line : Nat) :
    line ∈ (hitsOf rules window source).map Hit.line ↔ IsHit rules window source line := by
  rw [List.mem_map]
  constructor
  · rintro ⟨hit, member, rfl⟩
    exact (isHitOf_of_mem_hitsOf member).isHit
  · exact exists_mem_hitsOf

end Hits

/-! ## Runs -/

/-- A group of hits has the lines of a maximal run of hits, which begins at the first line. -/
structure IsRun (isHit : Nat → Prop) (group : List Hit) (first : Nat) : Prop where
  nonempty : group ≠ []
  lines : group.map Hit.line = List.range' first group.length
  ends : ¬isHit (first + group.length)
  begins : ∀ before, before + 1 = first → ¬isHit before

/-- A run begins with a hit on its first line. -/
theorem IsRun.exists_head
    {isHit : Nat → Prop}
    {group : List Hit}
    {first : Nat}
    (run : IsRun isHit group first) :
    ∃ hit rest, group = hit :: rest ∧ hit.line = first := by
  cases group with
  | nil => exact absurd rfl run.nonempty
  | cons hit rest =>
    have lines := run.lines
    rw [List.map_cons, List.length_cons, List.range'_succ] at lines
    exact ⟨hit, rest, rfl, (List.cons.inj lines).1⟩

/-- The first group of a list of hits begins with the first hit. -/
theorem exists_runs_cons (hit : Hit) (rest : List Hit) :
    ∃ others following, runs (hit :: rest) = (hit :: others) :: following := by
  rw [runs]
  split
  · split
    · exact ⟨_, _, rfl⟩
    · exact ⟨_, _, rfl⟩
  · exact ⟨_, _, rfl⟩

/-- A hit before all others, not directly before them, does not change their runs. -/
theorem IsRun.cons
    {hits group : List Hit}
    {first : Nat}
    (run : IsRun (· ∈ hits.map Hit.line) group first)
    (hit : Hit)
    (apart : hit.line + 1 < first) :
    IsRun (· ∈ (hit :: hits).map Hit.line) group first where
  nonempty := run.nonempty
  lines := run.lines
  ends := by
    intro member
    rcases List.mem_cons.mp member with equal | later
    · omega
    · exact run.ends later
  begins := by
    intro before next member
    rcases List.mem_cons.mp member with equal | later
    · omega
    · exact run.begins before next later

/-- A hit directly before a run belongs to it. -/
theorem IsRun.extend
    {hits group : List Hit}
    {hit : Hit}
    (run : IsRun (· ∈ hits.map Hit.line) group (hit.line + 1))
    (before : ∀ other ∈ hits, hit.line < other.line) :
    IsRun (· ∈ (hit :: hits).map Hit.line) (hit :: group) hit.line where
  nonempty := List.cons_ne_nil hit group
  lines := by rw [List.map_cons, run.lines, List.length_cons, List.range'_succ]
  ends := by
    intro member
    have shifted : hit.line + (hit :: group).length = hit.line + 1 + group.length := by
      rw [List.length_cons]
      omega
    rw [shifted] at member
    rcases List.mem_cons.mp member with equal | later
    · omega
    · exact run.ends later
  begins := by
    intro line next member
    rcases List.mem_cons.mp member with equal | later
    · omega
    · obtain ⟨other, isOther, rfl⟩ := List.mem_map.mp later
      have after := before other isOther
      omega

/-- A hit that nothing follows directly is a run of its own. -/
theorem IsRun.single
    {hits : List Hit}
    {hit : Hit}
    (apart : ∀ other ∈ hits, hit.line + 1 < other.line) :
    IsRun (· ∈ (hit :: hits).map Hit.line) [hit] hit.line where
  nonempty := List.cons_ne_nil hit []
  lines := rfl
  ends := by
    intro member
    rcases List.mem_cons.mp member with equal | later
    · exact absurd equal (Nat.succ_ne_self hit.line)
    · obtain ⟨other, isOther, equal⟩ := List.mem_map.mp later
      have after := apart other isOther
      rw [equal] at after
      exact absurd after (Nat.lt_irrefl _)
  begins := by
    intro line next member
    rcases List.mem_cons.mp member with equal | later
    · omega
    · obtain ⟨other, isOther, rfl⟩ := List.mem_map.mp later
      have after := apart other isOther
      omega

/-- Every group behind the first one begins behind the first hit. -/
theorem line_lt_of_later_run
    {next : Hit}
    {further others : List Hit}
    {following : List (List Hit)}
    (ascending : (next :: further).Pairwise fun earlier later => earlier.line < later.line)
    (split : runs (next :: further) = (next :: others) :: following)
    {group : List Hit}
    (member : group ∈ following)
    {isHit : Nat → Prop}
    {first : Nat}
    (run : IsRun isHit group first) :
    next.line < first := by
  obtain ⟨head, tail, rfl, rfl⟩ := run.exists_head
  have flat := flatten_runs (next :: further)
  rw [split, List.flatten_cons, List.cons_append] at flat
  apply (List.pairwise_cons.mp ascending).1
  rw [← (List.cons.inj flat).2]
  exact List.mem_append_right _ (List.mem_flatten.mpr ⟨_, member, List.mem_cons_self⟩)

/-- The groups of hits in increasing order are their maximal runs. -/
theorem isRun_of_mem_runs
    {hits : List Hit}
    (ascending : hits.Pairwise fun earlier later => earlier.line < later.line) :
    ∀ group ∈ runs hits, ∃ first, IsRun (· ∈ hits.map Hit.line) group first := by
  induction hits with
  | nil => simp [runs]
  | cons hit rest inductionHypothesis =>
    obtain ⟨before, tailAscending⟩ := List.pairwise_cons.mp ascending
    have tailRuns := inductionHypothesis tailAscending
    cases rest with
    | nil =>
      intro group member
      rw [List.mem_singleton.mp member]
      exact ⟨hit.line, IsRun.single (by simp)⟩
    | cons next further =>
      obtain ⟨others, following, split⟩ := exists_runs_cons next further
      have nextAfter := before next List.mem_cons_self
      obtain ⟨start, nextRun⟩ := tailRuns (next :: others) (by rw [split]; exact List.mem_cons_self)
      have start_eq : next.line = start := by
        obtain ⟨head, tail, equal, headLine⟩ := nextRun.exists_head
        rw [(List.cons.inj equal).1, headLine]
      subst start_eq
      have laterRuns : ∀ group ∈ following,
          ∃ first, IsRun (· ∈ (hit :: next :: further).map Hit.line) group first := by
        intro group later
        obtain ⟨first, run⟩ := tailRuns group (by rw [split]; exact List.mem_cons_of_mem _ later)
        have behind := line_lt_of_later_run tailAscending split later run
        exact ⟨first, run.cons hit (by omega)⟩
      intro group member
      rw [runs, split] at member
      by_cases adjacent : next.line = hit.line + 1
      · simp only [adjacent, beq_self_eq_true, if_true] at member
        rcases List.mem_cons.mp member with rfl | later
        · rw [adjacent] at nextRun
          exact ⟨hit.line, nextRun.extend before⟩
        · exact laterRuns group later
      · simp only [beq_iff_eq, adjacent, if_false] at member
        rcases List.mem_cons.mp member with rfl | later
        · refine ⟨hit.line, IsRun.single ?_⟩
          intro other isOther
          rcases List.mem_cons.mp isOther with rfl | behindNext
          · omega
          · have behind := (List.pairwise_cons.mp tailAscending).1 other behindNext
            omega
        · rcases List.mem_cons.mp later with rfl | latest
          · exact ⟨next.line, nextRun.cons hit (by omega)⟩
          · exact laterRuns group latest

end HiddenTodo
end QualityGate
