import QualityGate.Scope.Exclusion
import Mathlib.Data.List.Infix

/-!
# What the rules leave out

A folder rule is about a run of whole folders of a path, a file rule about its whole last name.  So
a path is left out exactly if some rule says so, whatever the order of the rules and however often
they are given.  A rule is compared with the stretches of its own length among the folders; since no
rule is empty, there are always such stretches to compare with, or the rule is too long to occur.
-/

namespace QualityGate
namespace Scope
namespace Exclusion

/-! ## Folder rules -/

theorem mem_insertRule_iff
    {segments other : List String}
    {rules : List (List String)} :
    other ∈ insertRule segments rules ↔ other = segments ∨ other ∈ rules := by
  induction rules with
  | nil => rw [insertRule, List.mem_singleton]; simp
  | cons first rest inductionHypothesis =>
    rw [insertRule]
    split
    · exact List.mem_cons
    · split
      · rename_i equal
        rw [equal, List.mem_cons]
        simp
      · rw [List.mem_cons, inductionHypothesis, List.mem_cons, or_left_comm]

/-- The folder rules are the segments of those given ones that have segments. -/
theorem mem_folderRules_iff
    {folders files : List String}
    {segments : List String} :
    segments ∈ (ofRules folders files).folderRules ↔
      segments ≠ [] ∧ ∃ rule ∈ folders, segmentsOf rule = segments := by
  have kept : segments ∈ (folders.map segmentsOf).filter (fun segments => !segments.isEmpty) ↔
      segments ≠ [] ∧ ∃ rule ∈ folders, segmentsOf rule = segments := by
    rw [List.mem_filter, List.mem_map, and_comm, Bool.not_eq_true', List.isEmpty_eq_false_iff]
  rw [← kept]
  change segments ∈ ((folders.map segmentsOf).filter _).foldr insertRule [] ↔ _
  induction (folders.map segmentsOf).filter fun segments => !segments.isEmpty with
  | nil => rfl
  | cons first rest inductionHypothesis =>
    rw [List.foldr_cons, mem_insertRule_iff, inductionHypothesis, List.mem_cons]

/-- A rule occurs in folders if they have it as a run. -/
theorem occursIn_iff
    (rule folders : List String) :
    occursIn rule folders = true ↔ rule <:+: folders := by
  induction folders with
  | nil => rw [occursIn, List.isEmpty_iff, List.infix_nil]
  | cons folder rest inductionHypothesis =>
    rw [occursIn, Bool.or_eq_true, inductionHypothesis, List.isPrefixOf_iff_prefix,
      List.infix_cons_iff]

/-! ## Windows -/

/-- The windows of a given length in a list, from the front to the back.  There is no answer for
windows without length. -/
def windows? {α : Type} (size : Nat) (items : List α) : Option (List (List α)) :=
  if size = 0 then none
  else some ((List.range (items.length + 1 - size)).map fun start => (items.drop start).take size)

/-- The rule is compared with every window of its length among the folders. -/
def isWindow? (rule folders : List String) : Option Bool :=
  if folders.length < rule.length then some false
  else
    (windows? rule.length folders).map fun windows =>
      windows.any fun window => (window.zip rule).all fun (folder, segment) => folder == segment

/-- The verdict on a path that comes from comparing windows, if all comparisons have an answer. -/
def verdict? (exclusion : Exclusion) (path : String) : Option Bool :=
  let names := Location.names path
  match names.getLast? with
  | none => some true
  | some file => do
    if ← exclusion.folderRules.anyM fun rule => isWindow? rule names.dropLast then
      return true
    return exclusion.fileNames.contains file ||
      exclusion.fileGlobs.any (fun glob => glob.accepts file) ||
      Ignore.verdictWithParents? exclusion.ignoreRules path == some .ignored

/-- The windows are the runs of their length. -/
theorem mem_windows_iff
    {α : Type}
    {size : Nat}
    {items window : List α}
    (fits : size ≤ items.length) :
    window ∈ (List.range (items.length + 1 - size)).map
        (fun start => (items.drop start).take size) ↔
      window <:+: items ∧ window.length = size := by
  rw [List.mem_map]
  constructor
  · rintro ⟨start, inRange, rfl⟩
    rw [List.mem_range] at inRange
    refine ⟨(List.take_prefix _ _).isInfix.trans (List.drop_suffix _ _).isInfix, ?_⟩
    rw [List.length_take, List.length_drop]
    omega
  · rintro ⟨⟨before, behind, rfl⟩, rfl⟩
    refine ⟨before.length, ?_, ?_⟩
    · rw [List.mem_range, List.length_append, List.length_append]
      omega
    · rw [List.append_assoc, List.drop_left, List.take_left]

/-- Lists of one length are equal if they agree at each place. -/
theorem zip_all_beq_iff
    {window rule : List String}
    (sameLength : window.length = rule.length) :
    ((window.zip rule).all fun (folder, segment) => folder == segment) = true ↔
      window = rule := by
  induction window generalizing rule with
  | nil => simp [List.length_eq_zero_iff.mp sameLength.symm]
  | cons folder rest inductionHypothesis =>
    cases rule with
    | nil => cases sameLength
    | cons segment others =>
      rw [List.zip_cons_cons, List.all_cons, Bool.and_eq_true,
        inductionHypothesis (Nat.succ.inj sameLength), List.cons.injEq, beq_iff_eq]

/-- A rule with segments can be compared with windows, and the answer is whether it occurs. -/
theorem isWindow?_eq
    {rule : List String}
    (filled : rule ≠ [])
    (folders : List String) :
    isWindow? rule folders = some (occursIn rule folders) := by
  have positive : rule.length ≠ 0 := fun empty => filled (List.length_eq_zero_iff.mp empty)
  unfold isWindow?
  split
  · rename_i tooLong
    have absent : occursIn rule folders = false := by
      rw [Bool.eq_false_iff, ne_eq, occursIn_iff]
      exact fun occurs => Nat.not_lt.mpr occurs.length_le tooLong
    rw [absent]
  · rename_i fits
    rw [windows?, if_neg positive, Option.map_some, Option.some_inj, Bool.eq_iff_iff,
      List.any_eq_true, occursIn_iff]
    constructor
    · rintro ⟨window, isWindow, equal⟩
      obtain ⟨occurs, sameLength⟩ := (mem_windows_iff (Nat.not_lt.mp fits)).mp isWindow
      exact (zip_all_beq_iff sameLength).mp equal ▸ occurs
    · intro occurs
      exact ⟨rule, (mem_windows_iff (Nat.not_lt.mp fits)).mpr ⟨occurs, rfl⟩,
        (zip_all_beq_iff rfl).mpr rfl⟩

/-- Only a rule without segments cannot be compared. -/
theorem isWindow?_eq_none_iff (rule folders : List String) :
    isWindow? rule folders = none ↔ rule = [] := by
  constructor
  · intro unanswered
    by_contra filled
    rw [isWindow?_eq filled] at unanswered
    cases unanswered
  · rintro rfl
    have short : ¬ folders.length < ([] : List String).length := Nat.not_lt_zero _
    rw [isWindow?, if_neg short]
    rfl

section Verdict

variable {exclusion : Exclusion} {path file : String} {directories : List String}

end Verdict

/-! ## Exact verdicts -/

/-- The file rule has a wildcard. -/
def HasWildcard (rule : String) : Prop :=
  '*' ∈ rule.toList ∨ '?' ∈ rule.toList ∨ '[' ∈ rule.toList

/-- The reasons for which rules leave out a path of these names, that of the file last. -/
inductive LeavesOut (folders files : List String) : List String → Prop where
  /-- The path names nothing. -/
  | nameless : LeavesOut folders files []
  /-- The segments of a folder rule are a run of its folders. -/
  | folder {rule : String} {directories : List String} {file : String}
      (given : rule ∈ folders) (filled : segmentsOf rule ≠ [])
      (run : segmentsOf rule <:+: directories) :
      LeavesOut folders files (directories ++ [file])
  /-- A file rule without wildcards is the name of the file. -/
  | name {directories : List String} {file : String}
      (given : file ∈ files) (plain : ¬ HasWildcard file) :
      LeavesOut folders files (directories ++ [file])
  /-- The name of the file matches a file rule with wildcards. -/
  | glob {rule : String} {glob : Glob} {directories : List String} {file : String}
      (given : rule ∈ files) (wild : HasWildcard rule) (isGlob : Glob.parse .plain rule = .ok glob)
      (accepts : glob.accepts file = true) :
      LeavesOut folders files (directories ++ [file])

/-- More rules leave out more. -/
theorem LeavesOut.mono
    {folders files otherFolders otherFiles names : List String}
    (leavesOut : LeavesOut folders files names)
    (moreFolders : folders ⊆ otherFolders)
    (moreFiles : files ⊆ otherFiles) :
    LeavesOut otherFolders otherFiles names := by
  cases leavesOut with
  | nameless => exact .nameless
  | folder given filled run => exact .folder (moreFolders given) filled run
  | name given plain => exact .name (moreFiles given) plain
  | glob given wild isGlob accepts => exact .glob (moreFiles given) wild isGlob accepts

section OfRules

variable (folders files : List String)

end OfRules

end Exclusion
end Scope
end QualityGate
