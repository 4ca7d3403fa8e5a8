import QualityGate.Proofs.FileSet
import QualityGate.Proofs.Scope.Walk
import QualityGate.Proofs.Text.Search

/-!
# Files in scope

The files of a run are those that git lists or, without an answer from git, those of the tree; of
these, all that are not left out and exist.  A tree that had to be walked and a scope without files
each leave a notice.
-/

namespace QualityGate
namespace Scope

/-! ## Spellings of a walk -/

/-- The names in a tree are those of files and folders. -/
def HasProperNames (tree : Tree) : Prop :=
  ∀ entry ∈ tree.entries, ∀ name ∈ entry.1, Location.IsName name

/-- A walk finds entries. -/
theorem exists_entry_of_mem_filesBelow {tree : Tree} {fuel : Nat} {outer : Listing}
    {folder names : List String} (member : names ∈ filesBelow tree fuel outer folder) :
    names ≠ [] ∧ ∃ entry ∈ tree.entries, entry.1 = names := by
  induction fuel generalizing outer folder with
  | zero => cases member
  | succ fuel inductionHypothesis =>
    rw [filesBelow_succ] at member
    obtain ⟨entry, isEntry, found⟩ := List.mem_flatMap.mp member
    obtain ⟨listed, length_eq, -⟩ := mem_entriesOf_iff.mp isEntry
    unfold visit at found
    split at found
    · cases found
    · split at found
      · exact inductionHypothesis found
      · rw [List.mem_singleton.mp found]
        exact ⟨List.ne_nil_of_length_eq_add_one length_eq, entry, listed, rfl⟩

/-- A walk spells its paths normally. -/
theorem isNormal_of_mem_walk {tree : Tree} (proper : HasProperNames tree) {path : String}
    (member : path ∈ walk tree) : Location.IsNormal path := by
  obtain ⟨names, found, rfl⟩ := List.mem_map.mp member
  obtain ⟨filled, entry, listed, rfl⟩ := exists_entry_of_mem_filesBelow found
  exact Location.isNormal_intercalate filled (proper entry listed)

/-! ## Answers of git -/

/-- Git is there and lists paths for a context: what is staged for a commit, what the range changes
for a push, and what is tracked in continuous integration.  The list is named for what it is. -/
inductive Answers (git : Git) (pushBase? : Option String) :
    Context → Origin → List String → Prop where
  | staged {paths : List String} :
      git.isAvailable = true →
      git.staged = .ok paths →
      Answers git pushBase? .commit .stagedDiff paths
  | pushRange {paths : List String} :
      git.isAvailable = true →
      git.pushRange pushBase? = .ok paths →
      Answers git pushBase? .push .pushRange paths
  | tracked {paths : List String} :
      git.isAvailable = true →
      git.tracked = .ok paths →
      Answers git pushBase? .ci .trackedTree paths

/-- Git is not there, or the list that the context needs is a failure. -/
inductive IsUnanswered (git : Git) (pushBase? : Option String) : Context → Prop where
  | missing {context : Context} :
      git.isAvailable = false →
      IsUnanswered git pushBase? context
  | staged {failure : Failure} :
      git.staged = .error failure →
      IsUnanswered git pushBase? .commit
  | pushRange {failure : Failure} :
      git.pushRange pushBase? = .error failure →
      IsUnanswered git pushBase? .push
  | tracked {failure : Failure} :
      git.tracked = .error failure →
      IsUnanswered git pushBase? .ci

section Answers

variable {git : Git} {pushBase? : Option String} {context : Context}

theorem Answers.not_isUnanswered
    {origin : Origin}
    {paths : List String}
    (answers : Answers git pushBase? context origin paths) :
    ¬ IsUnanswered git pushBase? context := by
  cases answers with
  | staged available listed | pushRange available listed | tracked available listed =>
    intro unanswered
    cases unanswered with
    | missing isMissing => simp [available] at isMissing
    | _ failed => simp [listed] at failed

theorem Answers.unique
    {origin other : Origin}
    {paths others : List String}
    (answers : Answers git pushBase? context origin paths)
    (again : Answers git pushBase? context other others) :
    other = origin ∧ others = paths := by
  cases answers with
  | staged _ listed | pushRange _ listed | tracked _ listed =>
    cases again with
    | _ _ listedAgain => exact ⟨rfl, by simpa [listed] using listedAgain.symm⟩

/-- Git has an answer for a context exactly if it is not true that it has none. -/
theorem exists_answers_iff :
    (∃ origin paths, Answers git pushBase? context origin paths) ↔
      ¬ IsUnanswered git pushBase? context := by
  constructor
  · rintro ⟨origin, paths, answers⟩
    exact answers.not_isUnanswered
  · intro answered
    have available : git.isAvailable = true := by
      cases missing : git.isAvailable with
      | true => rfl
      | false => exact absurd (.missing missing) answered
    cases context with
    | commit =>
      cases listed : git.staged with
      | ok paths => exact ⟨_, _, .staged available listed⟩
      | error failure => exact absurd (.staged listed) answered
    | push =>
      cases listed : git.pushRange pushBase? with
      | ok paths => exact ⟨_, _, .pushRange available listed⟩
      | error failure => exact absurd (.pushRange listed) answered
    | ci =>
      cases listed : git.tracked with
      | ok paths => exact ⟨_, _, .tracked available listed⟩
      | error failure => exact absurd (.tracked listed) answered

theorem Answers.origin_ne
    {origin : Origin}
    {paths : List String}
    (answers : Answers git pushBase? context origin paths) :
    origin ≠ .fullTreeFallback := by
  cases answers <;> decide

end Answers

/-- A path is among those from which the ones of a run are chosen: git lists it, or git has no
answer and a walk of the tree finds it. -/
def IsOffered
    (tree : Tree)
    (git : Git)
    (pushBase? : Option String)
    (context : Context)
    (path : String) : Prop :=
  (∃ origin paths, Answers git pushBase? context origin paths ∧ path ∈ paths) ∨
    (IsUnanswered git pushBase? context ∧ path ∈ walk tree)

/-- The notice says that the tree was walked. -/
def isFallbackNotice (notice : String) : Bool :=
  Text.contains notice "analyzed the full tree instead"

/-- The notice says that there are no files. -/
def isEmptyNotice (notice : String) : Bool :=
  Text.startsWith notice "No files"

theorem isFallbackNotice_append {start ending : String}
    (said : isFallbackNotice start = true ∨ isFallbackNotice ending = true) :
    isFallbackNotice (start ++ ending) = true := by
  unfold isFallbackNotice at said ⊢
  rw [Text.contains_iff, Text.contains_iff] at said
  rw [Text.contains_iff, String.toList_append]
  rcases said with said | said
  · exact said.trans (List.prefix_append _ _).isInfix
  · exact said.trans (List.suffix_append _ _).isInfix

/-- A text with another first character says something else. -/
theorem isEmptyNotice_append {start : String} {first : Char} {rest : List Char}
    (begins : start.toList = first :: rest) (differs : first ≠ 'N') (ending : String) :
    isEmptyNotice (start ++ ending) = false := by
  rw [isEmptyNotice, Text.startsWith, String.toList_append, begins]
  simp [List.isPrefixOf, differs.symm]

/-- The files of a context are missing, and nothing else is said. -/
theorem isEmptyNotice_remark (context : Context) :
    isEmptyNotice ("No files in " ++ context.name ++ " scope") = true ∧
      isFallbackNotice ("No files in " ++ context.name ++ " scope") = false := by
  cases context <;> decide +kernel

/-! ## Exact scopes -/

/-- Everything that a resolution of the files of a run promises. -/
structure IsExact
    (tree : Tree)
    (exclusion : Exclusion)
    (git : Git)
    (pushBase? : Option String)
    (context : Context)
    (found : Resolution) : Prop where
  increasing : found.files.paths.Pairwise FileSet.Before
  mem_iff : ∀ path, path ∈ found.files.paths ↔
    IsOffered tree git pushBase? context path ∧ exclusion.excludes path = false ∧
      ∃ content, tree.find path = .ok (.file content)
  /-- The order in which git lists paths, and how often, does not matter. -/
  unordered : ∀ other origin otherOrigin paths otherPaths,
    Answers git pushBase? context origin paths →
    Answers other pushBase? context otherOrigin otherPaths →
    (∀ path, path ∈ otherPaths ↔ path ∈ paths) →
    resolve tree exclusion other pushBase? context = found
  origin_iff : found.origin = .fullTreeFallback ↔ IsUnanswered git pushBase? context
  origin_eq : ∀ origin paths, Answers git pushBase? context origin paths → found.origin = origin
  fallback : IsUnanswered git pushBase? context → found.notices.countP isFallbackNotice = 1
  noFallback : ¬ IsUnanswered git pushBase? context → found.notices.countP isFallbackNotice = 0
  empty_iff : (∃ notice ∈ found.notices, isEmptyNotice notice = true) ↔ found.files.paths = []

/-- The notices about the files that were kept. -/
def remarks (context : Context) (files : FileSet) : List String :=
  if files.paths.isEmpty then ["No files in " ++ context.name ++ " scope"] else []

theorem countP_remarks (context : Context) (files : FileSet) :
    (remarks context files).countP isFallbackNotice = 0 := by
  unfold remarks
  split
  · simp [(isEmptyNotice_remark context).2]
  · rfl

theorem exists_mem_remarks_iff (context : Context) (files : FileSet) :
    (∃ notice ∈ remarks context files, isEmptyNotice notice = true) ↔ files.paths = [] := by
  unfold remarks
  split
  · rename_i empty
    simpa [(isEmptyNotice_remark context).1] using empty
  · rename_i filled
    simpa using filled

section Resolve

variable {tree : Tree} {exclusion : Exclusion} {git : Git} {pushBase? : Option String}
  {context : Context}

/-- What git lists are the paths to choose from. -/
theorem candidates_of_answers
    {origin : Origin}
    {paths : List String}
    (answers : Answers git pushBase? context origin paths) :
    candidates tree git pushBase? context = (origin, paths, []) := by
  cases answers with
  | staged available answered | pushRange available answered | tracked available answered =>
    rw [candidates, available, if_pos rfl, listed, answered]
    rfl

/-- Without an answer the tree is walked, and a notice says so. -/
theorem candidates_of_unanswered
    (tree : Tree)
    (unanswered : IsUnanswered git pushBase? context) :
    ∃ notice, isFallbackNotice notice = true ∧ isEmptyNotice notice = false ∧
      candidates tree git pushBase? context = (.fullTreeFallback, walk tree, [notice]) := by
  unfold candidates
  cases available : git.isAvailable with
  | false =>
    refine ⟨_, ?_, ?_, rfl⟩
    · rw [String.append_assoc]
      exact isFallbackNotice_append (.inl (by decide +kernel))
    · rw [String.append_assoc]
      exact isEmptyNotice_append rfl (by decide) _
  | true =>
    obtain ⟨failure, failed⟩ : ∃ failure, listed git pushBase? context = .error failure := by
      cases unanswered with
      | missing isMissing => simp [available] at isMissing
      | staged failed | pushRange failed | tracked failed => exact ⟨_, failed⟩
    rw [failed]
    refine ⟨_, ?_, ?_, rfl⟩
    · exact isFallbackNotice_append (.inr (by decide +kernel))
    · simp only [String.append_assoc]
      exact isEmptyNotice_append rfl (by decide) _

theorem mem_candidates_iff (path : String) :
    path ∈ (candidates tree git pushBase? context).2.1 ↔
      IsOffered tree git pushBase? context path := by
  by_cases unanswered : IsUnanswered git pushBase? context
  · obtain ⟨notice, -, -, offers⟩ := candidates_of_unanswered tree unanswered
    rw [offers, IsOffered, or_iff_right, and_iff_right unanswered]
    rintro ⟨origin, paths, answers, -⟩
    exact answers.not_isUnanswered unanswered
  · obtain ⟨origin, paths, answers⟩ := exists_answers_iff.mpr unanswered
    rw [candidates_of_answers answers]
    constructor
    · exact fun member => .inl ⟨origin, paths, answers, member⟩
    · rintro (⟨other, others, again, member⟩ | ⟨isUnanswered, -⟩)
      · obtain ⟨-, rfl⟩ := answers.unique again
        exact member
      · exact absurd isUnanswered unanswered

theorem resolve_eq {origin : Origin} {paths notices : List String}
    (offers : candidates tree git pushBase? context = (origin, paths, notices)) :
    resolve tree exclusion git pushBase? context =
      ⟨FileSet.ofList (paths.filter (keeps tree exclusion)), origin,
        notices ++ remarks context (FileSet.ofList (paths.filter (keeps tree exclusion)))⟩ := by
  rw [resolve, offers]
  rfl

theorem files_resolve :
    (resolve tree exclusion git pushBase? context).files =
      FileSet.ofList
        ((candidates tree git pushBase? context).2.1.filter (keeps tree exclusion)) := rfl

theorem resolve_of_answers
    {origin : Origin}
    {paths : List String}
    (answers : Answers git pushBase? context origin paths) :
    (resolve tree exclusion git pushBase? context).origin = origin ∧
      (resolve tree exclusion git pushBase? context).notices =
        remarks context (resolve tree exclusion git pushBase? context).files := by
  rw [resolve_eq (candidates_of_answers answers)]
  exact ⟨rfl, rfl⟩

theorem resolve_of_unanswered
    (tree : Tree)
    (exclusion : Exclusion)
    (unanswered : IsUnanswered git pushBase? context) :
    (resolve tree exclusion git pushBase? context).origin = .fullTreeFallback ∧
      ∃ notice, isFallbackNotice notice = true ∧ isEmptyNotice notice = false ∧
        (resolve tree exclusion git pushBase? context).notices =
          notice :: remarks context (resolve tree exclusion git pushBase? context).files := by
  obtain ⟨notice, said, more, offers⟩ := candidates_of_unanswered tree unanswered
  rw [resolve_eq offers]
  exact ⟨rfl, notice, said, more, rfl⟩

theorem origin_resolve_iff :
    (resolve tree exclusion git pushBase? context).origin = .fullTreeFallback ↔
      IsUnanswered git pushBase? context := by
  by_cases unanswered : IsUnanswered git pushBase? context
  · exact iff_of_true (resolve_of_unanswered tree exclusion unanswered).1 unanswered
  · obtain ⟨origin, paths, answers⟩ := exists_answers_iff.mpr unanswered
    rw [(resolve_of_answers answers).1]
    exact iff_of_false answers.origin_ne unanswered

/-- Git spells the paths that it lists normally. -/
def ListsNormally (git : Git) (pushBase? : Option String) (context : Context) : Prop :=
  ∀ origin paths, Answers git pushBase? context origin paths →
    ∀ path ∈ paths, Location.IsNormal path

section Spelled

variable (proper : HasProperNames tree) (spelled : ListsNormally git pushBase? context)
include proper spelled

/-- Only paths in normal spelling are offered. -/
theorem isNormal_of_mem_candidates {path : String}
    (member : path ∈ (candidates tree git pushBase? context).2.1) : Location.IsNormal path := by
  rcases (mem_candidates_iff path).mp member with ⟨origin, paths, answers, listed⟩ | ⟨-, found⟩
  · exact spelled origin paths answers path listed
  · exact isNormal_of_mem_walk proper found

theorem mem_resolve_iff (path : String) :
    path ∈ (resolve tree exclusion git pushBase? context).files.paths ↔
      IsOffered tree git pushBase? context path ∧ exclusion.excludes path = false ∧
        ∃ content, tree.find path = .ok (.file content) := by
  have normal : ∀ path ∈ (candidates tree git pushBase? context).2.1.filter
      (keeps tree exclusion), Location.IsNormal path := fun path member =>
    isNormal_of_mem_candidates proper spelled (List.mem_filter.mp member).1
  rw [files_resolve, FileSet.mem_ofList_iff normal, List.mem_filter, keeps_iff,
    mem_candidates_iff]

end Spelled

/-- Another answer with the same paths has the same files. -/
theorem resolve_eq_of_mem_iff
    (spelled : ListsNormally git pushBase? context)
    {other : Git}
    {origin otherOrigin : Origin}
    {paths otherPaths : List String}
    (answers : Answers git pushBase? context origin paths)
    (otherAnswers : Answers other pushBase? context otherOrigin otherPaths)
    (same : ∀ path, path ∈ otherPaths ↔ path ∈ paths) :
    resolve tree exclusion other pushBase? context =
      resolve tree exclusion git pushBase? context := by
  have normal : ∀ path ∈ paths.filter (keeps tree exclusion), Location.IsNormal path := by
    intro path member
    exact spelled origin paths answers path (List.mem_filter.mp member).1
  have files_eq : FileSet.ofList (otherPaths.filter (keeps tree exclusion)) =
      FileSet.ofList (paths.filter (keeps tree exclusion)) :=
    FileSet.ofList_eq_of_mem_iff normal fun path => by
      rw [List.mem_filter, List.mem_filter, same]
  have origin_eq : otherOrigin = origin := by
    cases answers <;> cases otherAnswers <;> rfl
  rw [resolve_eq (candidates_of_answers answers),
    resolve_eq (candidates_of_answers otherAnswers), files_eq, origin_eq]

/-- Whatever git says, the files of a run are exactly those offered that are not left out and
exist, and neither a walk of the tree nor a scope without files goes unsaid. -/
theorem resolve_exact (proper : HasProperNames tree)
    (spelled : ListsNormally git pushBase? context) :
    IsExact tree exclusion git pushBase? context
      (resolve tree exclusion git pushBase? context) where
  increasing := by
    rw [files_resolve]
    exact FileSet.pairwise_ofList _
  mem_iff := mem_resolve_iff proper spelled
  unordered _ _ _ _ _ := resolve_eq_of_mem_iff spelled
  origin_iff := origin_resolve_iff
  origin_eq _ _ answers := (resolve_of_answers answers).1
  fallback := by
    intro unanswered
    obtain ⟨-, notice, said, -, notices_eq⟩ :=
      resolve_of_unanswered tree exclusion unanswered
    rw [notices_eq, List.countP_cons_of_pos said, countP_remarks]
  noFallback := by
    intro answered
    obtain ⟨origin, paths, answers⟩ := exists_answers_iff.mpr answered
    rw [(resolve_of_answers answers).2, countP_remarks]
  empty_iff := by
    rw [← exists_mem_remarks_iff context]
    by_cases unanswered : IsUnanswered git pushBase? context
    · obtain ⟨-, notice, -, more, notices_eq⟩ :=
        resolve_of_unanswered tree exclusion unanswered
      rw [notices_eq]
      simp [more]
    · obtain ⟨origin, paths, answers⟩ := exists_answers_iff.mpr unanswered
      rw [(resolve_of_answers answers).2]

end Resolve

/-- Two folders of which one name begins with the other. -/
def neighbouringFolders : Tree :=
  ⟨"/project",
    [(["a"], .folder), (["a", "x"], .file (.text "")), (["a-b"], .folder),
      (["a-b", "x"], .file (.text ""))]⟩

/-- Git stages a path twice and one that is gone, and has other lists for a push and for continuous
integration. -/
def unlikeListings : Git where
  isAvailable := true
  staged := .ok ["a-b/x", "a/x", "gone", "a-b/x"]
  pushRange := fun _ => .ok ["a/x"]
  tracked := .ok ["a-b/x"]

theorem resolve_exact_of_unlikeListings :
    HasProperNames neighbouringFolders ∧
      (ListsNormally unlikeListings none .commit ∧
        IsExact neighbouringFolders .standard unlikeListings none .commit
          (resolve neighbouringFolders .standard unlikeListings none .commit)) ∧
      (ListsNormally unlikeListings none .push ∧
        IsExact neighbouringFolders .standard unlikeListings none .push
          (resolve neighbouringFolders .standard unlikeListings none .push)) ∧
      (ListsNormally unlikeListings none .ci ∧
        IsExact neighbouringFolders .standard unlikeListings none .ci
          (resolve neighbouringFolders .standard unlikeListings none .ci)) := by
  have proper : HasProperNames neighbouringFolders := by
    unfold HasProperNames Location.IsName
    decide +kernel
  have ofCommit : ListsNormally unlikeListings none .commit := by
    intro origin paths answers
    cases answers with
    | staged _ listed =>
      cases listed
      decide +kernel
  have ofPush : ListsNormally unlikeListings none .push := by
    intro origin paths answers
    cases answers with
    | pushRange _ listed =>
      cases listed
      decide +kernel
  have ofCi : ListsNormally unlikeListings none .ci := by
    intro origin paths answers
    cases answers with
    | tracked _ listed =>
      cases listed
      decide +kernel
  exact ⟨proper, ⟨ofCommit, resolve_exact proper ofCommit⟩, ⟨ofPush, resolve_exact proper ofPush⟩,
    ⟨ofCi, resolve_exact proper ofCi⟩⟩

end Scope
end QualityGate
