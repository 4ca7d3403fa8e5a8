import QualityGate.Proofs.Duplication.Window

/-!
# Maximal regions

The lines of a file that lie in a duplicated window fall into maximal runs of consecutive lines.
There is one finding for each of them, in increasing order: it says where the run begins and ends
and names a place where its first window occurs as well.
-/

namespace QualityGate
namespace Duplication

/-! ## Runs -/

/-- An index lies in a window of `size` lines that starts at a given place. -/
def IsCovered (size : Nat) (starts : Nat → Prop) (index : Nat) : Prop :=
  ∃ start, starts start ∧ start ≤ index ∧ index < start + size

/-- A run of consecutive indices that cannot be made longer. -/
structure IsMaximalRun (covered : Nat → Prop) (first last : Nat) : Prop where
  ordered : first ≤ last
  inside : ∀ index, first ≤ index → index ≤ last → covered index
  begins : ∀ index, index + 1 = first → ¬covered index
  ends : ¬covered (last + 1)

/-- Regions cover some indices: they come in increasing order, with a gap between any two. -/
structure Separates (found : List Region) (covered : Nat → Prop) : Prop where
  ordered : ∀ region ∈ found, region.first ≤ region.last
  apart : found.Pairwise fun earlier later => earlier.last + 1 < later.first
  covers : ∀ index,
    (∃ region ∈ found, region.first ≤ index ∧ index ≤ region.last) ↔ covered index

section Runs

variable {found : List Region} {covered : Nat → Prop}

/-- Regions that overlap or touch are the same. -/
theorem Separates.eq_of_touching
    (separates : Separates found covered)
    {region other : Region}
    (member : region ∈ found)
    (otherMember : other ∈ found)
    (before : region.first ≤ other.last + 1)
    (behind : other.first ≤ region.last + 1) :
    region = other := by
  refine List.Pairwise.forall_of_forall_of_flip
    (R := fun first second : Region =>
      first.first ≤ second.last + 1 → second.first ≤ first.last + 1 → first = second)
    (fun _ _ _ _ => rfl) ?_ ?_ member otherMember before behind
  · refine separates.apart.imp fun apart before behind => ?_
    omega
  · refine separates.apart.imp fun apart before behind => ?_
    omega

/-- Regions that cover some indices are the maximal runs of these. -/
theorem Separates.exists_iff
    (separates : Separates found covered)
    (first last : Nat) :
    (∃ region ∈ found, region.first = first ∧ region.last = last) ↔
      IsMaximalRun covered first last := by
  have isMaximal {region : Region} (member : region ∈ found) :
      IsMaximalRun covered region.first region.last := by
    have ordered := separates.ordered region member
    refine ⟨ordered, fun index above below => ?_, fun index before isCovered => ?_,
      fun isCovered => ?_⟩
    · exact (separates.covers index).mp ⟨region, member, above, below⟩
    · obtain ⟨other, otherMember, _, _⟩ := (separates.covers index).mpr isCovered
      have same := separates.eq_of_touching member otherMember (by omega) (by omega)
      subst same
      omega
    · obtain ⟨other, otherMember, _, _⟩ := (separates.covers _).mpr isCovered
      have same := separates.eq_of_touching member otherMember (by omega) (by omega)
      subst same
      omega
  constructor
  · rintro ⟨region, member, rfl, rfl⟩
    exact isMaximal member
  · intro maximal
    have ordered := maximal.ordered
    obtain ⟨region, member, above, below⟩ :=
      (separates.covers first).mpr (maximal.inside first (Nat.le_refl first) ordered)
    have inRegion := (isMaximal member).inside
    refine ⟨region, member, ?_, ?_⟩
    · by_contra different
      exact maximal.begins (first - 1) (by omega) (inRegion _ (by omega) (by omega))
    · rcases Nat.lt_trichotomy region.last last with shorter | same | longer
      · exact absurd (maximal.inside _ (by omega) shorter) (isMaximal member).ends
      · exact same
      · exact absurd (inRegion _ (by omega) longer) maximal.ends

/-- A window whose lines are covered lies in one region. -/
theorem Separates.exists_of_window
    {size : Nat}
    (positive : 1 ≤ size)
    {starts : Nat → Prop}
    (separates : Separates found (IsCovered size starts))
    {start : Nat}
    (isStart : starts start) :
    ∃ region ∈ found, region.first ≤ start ∧ start + size ≤ region.last + 1 := by
  have covered {index : Nat} (above : start ≤ index) (below : index < start + size) :
      IsCovered size starts index := ⟨start, isStart, above, below⟩
  obtain ⟨region, member, above, below⟩ :=
    (separates.covers start).mpr (covered (Nat.le_refl start) (by omega))
  have maximal := (separates.exists_iff _ _).mp ⟨region, member, rfl, rfl⟩
  refine ⟨region, member, above, ?_⟩
  by_contra short
  exact maximal.ends (covered (by omega) (by omega))

end Runs

/-! ## Merging windows -/

section Merging

variable {size : Nat}

/-- A region begins where a window starts. -/
theorem begins_of_mem_regionsFrom
    {current region : Region}
    {entries : List (Nat × Spot)}
    (member : region ∈ regionsFrom size current entries) :
    (region.first = current.first ∧ region.twin = current.twin) ∨
      (region.first, region.twin) ∈ entries := by
  induction entries generalizing current with
  | nil =>
    rw [regionsFrom, List.mem_singleton] at member
    exact Or.inl ⟨by rw [member], by rw [member]⟩
  | cons entry rest inductionHypothesis =>
    obtain ⟨start, twin⟩ := entry
    rw [regionsFrom] at member
    split at member
    · exact (inductionHypothesis member).imp_right (List.mem_cons_of_mem _)
    · rcases List.mem_cons.mp member with rfl | later
      · exact Or.inl ⟨rfl, rfl⟩
      · rcases inductionHypothesis later with ⟨first_eq, twin_eq⟩ | old
        · rw [first_eq, twin_eq]
          exact Or.inr List.mem_cons_self
        · exact Or.inr (List.mem_cons_of_mem _ old)

/-- The indices that a region and further windows cover. -/
def CoveredFrom
    (size : Nat)
    (current : Region)
    (entries : List (Nat × Spot))
    (index : Nat) : Prop :=
  (current.first ≤ index ∧ index ≤ current.last) ∨
    IsCovered size (fun start => ∃ twin, (start, twin) ∈ entries) index

theorem isCovered_cons_iff
    (start : Nat)
    (twin : Spot)
    (entries : List (Nat × Spot))
    (index : Nat) :
    IsCovered size (fun other => ∃ spot, (other, spot) ∈ (start, twin) :: entries) index ↔
      (start ≤ index ∧ index < start + size) ∨
        IsCovered size (fun other => ∃ spot, (other, spot) ∈ entries) index := by
  unfold IsCovered
  simp only [List.mem_cons, Prod.mk.injEq]
  constructor
  · rintro ⟨other, ⟨spot, ⟨rfl, rfl⟩ | old⟩, inside⟩
    · exact Or.inl inside
    · exact Or.inr ⟨other, ⟨spot, old⟩, inside⟩
  · rintro (inside | ⟨other, ⟨spot, old⟩, inside⟩)
    · exact ⟨start, ⟨twin, Or.inl ⟨rfl, rfl⟩⟩, inside⟩
    · exact ⟨other, ⟨spot, Or.inr old⟩, inside⟩

/-- Windows in increasing order are merged into separate regions.  The invariant is that all further
windows start behind the beginning of the current region. -/
theorem separates_regionsFrom
    (positive : 1 ≤ size)
    {current : Region}
    (ordered : current.first ≤ current.last)
    {entries : List (Nat × Spot)}
    (sorted : entries.Pairwise fun earlier later => earlier.1 < later.1)
    (behind : ∀ entry ∈ entries, current.first ≤ entry.1) :
    Separates (regionsFrom size current entries) (CoveredFrom size current entries) := by
  induction entries generalizing current with
  | nil =>
    rw [regionsFrom]
    refine ⟨by simpa using ordered, List.pairwise_singleton _ _, fun index => ?_⟩
    simp [CoveredFrom, IsCovered]
  | cons entry rest inductionHypothesis =>
    obtain ⟨start, twin⟩ := entry
    obtain ⟨first, sortedRest⟩ := List.pairwise_cons.mp sorted
    obtain ⟨startBehind, restBehind⟩ := List.forall_mem_cons.mp behind
    dsimp only at startBehind first
    rw [regionsFrom]
    split
    · rename_i touching
      -- the window prolongs the current region
      have separates :
          Separates (regionsFrom size ⟨current.first, max current.last (start + size - 1), _⟩ rest)
            (CoveredFrom size ⟨current.first, _, current.twin⟩ rest) :=
        inductionHypothesis (by dsimp only; omega) sortedRest restBehind
      refine ⟨separates.ordered, separates.apart, fun index => ?_⟩
      rw [separates.covers, CoveredFrom, CoveredFrom, isCovered_cons_iff, ← or_assoc]
      refine or_congr_left ?_
      dsimp only
      omega
    · rename_i gap
      -- the window begins a new region behind a gap
      have separates :
          Separates (regionsFrom size ⟨start, start + size - 1, twin⟩ rest)
            (CoveredFrom size ⟨start, start + size - 1, twin⟩ rest) :=
        inductionHypothesis (by dsimp only; omega) sortedRest
          (fun entry member => Nat.le_of_lt (first entry member))
      have later : ∀ region ∈ regionsFrom size ⟨start, start + size - 1, twin⟩ rest,
          start ≤ region.first := by
        intro region member
        rcases begins_of_mem_regionsFrom member with ⟨first_eq, -⟩ | old
        · exact Nat.le_of_eq first_eq.symm
        · exact Nat.le_of_lt (first _ old)
      refine ⟨List.forall_mem_cons.mpr ⟨ordered, separates.ordered⟩,
        List.pairwise_cons.mpr ⟨fun region member => ?_, separates.apart⟩, fun index => ?_⟩
      · have := later region member
        omega
      · rw [List.exists_mem_cons_iff, separates.covers, CoveredFrom, CoveredFrom,
          isCovered_cons_iff]
        refine or_congr_right (or_congr_left ?_)
        dsimp only
        omega

/-- Windows in increasing order are merged into separate regions. -/
theorem separates_regions
    (positive : 1 ≤ size)
    {entries : List (Nat × Spot)}
    (sorted : entries.Pairwise fun earlier later => earlier.1 < later.1) :
    Separates (regions size entries)
      (IsCovered size fun start => ∃ twin, (start, twin) ∈ entries) := by
  cases entries with
  | nil => exact ⟨by simp [regions], List.Pairwise.nil, by simp [regions, IsCovered]⟩
  | cons entry rest =>
    obtain ⟨start, twin⟩ := entry
    obtain ⟨first, sortedRest⟩ := List.pairwise_cons.mp sorted
    have separates :
        Separates (regionsFrom size ⟨start, start + size - 1, twin⟩ rest)
          (CoveredFrom size ⟨start, start + size - 1, twin⟩ rest) :=
      separates_regionsFrom positive (by dsimp only; omega) sortedRest
        (fun entry member => Nat.le_of_lt (first entry member))
    refine ⟨separates.ordered, separates.apart, fun index => ?_⟩
    rw [regions, separates.covers, CoveredFrom, isCovered_cons_iff]
    refine or_congr_left ?_
    dsimp only
    omega

/-- A region begins with a window and has its twin. -/
theorem mem_of_mem_regions
    {region : Region}
    {entries : List (Nat × Spot)}
    (member : region ∈ regions size entries) :
    (region.first, region.twin) ∈ entries := by
  cases entries with
  | nil => cases member
  | cons entry rest =>
    obtain ⟨start, twin⟩ := entry
    rcases begins_of_mem_regionsFrom member with ⟨first_eq, twin_eq⟩ | old
    · rw [first_eq, twin_eq]
      exact List.mem_cons_self
    · exact List.mem_cons_of_mem _ old

end Merging

/-! ## Reports -/

section Reports

variable (size : Nat) (files : List CodeFile) (pairs : List (Nat × Nat)) (place : Nat)

/-- A duplicated window starts at a line of a file. -/
def IsDuplicated (start : Nat) : Prop :=
  ∃ other, IsDuplicate size files pairs ⟨place, start⟩ other

/-- A finding says where a region of a file begins and ends, and names a duplicate of its first
window. -/
structure Describes (file : CodeFile) (region : Region) (finding : Finding) : Prop where
  isDuplicate : IsDuplicate size files pairs ⟨place, region.first⟩ region.twin
  text : ∃ first last other line,
    file.lines[region.first]? = some first ∧ file.lines[region.last]? = some last ∧
      files[region.twin.file]? = some other ∧ other.lines[region.twin.start]? = some line ∧
      finding =
        { gate := .duplication
          rule := "DUPLICATE_BLOCK"
          message := "Lines " ++ Text.decimal first.number ++ "-" ++ Text.decimal last.number ++
            " duplicate code at " ++ other.display ++ ":" ++ Text.decimal line.number
          file := file.display
          line? := some first.number
          severity? := some .error
          confidence? := none
          suggestion? := some "Extract the shared logic into a single function or module" }

/-- The findings about a file, with their regions: one for each maximal run of duplicated lines, in
increasing order. -/
structure IsReport (file : CodeFile) (report : List (Region × Finding)) : Prop where
  ascending : report.Pairwise fun earlier later => earlier.1.last + 1 < later.1.first
  maximal : ∀ first last,
    (∃ entry ∈ report, entry.1.first = first ∧ entry.1.last = last) ↔
      IsMaximalRun (IsCovered size (IsDuplicated size files pairs place)) first last
  described : ∀ entry ∈ report, Describes size files pairs place file entry.1 entry.2
  complete : ∀ start, IsDuplicated size files pairs place start →
    ∃ entry ∈ report, entry.1.first ≤ start ∧ start + size ≤ entry.1.last + 1

/-- The regions of a file with the findings about them. -/
def reportOn (file : CodeFile) : List (Region × Finding) :=
  (regions size (duplicatedIn size files pairs place)).map fun region =>
    (region, regionFinding files file region)

end Reports

section Findings

variable {size : Nat} {files : List CodeFile} {pairs : List (Nat × Nat)} {place : Nat}

/-- The line at an index inside of a file has a number. -/
theorem CodeFile.lineNumber_eq
    {file : CodeFile}
    {index : Nat}
    {line : CodeLine}
    (isLine : file.lines[index]? = some line) :
    file.lineNumber index = line.number := by
  rw [lineNumber, isLine]

/-- The lines of a duplicated window are inside of its file. -/
theorem IsDuplicate.inside
    {file : CodeFile}
    (isFile : files[place]? = some file)
    {start : Nat}
    {other : Spot}
    (isDuplicate : IsDuplicate size files pairs ⟨place, start⟩ other) :
    start + size ≤ file.lines.length := by
  obtain ⟨lines, isWindow, -⟩ := isDuplicate.same
  obtain ⟨same, isSame, inside, -⟩ := (windowAt?_eq_some_iff _ _ _ _).mp isWindow
  rw [isFile] at isSame
  cases isSame
  exact inside

variable
  (positive : 1 ≤ size)
  (normal : ∀ file ∈ files, file.IsNormal)
  (collisionFree : Digest.IsCollisionFree (windowTexts size files))

include positive normal collisionFree

/-- The duplicated windows of a file are merged into separate regions. -/
theorem separates_duplicatedIn (pairs : List (Nat × Nat)) (place : Nat) :
    Separates (regions size (duplicatedIn size files pairs place))
      (IsCovered size (IsDuplicated size files pairs place)) := by
  have starts : (fun start => ∃ twin, (start, twin) ∈ duplicatedIn size files pairs place) =
      IsDuplicated size files pairs place := by
    funext start
    exact propext (exists_mem_duplicatedIn_iff positive normal collisionFree place start)
  rw [← starts]
  exact separates_regions positive (pairwise_duplicatedIn positive place)

/-- The finding about a region says where it is. -/
theorem describes_regionFinding
    {file : CodeFile}
    (isFile : files[place]? = some file)
    {region : Region}
    (member : region ∈ regions size (duplicatedIn size files pairs place)) :
    Describes size files pairs place file region (regionFinding files file region) := by
  have isDuplicate := isDuplicate_of_mem_duplicatedIn positive normal collisionFree
    (mem_of_mem_regions member)
  have separates := separates_duplicatedIn positive normal collisionFree pairs place
  have maximal := (separates.exists_iff _ _).mp ⟨region, member, rfl, rfl⟩
  refine ⟨isDuplicate, ?_⟩
  have firstInside : region.first < file.lines.length := by
    have := isDuplicate.inside isFile
    omega
  have lastInside : region.last < file.lines.length := by
    obtain ⟨start, ⟨other, duplicate⟩, _, _⟩ :=
      maximal.inside region.last maximal.ordered (Nat.le_refl region.last)
    have := duplicate.inside isFile
    omega
  obtain ⟨lines, -, isTwin⟩ := isDuplicate.same
  obtain ⟨other, isOther, twinInside, -⟩ := (windowAt?_eq_some_iff _ _ _ _).mp isTwin
  have startInside : region.twin.start < other.lines.length := by omega
  refine ⟨_, _, other, _, List.getElem?_eq_getElem firstInside,
    List.getElem?_eq_getElem lastInside, isOther, List.getElem?_eq_getElem startInside, ?_⟩
  have named : files.getD region.twin.file default = other := by
    rw [List.getD_eq_getElem?_getD, isOther, Option.getD_some]
  unfold regionFinding
  rw [named]
  dsimp only
  rw [CodeFile.lineNumber_eq (List.getElem?_eq_getElem firstInside),
    CodeFile.lineNumber_eq (List.getElem?_eq_getElem lastInside),
    CodeFile.lineNumber_eq (List.getElem?_eq_getElem startInside)]
  rfl

/-- The findings about a file are about its maximal runs of duplicated lines. -/
theorem isReport_reportOn
    {file : CodeFile}
    (isFile : files[place]? = some file) :
    IsReport size files pairs place file (reportOn size files pairs place file) := by
  have separates := separates_duplicatedIn positive normal collisionFree pairs place
  refine ⟨List.pairwise_map.mpr separates.apart, fun first last => ?_, ?_, ?_⟩
  · rw [← separates.exists_iff first last]
    simp [reportOn]
  · intro entry member
    obtain ⟨region, isRegion, rfl⟩ := List.mem_map.mp member
    exact describes_regionFinding positive normal collisionFree isFile isRegion
  · intro start duplicated
    obtain ⟨region, isRegion, inside⟩ := separates.exists_of_window positive duplicated
    exact ⟨_, List.mem_map_of_mem isRegion, inside⟩

end Findings

/-- Findings are those of reports on the files, one report for each. -/
structure IsAccount
    (size : Nat)
    (files : List CodeFile)
    (pairs : List (Nat × Nat))
    (reports : List (List (Region × Finding)))
    (findings : List Finding) : Prop where
  findings : findings = reports.flatten.map Prod.snd
  length : reports.length = files.length
  isReport : ∀ place file report, files[place]? = some file → reports[place]? = some report →
    IsReport size files pairs place file report
  /-- Two equal windows of different files that are not reported as a whole are both reported. -/
  equal : ∀ spot other lines,
    windowAt? size files spot = some lines → windowAt? size files other = some lines →
    spot.file ≠ other.file →
    (min spot.file other.file, max spot.file other.file) ∉ pairs →
    ∀ either ∈ [spot, other], ∃ report, reports[either.file]? = some report ∧
      ∃ entry ∈ report, entry.1.first ≤ either.start ∧ either.start + size ≤ entry.1.last + 1

/-- The findings about duplicated blocks are those of the reports on the files. -/
theorem duplicateBlocks_eq
    (settings : DuplicationSettings)
    (files : List CodeFile)
    (pairs : List (Nat × Nat)) :
    duplicateBlocks settings files pairs =
      (files.zipIdx.map fun (file, place) =>
        reportOn (max settings.windowLines 1) files pairs place file).flatten.map Prod.snd := by
  rw [duplicateBlocks, List.flatMap_def, List.map_flatten, List.map_map]
  refine congrArg List.flatten (List.map_congr_left fun entry _ => ?_)
  obtain ⟨file, place⟩ := entry
  dsimp only [Function.comp_apply]
  rw [reportOn, List.map_map]
  rfl

/-- Duplicated blocks are reported file by file, once for each maximal run of lines in duplicated
windows. -/
theorem duplicateBlocks_exact
    (settings : DuplicationSettings)
    (files : List CodeFile)
    (pairs : List (Nat × Nat))
    (normal : ∀ file ∈ files, file.IsNormal)
    (collisionFree : Digest.IsCollisionFree (windowTexts (max settings.windowLines 1) files)) :
    ∃ reports, IsAccount (max settings.windowLines 1) files pairs reports
      (duplicateBlocks settings files pairs) := by
  have positive : 1 ≤ max settings.windowLines 1 := Nat.le_max_right _ _
  have findings := duplicateBlocks_eq settings files pairs
  generalize max settings.windowLines 1 = size at *
  have reportAt {place : Nat} {file : CodeFile} (isFile : files[place]? = some file) :
      (files.zipIdx.map fun (file, place) => reportOn size files pairs place file)[place]? =
        some (reportOn size files pairs place file) := by
    rw [List.getElem?_map, List.getElem?_zipIdx, isFile]
    simp
  refine ⟨_, findings, by rw [List.length_map, List.length_zipIdx], ?_, ?_⟩
  · intro place file report isFile isReport
    rw [reportAt isFile] at isReport
    cases isReport
    exact isReport_reportOn positive normal collisionFree isFile
  · intro spot other lines isWindow isOther differ unreported either member
    have duplicated : ∃ twin, IsDuplicate size files pairs either twin := by
      rcases List.mem_pair.mp member with rfl | rfl
      · exact ⟨other, ⟨lines, isWindow, isOther⟩, Or.inl differ.symm, unreported⟩
      · rw [Nat.min_comm, Nat.max_comm] at unreported
        exact ⟨spot, ⟨lines, isOther, isWindow⟩, Or.inl differ, unreported⟩
    obtain ⟨file, isFile⟩ : ∃ file, files[either.file]? = some file := by
      obtain ⟨_, ⟨_, isEither, -⟩, -⟩ := duplicated
      obtain ⟨file, isFile, -⟩ := (windowAt?_eq_some_iff _ _ _ _).mp isEither
      exact ⟨file, isFile⟩
    exact ⟨_, reportAt isFile,
      (isReport_reportOn positive normal collisionFree isFile).complete _ duplicated⟩

/-- Two windows of the first file touch and make up one run, and the window between them occurs in
the second file. -/
theorem duplicateBlocks_exact_touching :
    let settings : DuplicationSettings := { windowLines := 2 }
    let sources : List Source :=
      [ ⟨"a.rs", "left();\nright();\n\n// again\nleft();\nright();\n"⟩,
        ⟨"b.rs", ")\n;\nright();\nleft();\nstop();\n"⟩ ]
    let files := sources.map CodeFile.ofSource
    Digest.IsCollisionFree (windowTexts 2 files) ∧
      (duplicateBlocks settings files []).map Finding.message =
        ["Lines 1-6 duplicate code at a.rs:5", "Lines 3-4 duplicate code at a.rs:2"] ∧
      ∃ reports, IsAccount 2 files [] reports (duplicateBlocks settings files []) := by
  intro settings sources files
  have normal : ∀ file ∈ files, file.IsNormal := by
    intro file member
    obtain ⟨source, -, rfl⟩ := List.mem_map.mp member
    exact CodeFile.isNormal_ofSource source
  have files_eq : files =
      [ ⟨"a.rs", "rs", [⟨1, "left();"⟩, ⟨2, "right();"⟩, ⟨5, "left();"⟩, ⟨6, "right();"⟩]⟩,
        ⟨"b.rs", "rs", [⟨3, "right();"⟩, ⟨4, "left();"⟩, ⟨5, "stop();"⟩]⟩ ] := by
    decide +kernel
  have collisionFree : Digest.IsCollisionFree (windowTexts 2 files) := by
    rw [files_eq]
    decide +kernel
  have messages : (duplicateBlocks settings files []).map Finding.message =
      ["Lines 1-6 duplicate code at a.rs:5", "Lines 3-4 duplicate code at a.rs:2"] := by
    rw [files_eq]
    -- an index by texts cannot be evaluated, but what it says is known
    simp only [duplicateBlocks, duplicatedStarts, getD_occurrences]
    decide +kernel
  exact ⟨collisionFree, messages, duplicateBlocks_exact settings files [] normal collisionFree⟩

end Duplication
end QualityGate
