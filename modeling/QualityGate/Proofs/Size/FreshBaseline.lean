import QualityGate.Detector.Size.Scan

/-!
# Sizes that were just recorded

Sizes are recorded under the paths that findings show, and files may be shown alike: then the last
one takes the place of all.  Apart from that a file is compared with itself, so files that have not
changed since their sizes were recorded are no regressions.  A long file is reported as one
nevertheless if its record was taken by a short file.
-/

namespace QualityGate
namespace Size

/-- The finding is a regression. -/
def IsRegression (finding : Finding) : Prop :=
  finding.rule = "GOD_OBJECT_REGRESSION"

/-- The last source that is shown in a given way. -/
def lastShown? (sources : List Source) (shown : String) : Option Source :=
  sources.reverse.find? fun source => source.display == shown

/-- A source that is there is recorded, perhaps through another one that is shown alike. -/
theorem exists_lastShown?
    {sources : List Source}
    {source : Source}
    (member : source ∈ sources) :
    ∃ last ∈ sources, lastShown? sources source.display = some last ∧
      last.display = source.display := by
  have found : (sources.reverse.find? fun other => other.display == source.display).isSome :=
    List.find?_isSome.mpr ⟨source, List.mem_reverse.mpr member, by simp⟩
  obtain ⟨last, isLast⟩ := Option.isSome_iff_exists.mp found
  have alike := List.find?_some isLast
  exact ⟨last, List.mem_reverse.mp (List.mem_of_find?_eq_some isLast), isLast,
    beq_iff_eq.mp alike⟩

/-! ## Recorded sizes -/

theorem find?_map_display (sources : List Source) (shown : String) :
    Dictionary.find? shown (sources.map fun source => (source.display, source.lineCount)) =
      (sources.find? fun source => source.display == shown).map Source.lineCount := by
  induction sources with
  | nil => rfl
  | cons source others inductionHypothesis =>
    rw [List.map_cons, Dictionary.find?_cons, inductionHypothesis, List.find?_cons]
    by_cases same : shown = source.display
    · simp [same]
    · simp [same, beq_false_of_ne (Ne.symm same)]

/-- The recorded size of a file is that of the last source that is shown like it. -/
theorem linesFor_capture (tree : Tree) (files : FileSet) (now : Instant) (shown : String) :
    (Baseline.capture tree files now).linesFor shown =
      ((lastShown? (Source.load tree files isSource) shown).map Source.lineCount).getD 0 := by
  unfold Baseline.linesFor Baseline.capture measure lastShown?
  rw [Dictionary.find?_ofList, ← List.map_reverse, find?_map_display]

/-! ## Regressions -/

theorem not_isRegression_of_mem_tierFinding?
    {settings : SizeSettings}
    {file : String}
    {lines : Nat}
    {finding : Finding}
    (isTier : finding ∈ tierFinding? settings file lines) :
    ¬IsRegression finding := by
  obtain ⟨tier, -, rfl⟩ := Option.map_eq_some_iff.mp isTier
  change tier.rule ≠ "GOD_OBJECT_REGRESSION"
  cases tier <;> decide

theorem exists_isRegression_regressionFinding?_iff
    (settings : SizeSettings)
    (baseline : Baseline)
    (file : String)
    (lines : Nat) :
    (∃ finding ∈ regressionFinding? settings baseline file lines, IsRegression finding) ↔
      blockingThreshold settings ≤ lines ∧
        baseline.linesFor file < blockingThreshold settings := by
  unfold regressionFinding?
  dsimp only
  split
  · rename_i below
    simp only [Bool.or_eq_true, decide_eq_true_eq] at below
    simp only [Option.not_mem_none, false_and, exists_false, false_iff]
    omega
  · rename_i crossed
    simp only [Bool.or_eq_true, decide_eq_true_eq] at crossed
    exact iff_of_true ⟨_, rfl, rfl⟩ (by omega)

/-- A file is a regression exactly if it has reached the blocking size and was recorded below it. -/
theorem exists_isRegression_checkFile_iff
    (settings : SizeSettings)
    (baseline : Baseline)
    (source : Source) :
    (∃ finding ∈ checkFile settings (some baseline) source, IsRegression finding) ↔
      blockingThreshold settings ≤ source.lineCount ∧
        baseline.linesFor source.display < blockingThreshold settings := by
  rw [← exists_isRegression_regressionFinding?_iff]
  refine exists_congr fun finding => and_congr_left fun isRegression => ?_
  rw [checkFile, List.mem_append, Option.mem_toList, Option.mem_toList]
  exact or_iff_right fun isTier => not_isRegression_of_mem_tierFinding? isTier isRegression

/-- Files that have not changed since their sizes were recorded are reported as regressions exactly
where a file of at least the blocking size is shown like a later one below that size.  If no two
files are shown alike there are no regressions. -/
theorem scan_fresh_baseline
    (settings : SizeSettings)
    {tree scanned : Tree}
    {files : FileSet}
    {now : Instant}
    (unchanged : Source.load scanned files isSource = Source.load tree files isSource)
    (kept : Baseline.load scanned = .ok (some (Baseline.capture tree files now))) :
    let sources := Source.load tree files isSource
    let findings := (scan settings scanned files).findings
    ((∃ finding ∈ findings, IsRegression finding) ↔
        ∃ source ∈ sources, ∃ last ∈ lastShown? sources source.display,
          blockingThreshold settings ≤ source.lineCount ∧
            last.lineCount < blockingThreshold settings) ∧
      ((∀ first ∈ sources, ∀ second ∈ sources, first.display = second.display → first = second) →
        ∀ finding ∈ findings, ¬IsRegression finding) := by
  intro sources findings
  have findings_eq :
      findings = sources.flatMap (checkFile settings (some (Baseline.capture tree files now))) := by
    simp only [findings, scan, baselineOrNotice, kept, unchanged, sources]
  have regressions : (∃ finding ∈ findings, IsRegression finding) ↔
      ∃ source ∈ sources, ∃ last ∈ lastShown? sources source.display,
        blockingThreshold settings ≤ source.lineCount ∧
          last.lineCount < blockingThreshold settings := by
    rw [findings_eq]
    constructor
    · rintro ⟨finding, listed, isRegression⟩
      obtain ⟨source, member, found⟩ := List.mem_flatMap.mp listed
      obtain ⟨last, -, isLast, -⟩ := exists_lastShown? member
      obtain ⟨long, short⟩ := (exists_isRegression_checkFile_iff settings _ source).mp
        ⟨finding, found, isRegression⟩
      rw [linesFor_capture, isLast] at short
      exact ⟨source, member, last, isLast, long, short⟩
    · rintro ⟨source, member, last, isLast, long, short⟩
      obtain ⟨finding, found, isRegression⟩ :=
        (exists_isRegression_checkFile_iff settings (Baseline.capture tree files now) source).mpr
          ⟨long, by rwa [linesFor_capture, isLast]⟩
      exact ⟨finding, List.mem_flatMap.mpr ⟨source, member, found⟩, isRegression⟩
  refine ⟨regressions, fun distinct finding listed isRegression => ?_⟩
  obtain ⟨source, member, last, isLast, long, short⟩ :=
    regressions.mp ⟨finding, listed, isRegression⟩
  obtain ⟨same, there, isSame, alike⟩ := exists_lastShown? member
  rw [Option.mem_def, isSame] at isLast
  cases isLast
  rw [distinct _ there _ member alike] at short
  omega

/-- Two files are shown alike, and the record of the long one is taken by the short one: the long
one is reported although nothing has changed. -/
theorem scan_fresh_baseline_of_files_shown_alike :
    let settings : SizeSettings := { warningLines := 1, criticalLines := 2, crisisLines := 3 }
    let sources : List (List String × Node) :=
      [(["a"], .folder), (["a", "b.rs"], .file (.text "x\ny\n")),
        (["a\\b.rs"], .file (.text "x\n"))]
    let files : FileSet := ⟨["a/b.rs", "a\\b.rs"]⟩
    let recorded := Baseline.capture ⟨"/project", sources⟩ files ⟨⟨2026, 5, 4⟩, 43200, 0⟩
    let scanned : Tree := ⟨"/project", sources ++ [([".qgate"], .folder),
      ([".qgate", "god-object-baseline.json"], .file (.text recorded.render))]⟩
    Baseline.load scanned = .ok (some recorded) ∧
      ∃ finding ∈ (scan settings scanned files).findings, IsRegression finding := by
  intro settings sources files recorded scanned
  have unchanged : Source.load scanned files isSource =
      Source.load ⟨"/project", sources⟩ files isSource := by decide +kernel
  have kept : Baseline.load scanned = .ok (some recorded) := by
    have loaded : (Baseline.load scanned).toOption = some (some recorded) := by decide +kernel
    cases read : Baseline.load scanned with
    | error failure => simp [read, Except.toOption] at loaded
    | ok baseline? => simpa [read, Except.toOption] using loaded
  refine ⟨kept, (scan_fresh_baseline settings unchanged kept).1.mpr ?_⟩
  exact ⟨⟨"a/b.rs", "x\ny\n"⟩, by decide +kernel, ⟨"a\\b.rs", "x\n"⟩, by decide +kernel,
    by decide +kernel, by decide +kernel⟩

end Size
end QualityGate
