import QualityGate.Proofs.Detector.Places
import QualityGate.Proofs.FileSet

/-!
# What a gate says about a file depends on that file

Every gate but the one that compares files with each other checks one file after the other.  So its
findings about some files of a set are the same, and in the same order, when these files are scanned
alone, whatever the other files hold.
-/

namespace QualityGate

/-! ## Checks of single files -/

/-- A check of one file by its path and its text; there is no text if the file cannot be read. -/
abbrev FileCheck := String → Option String → List Finding

namespace FileCheck

/-- A check of the texts of wanted files. -/
def ofSources (wanted : String → Bool) (check : Source → List Finding) : FileCheck :=
  fun path text? =>
    if wanted path then (text?.map (Source.mk path)).elim [] check else []

/-- A check of the paths of files, whether these can be read or not. -/
def ofPaths (check : String → Option Finding) : FileCheck :=
  fun path _ => (check path).toList

/-- The findings of a check that goes through the files of a set, each with the path of the file it
is about. -/
def attributed (check : FileCheck) (tree : Tree) (files : FileSet) : List (String × Finding) :=
  files.paths.flatMap fun path => (check path (tree.read path).toOption).map (Prod.mk path)

/-- Whatever the check finds about a file is shown under the name of that file. -/
def NamesFile (check : FileCheck) : Prop :=
  ∀ path text?, ∀ finding ∈ check path text?, finding.file = Location.display path

theorem namesFile_ofSources
    (wanted : String → Bool)
    {check : Source → List Finding}
    (named : ∀ source, ∀ finding ∈ check source, finding.file = source.display) :
    (ofSources wanted check).NamesFile := by
  intro path text? finding member
  unfold ofSources at member
  split at member
  · cases text? with
    | none => cases member
    | some text => exact named ⟨path, text⟩ finding member
  · cases member

/-- A check of sources goes through the files that are loaded. -/
theorem map_snd_attributed_ofSources
    (wanted : String → Bool)
    (check : Source → List Finding)
    (tree : Tree)
    (files : FileSet) :
    ((ofSources wanted check).attributed tree files).map Prod.snd =
      (Source.load tree files wanted).flatMap check := by
  rw [Source.load, Source.loadInBatches_eq, attributed, List.map_flatMap]
  induction files.paths with
  | nil => rfl
  | cons path rest inductionHypothesis =>
    rw [List.flatMap_cons, inductionHypothesis, ofSources]
    cases isWanted : wanted path with
    | false => simp [isWanted]
    | true =>
      cases read : tree.read path with
      | error fault => simp [isWanted, Source.read?, read, Except.toOption]
      | ok text => simp [isWanted, Source.read?, read, Except.toOption, Function.comp_def]

theorem map_snd_attributed_ofPaths
    (check : String → Option Finding)
    (tree : Tree)
    (files : FileSet) :
    ((ofPaths check).attributed tree files).map Prod.snd = files.paths.filterMap check := by
  rw [attributed, List.map_flatMap, List.filterMap_eq_flatMap_toList]
  apply List.flatMap_congr
  intro path _
  simp [ofPaths, Function.comp_def]

/-- What is said about some paths of a list is said when only these are gone through. -/
theorem flatMap_filter_eq_filter
    (keep : String → Bool)
    (findings : String → List Finding)
    (paths : List String) :
    ((paths.filter keep).flatMap fun path => (findings path).map (Prod.mk path)) =
      (paths.flatMap fun path => (findings path).map (Prod.mk path)).filter fun entry =>
        keep entry.1 := by
  induction paths with
  | nil => rfl
  | cons path rest inductionHypothesis =>
    rw [List.flatMap_cons, List.filter_append, ← inductionHypothesis, List.filter_map]
    cases kept : keep path with
    | false => simp [kept, Function.comp_def]
    | true => simp [kept, Function.comp_def]

/-- A check of some files of a set finds what it finds about them in the whole set. -/
theorem attributed_eq_filter
    (check : FileCheck)
    {tree other : Tree}
    {files part : FileSet}
    (chosen : part.paths = files.paths.filter fun path => part.paths.contains path)
    (same : ∀ path ∈ part.paths, (other.read path).toOption = (tree.read path).toOption) :
    check.attributed other part =
      (check.attributed tree files).filter fun entry => part.paths.contains entry.1 := by
  have inTree : check.attributed other part = check.attributed tree part := by
    apply List.flatMap_congr
    intro path member
    rw [same path member]
  rw [inTree, attributed, attributed, ← flatMap_filter_eq_filter, ← chosen]

end FileCheck

/-! ## Gates as checks of single files -/

namespace Gate

/-- The checks of a gate.  Each of them goes through all files before the next one begins.  The gate
that compares files with each other has none. -/
def checks (settings : Settings) (now : Instant) (baseline? : Option Size.Baseline) :
    Gate → List FileCheck
  | .naming =>
    [ .ofPaths (Naming.checkFileName settings.naming),
      .ofSources (fun path => settings.naming.checkSymbols && (Language.ofPath? path).isSome)
        (Naming.checkSymbols settings.naming) ]
  | .duplication => []
  | .godObject => [.ofSources Size.isSource (Size.checkFile settings.size baseline?)]
  | .hiddenTodo =>
    [ .ofSources (fun path => !Source.isProseOrData path)
        (HiddenTodo.analyze settings.hiddenTodo settings.placeholder.coverageWindow) ]
  | .documentation =>
    [ .ofSources (Documentation.isDocument settings.documentation)
        (Documentation.checkDocument settings.documentation) ]
  | .placeholder =>
    [ .ofSources (fun path => Placeholder.isArtifact path || !Source.isProseOrData path)
        (Placeholder.checkFile settings.placeholder now) ]

/-- The findings of a scan, each with the path of the file it is about. -/
def attributed
    (gate : Gate)
    (settings : Settings)
    (now : Instant)
    (tree : Tree)
    (files : FileSet) : List (String × Finding) :=
  (gate.checks settings now (Size.baselineOrNotice tree).1).flatMap fun check =>
    check.attributed tree files

variable {gate : Gate} {settings : Settings} {now : Instant}

/-- A scan consists of its checks. -/
theorem map_snd_attributed
    (single : gate ≠ .duplication)
    (tree : Tree)
    (files : FileSet) :
    (gate.attributed settings now tree files).map Prod.snd =
      (gate.scan settings now tree files).findings := by
  have ofSources (wanted : String → Bool) (check : Source → List Finding) :
      (([FileCheck.ofSources wanted check].flatMap fun check =>
        check.attributed tree files).map Prod.snd) =
          (Source.load tree files wanted).flatMap check := by
    rw [List.flatMap_singleton, FileCheck.map_snd_attributed_ofSources]
  cases gate with
  | naming =>
    rw [attributed, checks, List.flatMap_cons, List.map_append, ofSources,
      FileCheck.map_snd_attributed_ofPaths, scan, Naming.scan]
    cases settings.naming.checkSymbols with
    | false =>
      have nothing : Source.load tree files (fun _ => false) = [] := by
        simp [Source.load, Source.loadInBatches_eq]
      simp [nothing]
    | true => simp
  | duplication => exact absurd rfl single
  | godObject => exact ofSources ..
  | hiddenTodo => exact ofSources ..
  | documentation => exact ofSources ..
  | placeholder => exact ofSources ..

theorem namesFile_of_mem_checks
    {baseline? : Option Size.Baseline}
    {check : FileCheck}
    (member : check ∈ gate.checks settings now baseline?) :
    check.NamesFile := by
  cases gate with
  | naming =>
    rcases List.mem_pair.mp member with rfl | rfl
    · intro path _ finding made
      exact (Naming.isWithin_of_checkFileName (Option.mem_toList.mp made) 0).file_eq
    · apply FileCheck.namesFile_ofSources
      intro source finding made
      exact (Naming.isWithin_of_mem_checkSymbols made).file_eq
  | duplication => cases member
  | godObject =>
    rw [List.mem_singleton.mp member]
    apply FileCheck.namesFile_ofSources
    intro source finding made
    exact (Size.isWithin_of_mem_checkFile made).file_eq
  | hiddenTodo =>
    rw [List.mem_singleton.mp member]
    apply FileCheck.namesFile_ofSources
    intro source finding made
    exact (HiddenTodo.isWithin_of_mem_analyzeWith made).file_eq
  | documentation =>
    rw [List.mem_singleton.mp member]
    apply FileCheck.namesFile_ofSources
    intro source finding made
    exact (Documentation.isWithin_of_mem_checkDocument made).file_eq
  | placeholder =>
    rw [List.mem_singleton.mp member]
    apply FileCheck.namesFile_ofSources
    intro source finding made
    exact (Placeholder.isWithin_of_mem_checkFile made).file_eq

/-- A finding is attributed to a file of the set, under the name of which it is shown. -/
theorem about_of_mem_attributed
    {tree : Tree}
    {files : FileSet}
    {entry : String × Finding}
    (member : entry ∈ gate.attributed settings now tree files) :
    entry.1 ∈ files.paths ∧ entry.2.file = Location.display entry.1 := by
  obtain ⟨check, isCheck, found⟩ := List.mem_flatMap.mp member
  obtain ⟨path, isPath, made⟩ := List.mem_flatMap.mp found
  obtain ⟨finding, isFinding, rfl⟩ := List.mem_map.mp made
  exact ⟨isPath, namesFile_of_mem_checks isCheck path _ finding isFinding⟩

/-! ## Scans of some files -/

/-- What a scan of some files of a set has to do with a scan of the whole set in another state of
the project. -/
structure ScansAlike
    (gate : Gate)
    (settings : Settings)
    (now : Instant)
    (tree other : Tree)
    (files part : FileSet) : Prop where
  /-- All findings about the set are attributed to files. -/
  whole : (gate.attributed settings now tree files).map Prod.snd =
    (gate.scan settings now tree files).findings
  about : ∀ entry ∈ gate.attributed settings now tree files,
    entry.1 ∈ files.paths ∧ entry.2.file = Location.display entry.1
  /-- Those that are attributed to some of the files are found when these are scanned alone. -/
  part_eq : (gate.scan settings now other part).findings =
    ((gate.attributed settings now tree files).filter fun entry =>
      part.paths.contains entry.1).map Prod.snd
  /-- Where no other file is shown under the same name, they are known by the names they show. -/
  shown : (∀ path ∈ files.paths, ∀ chosen ∈ part.paths,
      Location.display path = Location.display chosen → path ∈ part.paths) →
    (gate.scan settings now other part).findings =
      (gate.scan settings now tree files).findings.filter fun finding =>
        (part.paths.map Location.display).contains finding.file

/-- The names that findings show tell to which files they are attributed. -/
theorem filter_attributed_eq
    {tree : Tree}
    {files part : FileSet}
    (distinct : ∀ path ∈ files.paths, ∀ chosen ∈ part.paths,
      Location.display path = Location.display chosen → path ∈ part.paths) :
    ((gate.attributed settings now tree files).filter fun entry =>
        part.paths.contains entry.1) =
      (gate.attributed settings now tree files).filter fun entry =>
        (part.paths.map Location.display).contains entry.2.file := by
  apply List.filter_congr
  intro entry member
  obtain ⟨isPath, file_eq⟩ := about_of_mem_attributed member
  rw [Bool.eq_iff_iff, List.contains_iff_mem, List.contains_iff_mem, List.mem_map, file_eq]
  constructor
  · intro chosen
    exact ⟨entry.1, chosen, rfl⟩
  · rintro ⟨chosen, isChosen, same⟩
    exact distinct entry.1 isPath chosen isChosen same.symm

/-- A gate that checks one file after the other finds the same about some files of a set, in the
same order, whether these are scanned alone or with the others, whatever the others hold. -/
theorem scan_part_alike
    (single : gate ≠ .duplication)
    (settings : Settings)
    (now : Instant)
    {given chosen : List String}
    (subset : (FileSet.ofList chosen).paths ⊆ (FileSet.ofList given).paths)
    {tree other : Tree}
    (same : ∀ path ∈ (FileSet.ofList chosen).paths,
      (other.read path).toOption = (tree.read path).toOption)
    (sameBaseline : Size.Baseline.load other = Size.Baseline.load tree) :
    ScansAlike gate settings now tree other (.ofList given) (.ofList chosen) := by
  have attributed_eq : gate.attributed settings now other (.ofList chosen) =
      (gate.attributed settings now tree (.ofList given)).filter fun entry =>
        (FileSet.ofList chosen).paths.contains entry.1 := by
    have baseline_eq : Size.baselineOrNotice other = Size.baselineOrNotice tree := by
      rw [Size.baselineOrNotice, sameBaseline, Size.baselineOrNotice]
    rw [attributed, attributed, baseline_eq, List.filter_flatMap]
    apply List.flatMap_congr
    intro check _
    exact check.attributed_eq_filter (FileSet.paths_eq_filter_of_subset subset) same
  refine ⟨map_snd_attributed single tree _, fun entry => about_of_mem_attributed, ?_, ?_⟩
  · rw [← attributed_eq, map_snd_attributed single]
  · intro distinct
    rw [← map_snd_attributed single, ← map_snd_attributed single, attributed_eq,
      filter_attributed_eq distinct, List.filter_map]
    rfl

/-- Hidden work in a file between one that is no text and one with hidden work of its own. -/
def crowdedTree : Tree :=
  ⟨"/project",
    [(["a.rs"], .file (.binary [0xff])), (["b.rs"], .file (.text "run();\n//todo\n")),
      (["c.rs"], .file (.text "//todo\n"))]⟩

/-- The file of the middle, with another one that has changed. -/
def clearedTree : Tree :=
  ⟨"/project",
    [(["a.rs"], .file (.text "//todo\n")), (["b.rs"], .file (.text "run();\n//todo\n"))]⟩

theorem scan_part_alike_of_changed_neighbours :
    let now : Instant := ⟨⟨2026, 5, 4⟩, 43200, 0⟩
    let files := FileSet.ofList ["c.rs", "b.rs", "a.rs"]
    let part := FileSet.ofList ["b.rs"]
    part.paths ⊆ files.paths ∧
      (∀ path ∈ part.paths,
        (clearedTree.read path).toOption = (crowdedTree.read path).toOption) ∧
      Size.Baseline.load clearedTree = Size.Baseline.load crowdedTree ∧
      (Gate.hiddenTodo.scan {} now clearedTree part).findings.map Finding.line? = [some 2] ∧
      ScansAlike .hiddenTodo {} now crowdedTree clearedTree files part := by
  intro now files part
  have normal : ∀ path ∈ ["c.rs", "b.rs", "a.rs"], Location.IsNormal path := by decide +kernel
  have subset : part.paths ⊆ files.paths := by
    intro path member
    rw [FileSet.mem_ofList_iff normal]
    simp [List.mem_singleton.mp (FileSet.mem_of_mem_ofList member)]
  have same : ∀ path ∈ part.paths,
      (clearedTree.read path).toOption = (crowdedTree.read path).toOption := by
    decide +kernel
  exact ⟨subset, same, rfl, by decide +kernel,
    scan_part_alike (by decide) {} now subset same rfl⟩

end Gate
end QualityGate
