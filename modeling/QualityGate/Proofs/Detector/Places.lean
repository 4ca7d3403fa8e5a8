import QualityGate.Detector
import QualityGate.Proofs.Duplication.Regions
import QualityGate.Proofs.HiddenTodo.Grouping
import QualityGate.Proofs.Placeholder.Findings

/-!
# Where findings point

Every finding of a detector is one of its gate and about a file of the set.  If it names a line, the
file has that line.
-/

namespace QualityGate

/-- A source that was loaded is a text file of the set. -/
theorem Source.read_of_mem_load {tree : Tree} {files : FileSet} {wanted : String → Bool}
    {source : Source} (loaded : source ∈ load tree files wanted) :
    source.path ∈ files.paths ∧ tree.read source.path = .ok source.content := by
  rw [load, loadInBatches_eq] at loaded
  obtain ⟨path, isWanted, found⟩ := List.mem_filterMap.mp loaded
  unfold read? at found
  split at found
  · rename_i content read
    cases found
    exact ⟨(List.mem_filter.mp isWanted).1, read⟩
  · cases found

namespace Finding

/-! ## Places -/

/-- The finding is one of the gate about a file with so many lines, and the line that it names is
one of them. -/
structure IsWithin (gate : Gate) (file : String) (lineCount : Nat) (finding : Finding) : Prop where
  gate_eq : finding.gate = gate
  file_eq : finding.file = file
  inside : ∀ line, finding.line? = some line → 1 ≤ line ∧ line ≤ lineCount

theorem isWithin_ofFile (gate : Gate) (rule message file : String) (lineCount : Nat) :
    (ofFile gate rule message file).IsWithin gate file lineCount :=
  ⟨rfl, rfl, nofun⟩

section Changed

variable {gate : Gate} {file : String} {lineCount : Nat} {finding : Finding}
  (within : finding.IsWithin gate file lineCount)
include within

theorem IsWithin.withSeverity (severity : Severity) :
    (finding.withSeverity severity).IsWithin gate file lineCount :=
  ⟨within.gate_eq, within.file_eq, within.inside⟩

theorem IsWithin.withSuggestion (suggestion : String) :
    (finding.withSuggestion suggestion).IsWithin gate file lineCount :=
  ⟨within.gate_eq, within.file_eq, within.inside⟩

theorem IsWithin.atLine {line : Nat} (positive : 1 ≤ line) (atMost : line ≤ lineCount) :
    (finding.atLine line).IsWithin gate file lineCount := by
  refine ⟨within.gate_eq, within.file_eq, fun other named => ?_⟩
  cases named
  exact ⟨positive, atMost⟩

end Changed

/-- The finding is one of the gate about a file of the set, and the line that it names is one of
the lines of that file. -/
structure PointsAt (gate : Gate) (tree : Tree) (files : FileSet) (finding : Finding) : Prop where
  gate_eq : finding.gate = gate
  exists_path : ∃ path ∈ files.paths, finding.file = Location.display path ∧
    ∀ line, finding.line? = some line →
      ∃ content, tree.read path = .ok content ∧ 1 ≤ line ∧ line ≤ Text.lineCount content

/-- A source that was loaded is a file of the set. -/
theorem IsWithin.pointsAt {gate : Gate} {tree : Tree} {files : FileSet} {wanted : String → Bool}
    {source : Source} (loaded : source ∈ Source.load tree files wanted) {finding : Finding}
    (within : finding.IsWithin gate source.display source.lineCount) :
    finding.PointsAt gate tree files := by
  obtain ⟨isPath, read⟩ := Source.read_of_mem_load loaded
  exact ⟨within.gate_eq, source.path, isPath, within.file_eq,
    fun line named => ⟨source.content, read, within.inside line named⟩⟩

/-- A finding without a line about a file of the set. -/
theorem IsWithin.pointsAt_of_mem {gate : Gate} {tree : Tree} {files : FileSet} {path : String}
    (isPath : path ∈ files.paths) {finding : Finding}
    (within : finding.IsWithin gate (Location.display path) 0) :
    finding.PointsAt gate tree files := by
  refine ⟨within.gate_eq, path, isPath, within.file_eq, fun line named => ?_⟩
  -- no line is one of none
  have := within.inside line named
  omega

end Finding

open Finding

/-- The number of a line that was split is at most the number of lines. -/
theorem Comment.lt_of_mem_split {style : CommentStyle} {lines : List String} {parts : LineParts}
    {index : Nat} (member : (parts, index) ∈ (Comment.split style lines).zipIdx) :
    index < lines.length := by
  obtain ⟨inside, -⟩ := List.getElem?_eq_some_iff.mp (List.mk_mem_zipIdx_iff_getElem?.mp member)
  rwa [Comment.length_split] at inside

/-! ## Names -/

namespace Naming

theorem isWithin_of_checkFileName {settings : NamingSettings} {path : String} {finding : Finding}
    (made : checkFileName settings path = some finding) (lineCount : Nat) :
    finding.IsWithin .naming (Location.display path) lineCount := by
  obtain ⟨stem, -, made⟩ := Option.bind_eq_some_iff.mp made
  obtain ⟨modifier, -, made⟩ := Option.bind_eq_some_iff.mp made
  have within (message : String) := (isWithin_ofFile .naming "BANNED_MODIFIER_FILENAME" message
    (Location.display path) lineCount).withSeverity .error
  dsimp only at made
  split at made
  · cases made
    exact (within _).withSuggestion _
  · cases made
    exact within _

variable {settings : NamingSettings} {language : Language} {file : String} {finding : Finding}
  {line lineCount : Nat}

theorem isWithin_of_mem_checkSymbol {kind : SymbolKind} {name : String}
    (positive : 1 ≤ line) (atMost : line ≤ lineCount)
    (member : finding ∈ checkSymbol settings language file line kind name) :
    finding.IsWithin .naming file lineCount := by
  have within (rule message : String) :=
    (isWithin_ofFile .naming rule message file lineCount).atLine positive atMost
  unfold checkSymbol at member
  split at member
  · cases member
  · rcases List.mem_append.mp member with modified | unconventional
    · split at modified
      · cases modified
      · rw [List.mem_singleton.mp modified]
        exact (within _ _).withSeverity _
    · split at unconventional
      · cases unconventional
      · split at unconventional
        · cases unconventional
        · split at unconventional
          · cases unconventional
          · rw [List.mem_singleton.mp unconventional]
            exact (within _ _).withSeverity _

theorem isWithin_of_mem_checkCode {code : String} (positive : 1 ≤ line)
    (atMost : line ≤ lineCount) (member : finding ∈ checkCode settings language file line code) :
    finding.IsWithin .naming file lineCount := by
  unfold checkCode at member
  split at member
  · cases member
  · obtain ⟨⟨kind, pattern⟩, -, made⟩ := List.mem_flatMap.mp member
    dsimp only at made
    split at made
    · cases made
    · exact isWithin_of_mem_checkSymbol positive atMost made

theorem isWithin_of_mem_checkSymbols {source : Source}
    (member : finding ∈ checkSymbols settings source) :
    finding.IsWithin .naming source.display source.lineCount := by
  unfold checkSymbols at member
  split at member
  · cases member
  · obtain ⟨⟨parts, index⟩, isLine, made⟩ := List.mem_flatMap.mp member
    exact isWithin_of_mem_checkCode (Nat.succ_pos index) (Comment.lt_of_mem_split isLine) made

theorem pointsAt_of_mem_scan {tree : Tree} {files : FileSet}
    (member : finding ∈ (scan settings tree files).findings) :
    finding.PointsAt .naming tree files := by
  rcases List.mem_append.mp member with named | symbols
  · obtain ⟨path, isPath, made⟩ := List.mem_filterMap.mp named
    exact (isWithin_of_checkFileName made 0).pointsAt_of_mem isPath
  · split at symbols
    · obtain ⟨source, loaded, made⟩ := List.mem_flatMap.mp symbols
      exact (isWithin_of_mem_checkSymbols made).pointsAt loaded
    · cases symbols

end Naming

/-! ## Sizes -/

namespace Size

variable {settings : SizeSettings} {finding : Finding}

theorem isWithin_of_mem_checkFile {baseline? : Option Baseline} {source : Source}
    (member : finding ∈ checkFile settings baseline? source) :
    finding.IsWithin .godObject source.display source.lineCount := by
  have within (rule message : String) (severity : Severity) (suggestion : String) :=
    ((isWithin_ofFile .godObject rule message source.display source.lineCount).withSeverity
      severity).withSuggestion suggestion
  rcases List.mem_append.mp member with tier | regression
  · obtain ⟨_, -, rfl⟩ := Option.map_eq_some_iff.mp (Option.mem_toList.mp tier)
    exact within ..
  · obtain ⟨baseline, -, made⟩ := Option.bind_eq_some_iff.mp (Option.mem_toList.mp regression)
    unfold regressionFinding? at made
    dsimp only at made
    split at made
    · cases made
    · cases made
      exact within ..

end Size

/-! ## Documents -/

namespace Documentation

variable {file : String} {finding : Finding}

theorem isWithin_finding (rule message file : String) (lineCount : Nat) :
    (Documentation.finding rule message file).IsWithin .documentation file lineCount :=
  (isWithin_ofFile .documentation rule message file lineCount).withSeverity .error

theorem isWithin_of_mem_checkLine {line lineCount : Nat} {text : String} (positive : 1 ≤ line)
    (atMost : line ≤ lineCount) (member : finding ∈ checkLine file line text) :
    finding.IsWithin .documentation file lineCount := by
  obtain ⟨lineless, made, rfl⟩ := List.mem_map.mp member
  refine IsWithin.atLine ?_ positive atMost
  have within (rule message : String) := isWithin_finding rule message file lineCount
  simp only [List.mem_append] at made
  rcases made with (advertising | unfounded) | decorated
  · split at advertising
    · cases advertising
    · rw [List.mem_singleton.mp advertising]
      exact (within _ _).withSuggestion _
  · split at unfounded
    · cases unfounded
    · split at unfounded
      · cases unfounded
      · rw [List.mem_singleton.mp unfounded]
        exact (within _ _).withSuggestion _
  · split at decorated
    · cases decorated
    · rw [List.mem_singleton.mp decorated]
      exact within _ _

/-- The findings about lines stand on them. -/
theorem isWithin_of_mem_checkLinesFrom {first : Nat} {fenced : Bool} {lines : List String}
    (positive : 1 ≤ first) {lineCount : Nat} (atMost : first + lines.length ≤ lineCount + 1)
    (member : finding ∈ checkLinesFrom file first fenced lines) :
    finding.IsWithin .documentation file lineCount := by
  induction lines generalizing first fenced with
  | nil => cases member
  | cons text rest inductionHypothesis =>
    rw [List.length_cons] at atMost
    have further (fenced : Bool) (later : finding ∈ checkLinesFrom file (first + 1) fenced rest) :=
      inductionHypothesis (by omega) (by omega) later
    rw [checkLinesFrom] at member
    split at member
    · exact further _ member
    · split at member
      · exact further _ member
      · rcases List.mem_append.mp member with here | later
        · exact isWithin_of_mem_checkLine positive (by omega) here
        · exact further _ later

theorem isWithin_of_mem_checkDocument {settings : DocumentationSettings} {source : Source}
    (member : finding ∈ checkDocument settings source) :
    finding.IsWithin .documentation source.display source.lineCount := by
  rcases List.mem_append.mp member with misplaced | onLine
  · unfold checkPlace at misplaced
    split at misplaced
    · rw [List.mem_singleton.mp misplaced]
      exact (isWithin_finding ..).withSuggestion _
    · cases misplaced
  · exact isWithin_of_mem_checkLinesFrom (Nat.le_refl 1) (Nat.le_of_eq (Nat.add_comm ..)) onLine

end Documentation

/-! ## Hidden work -/

namespace HiddenTodo

/-- A line that is a hit is a line of the file. -/
theorem IsHit.inside {rules : RuleSet} {window : Nat} {source : Source} {line : Nat}
    (isHit : IsHit rules window source line) : 1 ≤ line ∧ line ≤ source.lineCount := by
  obtain ⟨-, rule, matched, -⟩ := isHit
  cases line with
  | zero => cases matched
  | succ index =>
    rw [rulesAt] at matched
    split at matched
    · cases matched
    · rename_i parts atIndex
      obtain ⟨inside, -⟩ := List.getElem?_eq_some_iff.mp atIndex
      rw [length_linesOf] at inside
      exact ⟨Nat.succ_pos index, inside⟩

theorem isWithin_of_mem_analyzeWith {rules : RuleSet} {settings : HiddenTodoSettings}
    {window : Nat} {source : Source} {finding : Finding}
    (member : finding ∈ analyzeWith rules settings window source) :
    finding.IsWithin .hiddenTodo source.display source.lineCount := by
  rw [analyzeWith_eq] at member
  obtain ⟨group, isGroup, made⟩ := List.mem_filterMap.mp member
  have grouping : IsGrouping rules window source (runs (hitsOf rules window source)) :=
    isGrouping_runs
  have reports := grouping.reports settings isGroup made
  refine ⟨reports.gate, reports.file, fun line named => ?_⟩
  rw [reports.line] at named
  obtain ⟨hit, isFirst, rfl⟩ := Option.map_eq_some_iff.mp named
  exact (grouping.hits group isGroup hit (List.mem_of_head? isFirst)).isHit.inside

end HiddenTodo

/-! ## Placeholders -/

namespace Placeholder

variable {settings : PlaceholderSettings} {now : Instant} {file : String} {finding : Finding}

theorem isWithin_finding (rule message file : String) (lineCount : Nat) :
    (Placeholder.finding rule message file).IsWithin .placeholder file lineCount :=
  (isWithin_ofFile .placeholder rule message file lineCount).withSeverity .error

theorem isWithin_atLine? {line? : Option Nat} {lineCount : Nat}
    (inside : ∀ line, line? = some line → 1 ≤ line ∧ line ≤ lineCount)
    (within : finding.IsWithin .placeholder file lineCount) :
    (atLine? line? finding).IsWithin .placeholder file lineCount := by
  cases line? with
  | none => exact within
  | some line =>
    obtain ⟨positive, atMost⟩ := inside line rfl
    exact within.atLine positive atMost

theorem isWithin_of_mem_checkDeclaration {line? : Option Nat} {lineCount : Nat}
    {declaration : Declaration}
    (inside : ∀ line, line? = some line → 1 ≤ line ∧ line ≤ lineCount)
    (member : finding ∈ checkDeclaration settings now file line? declaration) :
    finding.IsWithin .placeholder file lineCount := by
  obtain ⟨lineless, made, rfl⟩ := List.mem_map.mp member
  refine isWithin_atLine? inside ?_
  have within (rule message : String) := isWithin_finding rule message file lineCount
  simp only [List.mem_append] at made
  rcases made with (malformed | critical) | expired
  · split at malformed
    · cases malformed
    · rw [List.mem_singleton.mp malformed]
      exact within _ _
  · split at critical
    · cases critical
    · split at critical
      · cases critical
      · rw [List.mem_singleton.mp critical]
        exact (within _ _).withSuggestion _
  · split at expired
    · rw [List.mem_singleton.mp expired]
      exact within _ _
    · cases expired

theorem isWithin_of_mem_checkDeclarations {declared : List (Option Nat × Declaration)}
    {lineCount : Nat}
    (inside : ∀ entry ∈ declared, ∀ line, entry.1 = some line → 1 ≤ line ∧ line ≤ lineCount)
    (member : finding ∈ checkDeclarations settings now file declared) :
    finding.IsWithin .placeholder file lineCount := by
  rcases List.mem_append.mp member with about | budget
  · obtain ⟨entry, isEntry, made⟩ := List.mem_flatMap.mp about
    exact isWithin_of_mem_checkDeclaration (inside entry isEntry) made
  · rw [((mem_checkBudget_iff ..).mp budget).2]
    exact isWithin_finding ..

theorem isWithin_of_mem_readEntries {entries : List Json} (lineCount : Nat)
    (member : finding ∈ (readEntries file entries).1) :
    finding.IsWithin .placeholder file lineCount := by
  obtain ⟨⟨result, index⟩, -, made⟩ := List.mem_filterMap.mp member
  dsimp only at made
  split at made
  · cases made
  · cases made
    exact isWithin_finding ..

theorem isWithin_of_mem_checkStatus {status? : Option String} {count : Nat} (lineCount : Nat)
    (member : finding ∈ checkStatus file status? count) :
    finding.IsWithin .placeholder file lineCount := by
  unfold checkStatus at member
  dsimp only at member
  split at member
  · rw [List.mem_singleton.mp member]
    exact isWithin_finding ..
  · split at member
    · rw [List.mem_singleton.mp member]
      exact isWithin_finding ..
    · cases member

/-- The findings about an artifact name no line. -/
theorem isWithin_of_mem_checkMembers {members : List (String × Json)} (lineCount : Nat)
    (member : finding ∈ checkMembers settings now file members) :
    finding.IsWithin .placeholder file lineCount := by
  unfold checkMembers at member
  dsimp only at member
  split at member
  · cases member
  · simp only [List.mem_append] at member
    rcases member with (((shape | faulty) | status) | declared) | dangling
    · split at shape
      · cases shape
      · rw [List.mem_singleton.mp shape]
        exact isWithin_finding ..
      · cases shape
    · exact isWithin_of_mem_readEntries lineCount faulty
    · exact isWithin_of_mem_checkStatus lineCount status
    · refine isWithin_of_mem_checkDeclarations ?_ declared
      intro entry isEntry line named
      obtain ⟨declaration, -, rfl⟩ := List.mem_map.mp isEntry
      cases named
    · obtain ⟨promise, -, rfl⟩ := List.mem_map.mp dangling
      exact (isWithin_finding ..).withSuggestion _

theorem inside_of_inlineAt? {source : Source} {line : Nat} {inline : InlineDeclaration}
    (found : inlineAt? source line = some inline) : 1 ≤ line ∧ line ≤ source.lineCount := by
  obtain ⟨comment, isComment, -⟩ := Option.bind_eq_some_iff.mp found
  exact inside_of_commentAt? isComment

theorem isWithin_of_mem_checkPromises {coverage : Coverage} {lines : List LineParts}
    (member : finding ∈ checkPromises file coverage lines) :
    finding.IsWithin .placeholder file lines.length := by
  obtain ⟨⟨parts, index⟩, isLine, made⟩ := List.mem_filterMap.mp member
  obtain ⟨inside, -⟩ := List.getElem?_eq_some_iff.mp (List.mk_mem_zipIdx_iff_getElem?.mp isLine)
  dsimp only at made
  split at made
  · cases made
  · obtain ⟨text, -, rfl⟩ := Option.map_eq_some_iff.mp made
    exact ((isWithin_finding ..).atLine (Nat.succ_pos index) inside).withSuggestion _

theorem isWithin_of_mem_checkSource {source : Source}
    (member : finding ∈ checkSource settings now source) :
    finding.IsWithin .placeholder source.display source.lineCount := by
  rcases (mem_checkSource_iff finding).mp member with
    unreadable | ⟨line, declaration, declared, made⟩ | budget | promised
  · obtain ⟨inline, isInline, made⟩ := List.mem_filterMap.mp unreadable
    obtain ⟨line, found⟩ := (mem_declarationsIn_iff inline).mp isInline
    obtain ⟨positive, atMost⟩ := line_eq_of_inlineAt? found ▸ inside_of_inlineAt? found
    split at made
    · cases made
    · cases made
      exact (isWithin_finding ..).atLine positive atMost
  · obtain ⟨inline, found, -⟩ := Option.bind_eq_some_iff.mp declared
    refine isWithin_of_mem_checkDeclaration (fun other named => ?_) made
    cases named
    exact inside_of_inlineAt? found
  · rw [((mem_checkBudget_iff ..).mp budget).2]
    exact isWithin_finding ..
  · have within := isWithin_of_mem_checkPromises promised
    rwa [HiddenTodo.length_linesOf] at within

theorem isWithin_of_mem_checkFile {source : Source}
    (member : finding ∈ checkFile settings now source) :
    finding.IsWithin .placeholder source.display source.lineCount := by
  unfold checkFile at member
  split at member
  · unfold checkArtifact at member
    split at member
    · exact isWithin_of_mem_checkMembers _ member
    · cases member
  · exact isWithin_of_mem_checkSource member

end Placeholder

/-! ## Duplicates -/

namespace Duplication

variable {settings : DuplicationSettings} {files : List CodeFile} {finding : Finding}

/-- A significant line has the number of a line of the file. -/
theorem inside_of_mem_significantLines {path : String} {lines : List String} {line : CodeLine}
    (member : line ∈ significantLines path lines) :
    1 ≤ line.number ∧ line.number ≤ lines.length := by
  obtain ⟨⟨parts, index⟩, isLine, made⟩ := List.mem_filterMap.mp member
  dsimp only at made
  split at made
  · cases made
    exact ⟨Nat.succ_pos index, Comment.lt_of_mem_split isLine⟩
  · cases made

/-- A similar pair is one of places of files. -/
theorem exists_candidate_of_mem_similarAmong {leastLines : Nat} {threshold : Float}
    {pair : SimilarPair Float} {among : List Candidate}
    (member : pair ∈ similarAmong leastLines threshold among) :
    ∃ second ∈ among, pair.second = second.place := by
  induction among with
  | nil => cases member
  | cons first rest inductionHypothesis =>
    rcases List.mem_append.mp member with here | later
    · obtain ⟨second, isSecond, made⟩ := List.mem_filterMap.mp here
      obtain ⟨similarity, -, rfl⟩ := Option.map_eq_some_iff.mp made
      exact ⟨second, List.mem_cons_of_mem _ isSecond, rfl⟩
    · obtain ⟨second, isSecond, place_eq⟩ := inductionHypothesis later
      exact ⟨second, List.mem_cons_of_mem _ isSecond, place_eq⟩

theorem isWithin_pairFinding {leastLines : Nat} {threshold : Float} {pair : SimilarPair Float}
    (member : pair ∈ similarFiles leastLines threshold files) :
    ∃ file ∈ files, ∀ lineCount,
      (pairFinding files pair).IsWithin .duplication file.display lineCount := by
  obtain ⟨candidate, isCandidate, place_eq⟩ := exists_candidate_of_mem_similarAmong member
  obtain ⟨⟨file, place⟩, isFile, rfl⟩ := List.mem_map.mp isCandidate
  have atPlace := List.mk_mem_zipIdx_iff_getElem?.mp isFile
  have second_eq : files.getD pair.second default = file := by
    rw [place_eq, List.getD_eq_getElem?_getD, atPlace]
    rfl
  refine ⟨file, List.mem_of_getElem? atPlace, fun lineCount => ?_⟩
  unfold pairFinding
  rw [second_eq]
  exact ((isWithin_ofFile ..).withSeverity _).withSuggestion _

/-- A region of a file begins at one of its significant lines. -/
theorem exists_line_of_mem_regions {size place : Nat} (positive : 1 ≤ size)
    {pairs : List (Nat × Nat)} {file : CodeFile} (isFile : files[place]? = some file)
    {region : Region}
    (member : region ∈ regions size (duplicatedIn size files pairs place)) :
    ∃ line ∈ file.lines, file.lineNumber region.first = line.number := by
  obtain ⟨lines, isWindow, -⟩ :=
    (mem_duplicatedIn_iff positive place _ _).mp (mem_of_mem_regions member)
  obtain ⟨same, isSame, enough, -⟩ := (windowAt?_eq_some_iff _ _ _ _).mp isWindow
  rw [isFile] at isSame
  cases isSame
  dsimp only at enough
  have inside : region.first < file.lines.length := by omega
  exact ⟨_, List.getElem_mem inside, CodeFile.lineNumber_eq (List.getElem?_eq_getElem inside)⟩

theorem exists_of_mem_duplicateBlocks {pairs : List (Nat × Nat)}
    (member : finding ∈ duplicateBlocks settings files pairs) :
    ∃ file ∈ files, ∀ lineCount,
      (∀ line ∈ file.lines, 1 ≤ line.number ∧ line.number ≤ lineCount) →
      finding.IsWithin .duplication file.display lineCount := by
  obtain ⟨⟨file, place⟩, isFile, made⟩ := List.mem_flatMap.mp member
  obtain ⟨region, isRegion, rfl⟩ := List.mem_map.mp made
  have atPlace := List.mk_mem_zipIdx_iff_getElem?.mp isFile
  refine ⟨file, List.mem_of_getElem? atPlace, fun lineCount inside => ?_⟩
  obtain ⟨line, isLine, number_eq⟩ :=
    exists_line_of_mem_regions (Nat.le_max_right settings.windowLines 1) atPlace isRegion
  obtain ⟨positive, atMost⟩ := inside line isLine
  -- the region has a significant line at its start, so its number is not the one by default
  unfold regionFinding
  rw [number_eq]
  exact (((isWithin_ofFile ..).atLine positive atMost).withSeverity _).withSuggestion _

theorem exists_of_mem_check {sources : List Source}
    (member : finding ∈ check settings (sources.map CodeFile.ofSource)) :
    ∃ source ∈ sources, finding.IsWithin .duplication source.display source.lineCount := by
  rcases List.mem_append.mp member with similar | blocks
  · obtain ⟨pair, isPair, rfl⟩ := List.mem_map.mp similar
    obtain ⟨file, isFile, within⟩ := isWithin_pairFinding isPair
    obtain ⟨source, isSource, rfl⟩ := List.mem_map.mp isFile
    exact ⟨source, isSource, within _⟩
  · obtain ⟨file, isFile, within⟩ := exists_of_mem_duplicateBlocks blocks
    obtain ⟨source, isSource, rfl⟩ := List.mem_map.mp isFile
    exact ⟨source, isSource, within _ fun _ => inside_of_mem_significantLines⟩

end Duplication

/-! ## All gates -/

/-- Whatever the files hold, every finding of a scan is one of its gate, about a file of the set,
and at one of the lines of that file if at any. -/
theorem Gate.pointsAt_of_mem_findings {gate : Gate} {settings : Settings} {now : Instant}
    {tree : Tree} {files : FileSet} {finding : Finding}
    (member : finding ∈ (gate.scan settings now tree files).findings) :
    finding.PointsAt gate tree files := by
  cases gate with
  | naming => exact Naming.pointsAt_of_mem_scan member
  | duplication =>
    obtain ⟨source, loaded, within⟩ := Duplication.exists_of_mem_check member
    exact within.pointsAt loaded
  | godObject =>
    obtain ⟨source, loaded, made⟩ := List.mem_flatMap.mp member
    exact (Size.isWithin_of_mem_checkFile made).pointsAt loaded
  | hiddenTodo =>
    obtain ⟨source, loaded, made⟩ := List.mem_flatMap.mp member
    exact (HiddenTodo.isWithin_of_mem_analyzeWith made).pointsAt loaded
  | documentation =>
    obtain ⟨source, loaded, made⟩ := List.mem_flatMap.mp member
    exact (Documentation.isWithin_of_mem_checkDocument made).pointsAt loaded
  | placeholder =>
    obtain ⟨source, loaded, made⟩ := List.mem_flatMap.mp member
    exact (Placeholder.isWithin_of_mem_checkFile made).pointsAt loaded

/-- A file with a marker on its second line that declares nothing. -/
def bareMarker : Source :=
  ⟨"lib.rs", "run();\n// @placeholder\n"⟩

def bareMarkerTree : Tree :=
  ⟨"/project", [(["lib.rs"], .file (.text bareMarker.content))]⟩

theorem Gate.pointsAt_of_bare_marker :
    let now : Instant := ⟨⟨2026, 5, 4⟩, 43200, 0⟩
    ∃ finding ∈ (Gate.placeholder.scan {} now bareMarkerTree ⟨["lib.rs"]⟩).findings,
      finding.line? = some 2 ∧ finding.PointsAt .placeholder bareMarkerTree ⟨["lib.rs"]⟩ := by
  intro now
  have lines : (Placeholder.checkReadable bareMarker.display
      (Placeholder.declarationsIn (HiddenTodo.linesOf bareMarker))).map Finding.line? =
        [some 2] := by
    decide +kernel
  have loaded : bareMarker ∈ Source.load bareMarkerTree ⟨["lib.rs"]⟩ fun path =>
      Placeholder.isArtifact path || !Source.isProseOrData path := by
    decide +kernel
  have isSource : Placeholder.isArtifact bareMarker.path = false := by decide +kernel
  obtain ⟨finding, unreadable, onLine⟩ := List.mem_map.mp (lines ▸ List.mem_singleton_self _)
  have member : finding ∈ (Gate.placeholder.scan {} now bareMarkerTree ⟨["lib.rs"]⟩).findings := by
    refine List.mem_flatMap.mpr ⟨bareMarker, loaded, ?_⟩
    rw [Placeholder.checkFile, isSource]
    exact (Placeholder.mem_checkSource_iff finding).mpr (.inl unreadable)
  exact ⟨finding, member, onLine, Gate.pointsAt_of_mem_findings member⟩

end QualityGate
