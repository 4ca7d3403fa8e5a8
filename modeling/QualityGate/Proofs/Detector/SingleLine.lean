import QualityGate.Detector
import QualityGate.Proofs.Comment.Factorization
import QualityGate.Proofs.HiddenTodo.Grouping
import QualityGate.Proofs.Location
import QualityGate.Proofs.Naming.Words
import QualityGate.Proofs.Text.SingleLine

/-!
# Findings on a single line

What findings about names, duplicates, sizes, hidden work and documents show is taken from names of
files and from single lines.  So none of them has a line feed, as long as the names have none.
-/

namespace QualityGate

open Text (IsSingleLine)

/-! ## What findings show -/

namespace Location

theorem isSingleLine_display {path : String} (single : IsSingleLine path) :
    IsSingleLine (display path) := by
  rw [display, Text.replace, Text.onCharacters, Text.isSingleLine_ofList_iff, List.mem_map]
  rintro ⟨character, inside, equal⟩
  split at equal
  · cases equal
  · exact single (equal ▸ inside)

/-- A name on the way to a file is a piece of its path. -/
theorem isSingleLine_fileName? {path name : String} (single : IsSingleLine path)
    (found : fileName? path = some name) : IsSingleLine name := by
  obtain ⟨component, last, named⟩ := Option.bind_eq_some_iff.mp found
  have isName : name ∈ names path :=
    List.mem_filterMap.mpr ⟨component, List.mem_of_getLast? last, named⟩
  rw [names_eq] at isName
  obtain ⟨component, isComponent, named⟩ := List.mem_filterMap.mp isName
  obtain ⟨piece, isPiece, made⟩ := List.mem_filterMap.mp isComponent
  have piece_eq : piece = name := by
    unfold ofPiece at made
    split at made
    · cases made
    · split at made <;> cases made <;> cases named
      rfl
  exact piece_eq ▸ single.of_mem_splitWhere isPiece

theorem isSingleLine_stem? {path stem : String} (single : IsSingleLine path)
    (found : stem? path = some stem) : IsSingleLine stem := by
  obtain ⟨name, isName, rfl⟩ := Option.map_eq_some_iff.mp found
  have nameSingle := isSingleLine_fileName? single isName
  unfold splitName
  dsimp only
  split
  · exact nameSingle
  · rw [Text.isSingleLine_ofList_iff]
    exact fun inside => nameSingle (List.take_subset _ _ inside)

end Location

/-- The code and the comment of a line are on a single line. -/
theorem Comment.isSingleLine_of_mem_split {style : CommentStyle} (carried : style.IsCarried)
    {content : String} {parts : LineParts} (member : parts ∈ split style (Text.lines content)) :
    IsSingleLine parts.code ∧ IsSingleLine parts.comment := by
  obtain ⟨index, inside, rfl⟩ := List.mem_iff_getElem.mp member
  have inLines : index < (Text.lines content).length := by rwa [length_split] at inside
  have lines_eq : Text.lines content = (Text.lines content).take index ++
      (Text.lines content)[index] :: (Text.lines content).drop (index + 1) := by
    rw [List.cons_getElem_drop_succ, List.take_append_drop]
  have single := Text.isSingleLine_of_mem_lines (List.getElem_mem inLines)
  obtain ⟨found, parts, -, atIndex, factors⟩ := split_factors carried
    ((Text.lines content).take index) (Text.lines content)[index]
    ((Text.lines content).drop (index + 1))
  rw [← lines_eq, List.length_take_of_le inLines.le, List.getElem?_eq_getElem inside,
    Option.some.injEq] at atIndex
  rw [atIndex]
  refine ⟨single.of_subset factors.code_inOrder.subset, ?_⟩
  -- besides characters of the line, the comment has spaces where blocks end
  rw [IsSingleLine, factors.comment, List.mem_flatMap]
  rintro ⟨piece, isPiece, inPiece⟩
  unfold spacedText at inPiece
  split at inPiece
  · refine single ?_
    rw [← factors.source]
    exact List.mem_flatMap.mpr ⟨piece, isPiece, inPiece⟩
  · split at inPiece
    · cases List.mem_singleton.mp inPiece
    · cases inPiece

namespace Finding

/-- Neither the rule nor the message of a finding has a line feed. -/
structure IsSingleLine (finding : Finding) : Prop where
  rule : Text.IsSingleLine finding.rule
  message : Text.IsSingleLine finding.message

@[simp] theorem isSingleLine_ofFile_iff (gate : Gate) (rule message file : String) :
    (ofFile gate rule message file).IsSingleLine ↔
      Text.IsSingleLine rule ∧ Text.IsSingleLine message :=
  ⟨fun single => ⟨single.rule, single.message⟩, fun both => ⟨both.1, both.2⟩⟩

section Changed

variable (finding : Finding)

@[simp] theorem isSingleLine_atLine_iff (line : Nat) :
    (finding.atLine line).IsSingleLine ↔ finding.IsSingleLine :=
  ⟨fun single => ⟨single.rule, single.message⟩, fun single => ⟨single.rule, single.message⟩⟩

@[simp] theorem isSingleLine_withSeverity_iff (severity : Severity) :
    (finding.withSeverity severity).IsSingleLine ↔ finding.IsSingleLine :=
  ⟨fun single => ⟨single.rule, single.message⟩, fun single => ⟨single.rule, single.message⟩⟩

@[simp] theorem isSingleLine_withSuggestion_iff (suggestion : String) :
    (finding.withSuggestion suggestion).IsSingleLine ↔ finding.IsSingleLine :=
  ⟨fun single => ⟨single.rule, single.message⟩, fun single => ⟨single.rule, single.message⟩⟩

end Changed
end Finding

/-! ## Names -/

namespace Naming

theorem isSingleLine_of_mem_segments {name word : String} (single : IsSingleLine name)
    (member : word ∈ segments name) : IsSingleLine word := by
  obtain ⟨chunk, isChunk, rfl⟩ := List.mem_map.mp member
  rw [Text.isSingleLine_lower_iff, Text.isSingleLine_ofList_iff]
  intro inside
  have kept : '\n' ∈ (nameChunks name.toList).flatten := List.mem_flatten.mpr ⟨chunk, isChunk, inside⟩
  rw [(divides_nameChunks name.toList).flatten_eq] at kept
  exact single (List.mem_of_mem_filter kept)

theorem mem_of_bannedAmong? {settings : NamingSettings} {words : List String} {modifier : String}
    (found : bannedAmong? settings words = some modifier) : modifier ∈ words := by
  unfold bannedAmong? at found
  split at found
  · cases found
  · exact List.mem_of_find?_eq_some found

theorem mem_segments_of_symbolModifier? {settings : NamingSettings} {kind : SymbolKind}
    {name modifier : String} (found : symbolModifier? settings kind name = some modifier) :
    modifier ∈ segments name := by
  cases kind with
  | type => exact mem_of_bannedAmong? found
  | function =>
    simp only [symbolModifier?] at found
    split at found
    · cases found
    · exact List.mem_of_getLast? (Option.filter_eq_some_iff.mp found).1

theorem isSingleLine_of_checkFileName {settings : NamingSettings} {path : String}
    (single : IsSingleLine path) {finding : Finding}
    (made : checkFileName settings path = some finding) : finding.IsSingleLine := by
  obtain ⟨stem, isStem, made⟩ := Option.bind_eq_some_iff.mp made
  obtain ⟨modifier, banned, made⟩ := Option.bind_eq_some_iff.mp made
  have stemSingle := Location.isSingleLine_stem? single isStem
  have modifierSingle := isSingleLine_of_mem_segments stemSingle (mem_of_bannedAmong? banned)
  dsimp only at made
  split at made <;> cases made <;> simp +decide [stemSingle, modifierSingle]

variable {settings : NamingSettings} {language : Language} {file : String} {line : Nat}
  {finding : Finding}

theorem isSingleLine_of_mem_checkSymbol {kind : SymbolKind} {name : String}
    (single : IsSingleLine name)
    (member : finding ∈ checkSymbol settings language file line kind name) :
    finding.IsSingleLine := by
  have title : IsSingleLine kind.title := by cases kind <;> decide
  have label : IsSingleLine kind.label := by cases kind <;> decide
  have languageName : IsSingleLine language.name := by cases language <;> decide
  unfold checkSymbol at member
  split at member
  · cases member
  · rcases List.mem_append.mp member with modified | unconventional
    · split at modified
      · cases modified
      · rename_i modifier found
        have modifierSingle := isSingleLine_of_mem_segments single
          (mem_segments_of_symbolModifier? found)
        rw [List.mem_singleton.mp modified]
        simp +decide [title, single, modifierSingle]
    · split at unconventional
      · cases unconventional
      · split at unconventional
        · cases unconventional
        · rename_i convention _
          split at unconventional
          · cases unconventional
          · have conventionLabel : IsSingleLine convention.label := by cases convention <;> decide
            rw [List.mem_singleton.mp unconventional]
            simp +decide [languageName, label, single, conventionLabel]

theorem isSingleLine_of_mem_checkSymbols {source : Source}
    (member : finding ∈ checkSymbols settings source) : finding.IsSingleLine := by
  unfold checkSymbols at member
  split at member
  · cases member
  · rename_i language _
    obtain ⟨⟨parts, index⟩, isLine, made⟩ := List.mem_flatMap.mp member
    have carried : language.comments.IsCarried := .inr ⟨some language, rfl⟩
    have codeSingle := (Comment.isSingleLine_of_mem_split carried
      (List.fst_mem_of_mem_zipIdx isLine)).1
    unfold checkCode at made
    dsimp only at made
    split at made
    · cases made
    · obtain ⟨⟨kind, pattern⟩, -, made⟩ := List.mem_flatMap.mp made
      dsimp only at made
      split at made
      · cases made
      · rename_i name declared
        obtain ⟨found, -, named⟩ := Option.bind_eq_some_iff.mp declared
        obtain ⟨bounds, -, rfl⟩ := Option.map_eq_some_iff.mp named
        exact isSingleLine_of_mem_checkSymbol (codeSingle.stretch bounds) made

end Naming

/-! ## Sizes -/

theorem Size.isSingleLine_of_mem_checkFile {settings : SizeSettings} {baseline? : Option Baseline}
    {source : Source} {finding : Finding} (member : finding ∈ checkFile settings baseline? source) :
    finding.IsSingleLine := by
  rcases List.mem_append.mp member with large | regression
  · obtain ⟨tier, -, rfl⟩ := Option.map_eq_some_iff.mp (Option.mem_toList.mp large)
    have rule : IsSingleLine tier.rule := by cases tier <;> decide
    simp +decide [rule]
  · obtain ⟨baseline, -, made⟩ := Option.bind_eq_some_iff.mp (Option.mem_toList.mp regression)
    unfold regressionFinding? at made
    dsimp only at made
    split at made
    · cases made
    · cases made
      simp +decide

/-! ## Documents -/

namespace Documentation

theorem ne_lineFeed_of_isDecorative {character : Char} (decorative : isDecorative character = true) :
    character ≠ '\n' := by
  rintro rfl
  exact absurd decorative (by decide)

theorem isSingleLine_of_mem_checkLine {file text : String} {line : Nat} {finding : Finding}
    (single : IsSingleLine text) (member : finding ∈ checkLine file line text) :
    finding.IsSingleLine := by
  obtain ⟨lineless, made, rfl⟩ := List.mem_map.mp member
  rw [Finding.isSingleLine_atLine_iff]
  simp only [List.mem_append] at made
  rcases made with (advertising | unfounded) | decorated
  · split at advertising
    · cases advertising
    · rename_i words found
      have wordsSingle := single.findText? found
      rw [List.mem_singleton.mp advertising]
      simp +decide [Documentation.finding, wordsSingle]
  · split at unfounded
    · cases unfounded
    · rename_i words found
      have wordsSingle := single.findText? found
      split at unfounded
      · cases unfounded
      · rw [List.mem_singleton.mp unfounded]
        simp +decide [Documentation.finding, wordsSingle]
  · split at decorated
    · cases decorated
    · rename_i first others symbols
      have isSymbol : first ∈ text.toList.filter isDecorative := by
        rw [symbols]
        exact List.mem_cons_self
      have firstSingle := (Text.isSingleLine_singleton_iff first).mpr
        (ne_lineFeed_of_isDecorative (List.mem_filter.mp isSymbol).2)
      have more : IsSingleLine
          (if others.isEmpty then "" else " and " ++ Text.decimal others.length ++ " more") := by
        split
        · decide
        · simp +decide
      rw [List.mem_singleton.mp decorated]
      simp +decide only [Documentation.finding, Finding.isSingleLine_withSeverity_iff,
        Finding.isSingleLine_ofFile_iff, Text.isSingleLine_append_iff, firstSingle, more]

theorem isSingleLine_of_mem_checkLinesFrom {file : String} {first : Nat} {fenced : Bool}
    {texts : List String} (singles : ∀ text ∈ texts, IsSingleLine text) {finding : Finding}
    (member : finding ∈ checkLinesFrom file first fenced texts) : finding.IsSingleLine := by
  induction texts generalizing first fenced with
  | nil => cases member
  | cons text rest inductionHypothesis =>
    obtain ⟨single, restSingles⟩ := List.forall_mem_cons.mp singles
    rw [checkLinesFrom] at member
    split at member
    · exact inductionHypothesis restSingles member
    · split at member
      · exact inductionHypothesis restSingles member
      · rcases List.mem_append.mp member with here | later
        · exact isSingleLine_of_mem_checkLine single here
        · exact inductionHypothesis restSingles later

theorem isSingleLine_of_mem_checkDocument {settings : DocumentationSettings} {source : Source}
    {finding : Finding} (member : finding ∈ checkDocument settings source) :
    finding.IsSingleLine := by
  rcases List.mem_append.mp member with misplaced | onLine
  · unfold checkPlace at misplaced
    split at misplaced
    · rw [List.mem_singleton.mp misplaced]
      simp +decide [Documentation.finding]
    · cases misplaced
  · exact isSingleLine_of_mem_checkLinesFrom (fun _ => Text.isSingleLine_of_mem_lines) onLine

end Documentation

/-! ## Hidden work -/

namespace HiddenTodo

theorem isSingleLine_messageOf {category : Category} {lead : Hit}
    (codeSingle : IsSingleLine lead.code) (commentSingle : IsSingleLine lead.comment)
    (count : Nat) : IsSingleLine (messageOf category lead count) := by
  have shown : IsSingleLine (shownText category lead) := by
    unfold shownText
    split
    · exact codeSingle.trim
    · rw [Text.isSingleLine_ofList_iff]
      exact fun inside =>
        commentSingle (List.dropWhile_subset _ (Text.strip_subset _ inside))
  have more : IsSingleLine
      (if 1 < count then " (+" ++ Text.decimal (count - 1) ++ " more lines)" else "") := by
    split
    · simp +decide
    · decide
  have snippetSingle : IsSingleLine (snippet (shownText category lead)) := shown.truncate 80
  unfold messageOf
  dsimp only
  split <;> simp +decide [snippetSingle, more]

theorem isSingleLine_of_mem_analyzeWith {rules : RuleSet} {settings : HiddenTodoSettings}
    {window : Nat} {source : Source} {finding : Finding}
    (member : finding ∈ analyzeWith rules settings window source) : finding.IsSingleLine := by
  rw [analyzeWith_eq] at member
  obtain ⟨group, isGroup, made⟩ := List.mem_filterMap.mp member
  have grouping : IsGrouping rules window source (runs (hitsOf rules window source)) :=
    isGrouping_runs
  obtain ⟨category, lead, -, rule_eq, isLead, -, message_eq⟩ :=
    (grouping.reports settings isGroup made).message
  obtain ⟨parts, atLine, comment_eq, code_eq, -⟩ := (grouping.hits group isGroup lead isLead).parts
  obtain ⟨codeSingle, commentSingle⟩ :=
    Comment.isSingleLine_of_mem_split (.inl ⟨source.path, rfl⟩) (List.mem_of_getElem? atLine)
  constructor
  · have known : ∀ category : Category, ∀ rule ∈ category.findingRule?, IsSingleLine rule := by
      intro category
      cases category <;> simp +decide
    exact known category finding.rule rule_eq
  · rw [message_eq]
    exact isSingleLine_messageOf (code_eq ▸ codeSingle) (comment_eq ▸ commentSingle) _

end HiddenTodo

/-! ## Duplicates -/

namespace Duplication

theorem isSingleLine_of_mem_check {settings : DuplicationSettings} {files : List CodeFile}
    (singles : ∀ file ∈ files, IsSingleLine file.display) {finding : Finding}
    (member : finding ∈ check settings files) : finding.IsSingleLine := by
  have shown (place : Nat) : IsSingleLine (files[place]?.getD default).display := by
    cases atPlace : files[place]? with
    | none => decide
    | some file => exact singles file (List.mem_of_getElem? atPlace)
  rcases List.mem_append.mp member with similar | blocks
  · obtain ⟨pair, -, rfl⟩ := List.mem_map.mp similar
    simp +decide [pairFinding, shown]
  · obtain ⟨⟨file, place⟩, -, made⟩ := List.mem_flatMap.mp blocks
    obtain ⟨region, -, rfl⟩ := List.mem_map.mp made
    simp +decide [regionFinding, shown]

end Duplication
end QualityGate
