import QualityGate.Detector.Duplication
import QualityGate.Proofs.Comment.Relayout

/-!
# Layout and duplication

Files that differ in the layout of their lines only, in blanks at the front and in comments behind
the code, have the same significant lines.  Duplication is reported on these lines, so no finding
appears, goes away or moves.
-/

namespace QualityGate
namespace Duplication

/-- Two files under one path that differ in the layout of their lines only. -/
structure RelaidSource (source other : Source) : Prop where
  path : other.path = source.path
  lines : Comment.Relaid (Profile.ofPath source.path).comments false source.lines other.lines

/-- Significant lines are told from the words of the code in each line. -/
theorem significantLines_eq_of_words
    (path : String)
    (lines : List String) :
    significantLines path lines =
      ((Comment.split (Profile.ofPath path).comments lines).map fun parts =>
        Text.words parts.code).zipIdx.filterMap fun (words, index) =>
          let text := String.intercalate " " words
          if leastSignificantBytes ≤ text.utf8ByteSize then some ⟨index + 1, text⟩ else none := by
  rw [List.zipIdx_map, List.filterMap_map]
  rfl

theorem RelaidSource.significantLines_eq
    {source other : Source}
    (relaid : RelaidSource source other) :
    significantLines other.path other.lines = significantLines source.path source.lines := by
  have carried : (Profile.ofPath source.path).comments.IsCarried := .inl ⟨source.path, rfl⟩
  have outside : false = true → (Profile.ofPath source.path).comments.block? ≠ none := nofun
  have words := relaid.lines.words_eq carried.mem_all outside
  rw [significantLines_eq_of_words, significantLines_eq_of_words, relaid.path, Comment.split,
    Comment.split, words]

theorem RelaidSource.ofSource_eq
    {source other : Source}
    (relaid : RelaidSource source other) :
    CodeFile.ofSource other = CodeFile.ofSource source := by
  rw [CodeFile.ofSource, CodeFile.ofSource, relaid.significantLines_eq, Source.display,
    Source.extension?, relaid.path]
  rfl

/-- The sources that a scan for duplication looks at. -/
def sourcesOf (tree : Tree) (files : FileSet) : List Source :=
  Source.load tree files fun path => (Language.ofPath? path).isSome

/-- Comments and layout hide no duplication: files that differ in nothing else have the same
significant lines under the same numbers, and a scan finds the same in them. -/
theorem scan_relaid
    {sources others : List Source}
    (relaid : List.Forall₂ RelaidSource sources others) :
    List.Forall₂ (fun source other =>
        significantLines other.path other.lines = significantLines source.path source.lines)
      sources others ∧
      (∀ settings, check settings (others.map CodeFile.ofSource) =
        check settings (sources.map CodeFile.ofSource)) ∧
      ∀ settings tree otherTree files, sourcesOf tree files = sources →
        sourcesOf otherTree files = others →
          scan settings otherTree files = scan settings tree files := by
  have reduced : others.map CodeFile.ofSource = sources.map CodeFile.ofSource := by
    rw [← List.forall₂_eq_eq_eq, List.forall₂_map_left_iff, List.forall₂_map_right_iff]
    exact (relaid.imp fun source other related => related.ofSource_eq).flip
  refine ⟨relaid.imp fun source other related => related.significantLines_eq, ?_, ?_⟩
  · intro settings
    rw [reduced]
  · intro settings tree otherTree files isSources isOthers
    change ScanResult.mk (check settings ((sourcesOf otherTree files).map CodeFile.ofSource)) [] =
      ⟨check settings ((sourcesOf tree files).map CodeFile.ofSource), []⟩
    rw [isSources, isOthers, reduced]

/-- A block that goes on over two lines, and a character literal with a quote of texts. -/
theorem scan_relaid_behind_block :
    let source : Source := ⟨"a.rs", "/* a\nb */ f();\ng('\"');\n"⟩
    let other : Source := ⟨"a.rs", "  /* a\n\tb */ f(); // \"\ng('\"');//x\n"⟩
    List.Forall₂ RelaidSource [source] [other] ∧
      significantLines other.path other.lines = significantLines source.path source.lines ∧
      significantLines source.path source.lines = [⟨2, "f();"⟩, ⟨3, "g('\"');"⟩] ∧
      ∀ settings, check settings [CodeFile.ofSource other] =
        check settings [CodeFile.ofSource source] := by
  intro source other
  let style := CommentStyle.slashesWithLifetimes
  have blank (spaces : String) (areBlank : spaces.toList.all Text.isBlank = true) :
      Text.AreBlank spaces.toList := List.all_eq_true.mp areBlank
  have indented : Comment.RelaidLine style false "/* a" "  /* a" :=
    @Comment.RelaidLine.indented style false "" "  " "/* a" (blank "" rfl) (blank "  " rfl)
  have inCode : Comment.EndsIn style true "b */ f();" .code :=
    ⟨_, .step (.closes rfl rfl) <| .step (.of_codeStep rfl rfl rfl) <|
      .step (.of_codeStep rfl rfl rfl) <| .step (.of_codeStep rfl rfl rfl) <|
      .step (.of_codeStep rfl rfl rfl) <| .step (.of_codeStep rfl rfl rfl) <| .done .code⟩
  have apart : Comment.RelaidLine style true "b */ f();" "\tb */ f(); // \"" :=
    @Comment.RelaidLine.commented style true "" "\t" " " "//" "b */ f();" " \""
      (blank "" rfl) (blank "\t" rfl) ⟨.inl inCode, fun _ => by decide +kernel⟩
      ⟨by decide, blank " " rfl, nofun⟩
  have behindLiteral : Comment.EndsIn style false "g('\"');" .code :=
    ⟨_, .step (.of_codeStep rfl rfl rfl) <| .step (.of_codeStep rfl rfl rfl) <|
      .step (.of_codeStep rfl rfl rfl) <| .step (.of_codeStep rfl rfl rfl) <|
      .step (.of_codeStep rfl rfl rfl) <| .done .code⟩
  have close : Comment.RelaidLine style false "g('\"');" "g('\"');//x" :=
    @Comment.RelaidLine.commented style false "" "" "" "//" "g('\"');" "x"
      (blank "" rfl) (blank "" rfl) ⟨.inl behindLiteral, fun _ => by decide +kernel⟩
      ⟨by decide, blank "" rfl, fun _ => by decide⟩
  have lines_eq : source.lines = ["/* a", "b */ f();", "g('\"');"] := by decide +kernel
  have others_eq : other.lines = ["  /* a", "\tb */ f(); // \"", "g('\"');//x"] := by
    decide +kernel
  have relaid : RelaidSource source other := by
    have style_eq : (Profile.ofPath source.path).comments = style := by decide +kernel
    have opened : (Comment.splitLine style false "/* a").2 = true := by decide +kernel
    have closed : (Comment.splitLine style true "b */ f();").2 = false := by decide +kernel
    refine ⟨rfl, ?_⟩
    rw [lines_eq, others_eq, style_eq]
    refine .cons indented ?_
    rw [opened]
    refine .cons apart ?_
    rw [closed]
    exact .cons close (.nil _)
  obtain ⟨same, findings, -⟩ := scan_relaid (.cons relaid .nil)
  refine ⟨.cons relaid .nil, (List.forall₂_cons.mp same).1, ?_, findings⟩
  decide +kernel

end Duplication
end QualityGate
