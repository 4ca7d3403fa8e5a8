import QualityGate.Proofs.Detector.SingleLine
import QualityGate.Proofs.Json.PlainDecoder
import QualityGate.Proofs.Placeholder.Artifact
import QualityGate.Proofs.Placeholder.Findings
import Mathlib.Data.List.ReduceOption

/-!
# What findings about placeholders show

Findings about placeholders show the status of an artifact, the fields of declarations, and the keys
and texts of promises as they were decoded.  A decoded text may have line feeds, and then so may the
finding.  Nothing else that is shown has one: comments are parts of lines, and faults are told on a
single line.
-/

namespace QualityGate
namespace Placeholder

open HiddenTodo (linesOf coverageOf)
open Text (IsSingleLine)

/-! ## Shown texts -/

/-- The texts of a declaration that findings show. -/
def Declaration.shownTexts (declaration : Declaration) : List String :=
  [declaration.id?, declaration.scope?, declaration.impact?, declaration.expiry?].reduceOption

/-- The texts of a promise in an artifact that its finding shows. -/
def Promise.shownTexts (found : Promise) : List String :=
  Text.truncate 80 found.text :: found.path

/-- The texts of an artifact that findings show. -/
def shownOf (members : List (String × Json)) : List String :=
  (statusOf? members).toList ++ (declarationsOf members).flatMap Declaration.shownTexts ++
    (danglingIn members).flatMap Promise.shownTexts

/-- The decoded texts that findings about a file show. -/
def shownTexts (source : Source) : List String :=
  if isArtifact source.path then
    match Json.parse source.content with
    | .ok (.object members) => shownOf members
    | _ => []
  else (readIn source).flatMap fun read => read.2.shownTexts

/-! ## Declarations -/

namespace Declaration

theorem failsPlainly_decoder : decoder.FailsPlainly := by
  have nullable {name : String} (single : IsSingleLine name)
      (store : Option String → Declaration → Declaration) :
      Decoder.Field.FailsPlainly (.nullable name .text store) :=
    Decoder.Field.failsPlainly_nullable single Decoder.failsPlainly_text store
  refine Decoder.failsPlainly_record ?_ (by decide) default
  simp only [List.forall_mem_cons, List.not_mem_nil, false_imp_iff, implies_true, and_true]
  refine ⟨nullable (by decide) _, nullable (by decide) _, nullable (by decide) _,
    nullable (by decide) _, nullable (by decide) _, ⟨by decide, ?_⟩, nullable (by decide) _⟩
  -- that the note on the debt goes by a second name does not change how it is read
  exact (@nullable "debt_note" (by decide) _).decoder

theorem isSingleLine_of_mem_needed {declaration : Declaration} {field : String × Option String}
    (member : field ∈ declaration.needed) : IsSingleLine field.1 := by
  simp only [needed, List.mem_cons, List.not_mem_nil, or_false] at member
  rcases member with rfl | rfl | rfl | rfl | rfl <;> dsimp only <;> decide

theorem mem_shownTexts_iff {declaration : Declaration} {text : String} :
    text ∈ declaration.shownTexts ↔
      declaration.id? = some text ∨ declaration.scope? = some text ∨
        declaration.impact? = some text ∨ declaration.expiry? = some text := by
  simp [shownTexts, List.reduceOption_mem_iff, eq_comm]

section Shown

variable {declaration : Declaration}
variable (singles : ∀ text ∈ declaration.shownTexts, IsSingleLine text)
include singles

theorem isSingleLine_label : IsSingleLine declaration.label := by
  unfold label
  cases given : declaration.id? with
  | none => decide
  | some id => exact singles id (mem_shownTexts_iff.mpr (by simp [given]))

theorem isSingleLine_of_mem_problems {problem : String}
    (member : problem ∈ declaration.problems) : IsSingleLine problem := by
  simp only [problems, List.mem_append] at member
  rcases member with (missing | invalid) | unparseable
  · obtain ⟨field, isField, rfl⟩ := List.mem_map.mp missing
    have name := isSingleLine_of_mem_needed (List.mem_of_mem_filter isField)
    simp +decide [name]
  · split at invalid
    · cases invalid
    · rename_i impact given
      have shown := singles impact (mem_shownTexts_iff.mpr (by simp [given]))
      split at invalid
      · rw [List.mem_singleton.mp invalid]
        simp +decide [shown]
      · cases invalid
  · split at unparseable
    · cases unparseable
    · rename_i expiry given
      have shown := singles expiry (mem_shownTexts_iff.mpr (by simp [given]))
      split at unparseable
      · rw [List.mem_singleton.mp unparseable]
        simp +decide [shown]
      · cases unparseable

end Shown
end Declaration

/-- A scope on a single line is within critical scopes on a single line only. -/
theorem isSingleLine_of_nonDegradable? {settings : PlaceholderSettings} {scope critical : String}
    (single : IsSingleLine scope) (found : nonDegradable? settings scope = some critical) :
    IsSingleLine critical := by
  have within := List.find?_some found
  have wanted : IsSingleLine (Text.lower (Text.trim scope)) :=
    (Text.isSingleLine_lower_iff _).mpr single.trim
  rw [← Text.isSingleLine_lower_iff]
  rcases (isWithin_iff _ _).mp within with equal | ⟨separator, -, rest, equal⟩
  · rwa [← equal]
  · refine wanted.of_subset ?_
    rw [equal]
    exact List.subset_append_left _ _

theorem isSingleLine_of_mem_checkDeclaration
    {settings : PlaceholderSettings}
    {now : Instant}
    {file : String}
    {line? : Option Nat}
    {declaration : Declaration}
    (singles : ∀ text ∈ declaration.shownTexts, IsSingleLine text)
    {finding : Finding}
    (member : finding ∈ checkDeclaration settings now file line? declaration) :
    finding.IsSingleLine := by
  have label := declaration.isSingleLine_label singles
  obtain ⟨lineless, made, rfl⟩ := List.mem_map.mp member
  suffices shown : lineless.IsSingleLine by
    cases line? with
    | none => exact shown
    | some line => exact (lineless.isSingleLine_atLine_iff line).mpr shown
  simp only [List.mem_append] at made
  rcases made with (malformed | degraded) | expired
  · split at malformed
    · cases malformed
    · have problems : IsSingleLine (String.intercalate ", " declaration.problems) :=
        Text.IsSingleLine.intercalate (by decide) fun _ =>
          Declaration.isSingleLine_of_mem_problems singles
      rw [List.mem_singleton.mp malformed]
      simp +decide [Placeholder.finding, label, problems]
  · split at degraded
    · cases degraded
    · rename_i scope given
      have shown := singles scope (Declaration.mem_shownTexts_iff.mpr (by simp [given]))
      split at degraded
      · cases degraded
      · rename_i critical found
        have criticalSingle := isSingleLine_of_nonDegradable? shown found
        rw [List.mem_singleton.mp degraded]
        simp +decide [Placeholder.finding, label, shown, criticalSingle]
  · split at expired
    · have expiry : IsSingleLine (declaration.expiry?.getD "") := by
        cases given : declaration.expiry? with
        | none => decide
        | some expiry =>
          exact singles expiry (Declaration.mem_shownTexts_iff.mpr (by simp [given]))
      rw [List.mem_singleton.mp expired]
      simp +decide [Placeholder.finding, label, expiry]
    · cases expired

theorem isSingleLine_of_mem_checkBudget
    {settings : PlaceholderSettings}
    {file : String}
    {declarations : List Declaration}
    {finding : Finding}
    (member : finding ∈ checkBudget settings file declarations) :
    finding.IsSingleLine := by
  rw [((mem_checkBudget_iff file declarations finding).mp member).2]
  simp +decide [Placeholder.finding]

/-! ## Artifacts -/

section Artifact

variable {settings : PlaceholderSettings} {now : Instant} {file : String} {finding : Finding}

theorem isSingleLine_of_mem_checkEntry {entry : Json × Nat}
    (member : finding ∈ checkEntry file entry) : finding.IsSingleLine := by
  unfold checkEntry at member
  split at member
  · cases member
  · rename_i cause unread
    have plain : IsSingleLine cause.message := Declaration.failsPlainly_decoder.fromJson unread
    rw [List.mem_singleton.mp member]
    simp +decide [Placeholder.finding, plain]

theorem isSingleLine_of_mem_checkStatus {status? : Option String} {count : Nat}
    (singles : ∀ status ∈ status?, IsSingleLine status)
    (member : finding ∈ checkStatus file status? count) : finding.IsSingleLine := by
  have status : IsSingleLine (status?.getD "<missing>") := by
    cases status? with
    | none => decide
    | some status => exact singles status rfl
  unfold checkStatus at member
  dsimp only at member
  split at member
  · rw [List.mem_singleton.mp member]
    simp +decide [Placeholder.finding]
  split at member
  · rw [List.mem_singleton.mp member]
    simp +decide [Placeholder.finding, status]
  · cases member

theorem isSingleLine_promiseFinding {found : Promise}
    (singles : ∀ text ∈ found.shownTexts, IsSingleLine text) :
    (promiseFinding file found).IsSingleLine := by
  obtain ⟨text, path⟩ := List.forall_mem_cons.mp singles
  have keys : IsSingleLine (String.intercalate "." found.path) :=
    Text.IsSingleLine.intercalate (by decide) path
  simp +decide [promiseFinding, Placeholder.finding, text, keys]

theorem isSingleLine_of_mem_checkMembers {members : List (String × Json)}
    (singles : ∀ text ∈ shownOf members, IsSingleLine text)
    (member : finding ∈ checkMembers settings now file members) : finding.IsSingleLine := by
  by_cases artifact : IsArtifactDocument members
  · simp only [shownOf, List.forall_mem_append, List.forall_mem_flatMap, Option.mem_toList]
      at singles
    obtain ⟨⟨status, declarations⟩, promises⟩ := singles
    simp only [checkMembers_eq settings now file artifact, List.mem_append] at member
    rcases member with (((shape | entries) | mismatch) | declared | budget) | promised
    · unfold checkShape at shape
      split at shape
      · rw [List.mem_singleton.mp shape]
        simp +decide [Placeholder.finding]
      · cases shape
    · obtain ⟨entry, -, made⟩ := List.mem_flatMap.mp entries
      exact isSingleLine_of_mem_checkEntry made
    · exact isSingleLine_of_mem_checkStatus status mismatch
    · obtain ⟨declaration, isDeclaration, made⟩ := List.mem_flatMap.mp declared
      exact isSingleLine_of_mem_checkDeclaration (declarations declaration isDeclaration) made
    · exact isSingleLine_of_mem_checkBudget budget
    · obtain ⟨found, isDangling, rfl⟩ := List.mem_map.mp promised
      exact isSingleLine_promiseFinding (promises found isDangling)
  · rw [checkMembers_eq_nil settings now file members artifact] at member
    cases member

end Artifact

/-! ## Source files -/

section Source

variable {settings : PlaceholderSettings} {now : Instant} {source : Source} {finding : Finding}

theorem isSingleLine_of_mem_checkReadable {file : String}
    (member : finding ∈ checkReadable file (declarationsIn (linesOf source))) :
    finding.IsSingleLine := by
  obtain ⟨inline, isInline, made⟩ := List.mem_filterMap.mp member
  split at made
  · cases made
  · rename_i message unread
    obtain ⟨line, found⟩ := (mem_declarationsIn_iff inline).mp isInline
    obtain ⟨comment, -, inComment⟩ := Option.bind_eq_some_iff.mp found
    obtain ⟨parts, -, rfl⟩ := Option.map_eq_some_iff.mp inComment
    have plain : IsSingleLine message := by
      dsimp only at unread
      split at unread
      · cases unread
        decide
      · cases result : Declaration.decoder.parse (bodyOf parts.2) with
        | ok declaration =>
          rw [result] at unread
          cases unread
        | error fault =>
          rw [result] at unread
          cases unread
          exact Declaration.failsPlainly_decoder.parse result
    cases made
    simp +decide [Placeholder.finding, plain]

theorem isSingleLine_of_mem_checkPromises {file : String} {coverage : Coverage}
    (member : finding ∈ checkPromises file coverage (linesOf source)) : finding.IsSingleLine := by
  obtain ⟨⟨parts, index⟩, isLine, made⟩ := List.mem_filterMap.mp member
  dsimp only at made
  split at made
  · cases made
  · obtain ⟨text, found, rfl⟩ := Option.map_eq_some_iff.mp made
    have comment := (Comment.isSingleLine_of_mem_split (.inl ⟨source.path, rfl⟩)
      (List.fst_mem_of_mem_zipIdx isLine)).2
    have shown := (comment.findText? found).trim
    simp +decide [danglingFinding, Placeholder.finding, shown]

theorem isSingleLine_of_mem_checkSource
    (singles : ∀ read ∈ readIn source, ∀ text ∈ read.2.shownTexts, IsSingleLine text)
    (member : finding ∈ checkSource settings now source) : finding.IsSingleLine := by
  rcases (mem_checkSource_iff finding).mp member with
    unread | ⟨line, declaration, declared, made⟩ | budget | promised
  · exact isSingleLine_of_mem_checkReadable unread
  · have isRead := (mem_readIn_iff (some line) declaration).mpr ⟨line, rfl, declared⟩
    exact isSingleLine_of_mem_checkDeclaration (singles _ isRead) made
  · exact isSingleLine_of_mem_checkBudget budget
  · exact isSingleLine_of_mem_checkPromises promised

/-- A finding about placeholders has a line feed only if one of the decoded texts has one. -/
theorem isSingleLine_of_mem_checkFile
    (singles : ∀ text ∈ shownTexts source, IsSingleLine text)
    (member : finding ∈ checkFile settings now source) : finding.IsSingleLine := by
  unfold checkFile at member
  unfold shownTexts at singles
  split at member
  · rename_i artifact
    rw [if_pos artifact] at singles
    unfold checkArtifact at member
    split at member
    · rename_i members read
      rw [read] at singles
      exact isSingleLine_of_mem_checkMembers singles member
    · cases member
  · rename_i other
    rw [if_neg other] at singles
    exact isSingleLine_of_mem_checkSource (List.forall_mem_flatMap.mp singles) member

end Source
end Placeholder
end QualityGate
