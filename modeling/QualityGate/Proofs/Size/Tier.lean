import QualityGate.Proofs.Settings
import QualityGate.Proofs.Size.FreshBaseline

/-!
# Tiers, errors and regressions

Three limits in increasing order part the sizes into tiers, and the mode decides which of them is
the blocking size.  From that size on, and only there, a file is reported as an error; it is a
regression as well if it was recorded below that size.  In crisis mode the blocking size is larger,
so no file becomes an error by it.
-/

namespace QualityGate
namespace Size

namespace Tier

/-- The tiers from the lowest one to the highest one. -/
def rank : Tier → Nat
  | .warning => 0
  | .critical => 1
  | .crisis => 2

theorem rule_injective {tier other : Tier} (same : tier.rule = other.rule) : tier = other := by
  revert same
  cases tier <;> cases other <;> decide

section Sizes

variable {settings : SizeSettings}

/-- A longer file is in no lower tier. -/
theorem exists_rank_le_of_le
    {fewer more : Nat}
    (grows : fewer ≤ more)
    {tier : Tier}
    (atFewer : ofLines? settings fewer = some tier) :
    ∃ higher, ofLines? settings more = some higher ∧ tier.rank ≤ higher.rank := by
  unfold ofLines? at atFewer ⊢
  split at atFewer
  · cases atFewer
    exact ⟨.crisis, if_pos (by omega), le_refl _⟩
  · split at atFewer
    · cases atFewer
      split
      · exact ⟨_, rfl, by decide⟩
      · exact ⟨.critical, if_pos (by omega), le_refl _⟩
    · split at atFewer
      · cases atFewer
        split
        · exact ⟨_, rfl, by decide⟩
        · split
          · exact ⟨_, rfl, by decide⟩
          · exact ⟨.warning, if_pos (by omega), le_refl _⟩
      · cases atFewer

/-- The tier of a size is an error exactly from the blocking size on. -/
theorem exists_severity_eq_error_iff
    (ordered : settings.criticalLines ≤ settings.crisisLines)
    (lines : Nat) :
    (∃ tier, ofLines? settings lines = some tier ∧ tier.severity settings = .error) ↔
      blockingThreshold settings ≤ lines := by
  unfold ofLines? blockingThreshold
  cases mode : settings.crisisMode with
  | false =>
    rw [if_neg Bool.false_ne_true]
    split
    · exact iff_of_true ⟨_, rfl, rfl⟩ (by omega)
    · split
      · exact iff_of_true ⟨_, rfl, by simp [severity, mode]⟩ ‹_›
      · refine iff_of_false ?_ ‹_›
        split <;> simp [severity]
  | true =>
    rw [if_pos rfl]
    split
    · exact iff_of_true ⟨_, rfl, rfl⟩ ‹_›
    · refine iff_of_false ?_ ‹_›
      split
      · simp [severity, mode]
      · split <;> simp [severity]

end Sizes
end Tier

/-! ## Findings about one file -/

/-- The finding is an error. -/
def IsError (finding : Finding) : Prop :=
  finding.severity? = some .error

/-- The finding is about a tier. -/
def isTier (finding : Finding) : Bool :=
  [Tier.warning, .critical, .crisis].any fun tier => finding.rule == tier.rule

theorem isTier_iff (finding : Finding) :
    isTier finding = true ↔ ∃ tier : Tier, finding.rule = tier.rule := by
  simp only [isTier, List.any_cons, List.any_nil, Bool.or_false, Bool.or_eq_true, beq_iff_eq]
  constructor
  · rintro (isWarning | isCritical | isCrisis)
    · exact ⟨_, isWarning⟩
    · exact ⟨_, isCritical⟩
    · exact ⟨_, isCrisis⟩
  · rintro ⟨tier, about⟩
    cases tier
    · exact Or.inl about
    · exact Or.inr (Or.inl about)
    · exact Or.inr (Or.inr about)

section File

variable {settings : SizeSettings} {baseline? : Option Baseline} {source : Source}
  {finding : Finding}

theorem mem_checkFile_iff :
    finding ∈ checkFile settings baseline? source ↔
      finding ∈ tierFinding? settings source.display source.lineCount ∨
        ∃ baseline ∈ baseline?,
          finding ∈ regressionFinding? settings baseline source.display source.lineCount := by
  rw [checkFile, List.mem_append, Option.mem_toList, Option.mem_toList]
  exact or_congr_right Option.bind_eq_some_iff

/-- A finding about a tier is about the tier of the size, with its severity. -/
theorem exists_tier_of_mem_tierFinding?
    {file : String}
    {lines : Nat}
    (member : finding ∈ tierFinding? settings file lines) :
    ∃ tier, Tier.ofLines? settings lines = some tier ∧ finding.rule = tier.rule ∧
      finding.severity? = some (tier.severity settings) ∧ finding.file = file := by
  obtain ⟨tier, isReached, rfl⟩ := Option.map_eq_some_iff.mp member
  exact ⟨tier, isReached, rfl, rfl, rfl⟩

/-- The tier of the size is reported. -/
theorem exists_mem_tierFinding?
    {lines : Nat}
    {tier : Tier}
    (isReached : Tier.ofLines? settings lines = some tier)
    (file : String) :
    ∃ finding ∈ tierFinding? settings file lines, finding.rule = tier.rule ∧
      finding.severity? = some (tier.severity settings) := by
  rw [tierFinding?, isReached]
  exact ⟨_, rfl, rfl, rfl⟩

theorem isRegression_of_mem_regressionFinding?
    {baseline : Baseline}
    {file : String}
    {lines : Nat}
    (member : finding ∈ regressionFinding? settings baseline file lines) :
    IsRegression finding ∧ IsError finding ∧ finding.file = file := by
  unfold regressionFinding? at member
  dsimp only at member
  split at member
  · cases member
  · cases member
    exact ⟨rfl, rfl, rfl⟩

theorem isTier_eq_false_of_isRegression (isRegression : IsRegression finding) :
    isTier finding = false := by
  rw [isTier, isRegression]
  decide

theorem isTier_of_mem_tierFinding?
    {file : String}
    {lines : Nat}
    (member : finding ∈ tierFinding? settings file lines) :
    isTier finding = true := by
  obtain ⟨tier, -, about, -⟩ := exists_tier_of_mem_tierFinding? member
  exact (isTier_iff finding).mpr ⟨tier, about⟩

/-- Whatever else is reported is no tier. -/
theorem mem_tierFinding?_of_isTier
    (member : finding ∈ checkFile settings baseline? source)
    (about : isTier finding = true) :
    finding ∈ tierFinding? settings source.display source.lineCount := by
  rcases mem_checkFile_iff.mp member with isOfTier | ⟨_, -, crossed⟩
  · exact isOfTier
  · rw [isTier_eq_false_of_isRegression (isRegression_of_mem_regressionFinding? crossed).1] at about
    cases about

/-- Findings about a file show that file. -/
theorem file_of_mem_checkFile (member : finding ∈ checkFile settings baseline? source) :
    finding.file = source.display := by
  rcases mem_checkFile_iff.mp member with isOfTier | ⟨_, -, crossed⟩
  · obtain ⟨_, -, -, -, file_eq⟩ := exists_tier_of_mem_tierFinding? isOfTier
    exact file_eq
  · exact (isRegression_of_mem_regressionFinding? crossed).2.2

/-- A tier is reported about a file exactly if its size is in it. -/
theorem exists_rule_eq_iff (tier : Tier) :
    (∃ finding ∈ checkFile settings baseline? source, finding.rule = tier.rule) ↔
      Tier.ofLines? settings source.lineCount = some tier := by
  constructor
  · rintro ⟨finding, member, about⟩
    have isOfTier := mem_tierFinding?_of_isTier member ((isTier_iff finding).mpr ⟨tier, about⟩)
    obtain ⟨reached, isReached, rule_eq, -⟩ := exists_tier_of_mem_tierFinding? isOfTier
    rwa [Tier.rule_injective (about.symm.trans rule_eq)]
  · intro isReached
    obtain ⟨finding, isOfTier, about, -⟩ := exists_mem_tierFinding? isReached source.display
    exact ⟨finding, mem_checkFile_iff.mpr (Or.inl isOfTier), about⟩

/-- A tier is reported as an error exactly from the blocking size on. -/
theorem exists_isTier_and_isError_iff
    (ordered : settings.criticalLines ≤ settings.crisisLines) :
    (∃ finding ∈ checkFile settings baseline? source, isTier finding = true ∧ IsError finding) ↔
      blockingThreshold settings ≤ source.lineCount := by
  rw [← Tier.exists_severity_eq_error_iff ordered]
  constructor
  · rintro ⟨finding, member, about, isError⟩
    obtain ⟨tier, isReached, -, severity_eq, -⟩ :=
      exists_tier_of_mem_tierFinding? (mem_tierFinding?_of_isTier member about)
    exact ⟨tier, isReached, Option.some.inj (severity_eq.symm.trans isError)⟩
  · rintro ⟨tier, isReached, isError⟩
    obtain ⟨finding, isOfTier, -, severity_eq⟩ := exists_mem_tierFinding? isReached source.display
    exact ⟨finding, mem_checkFile_iff.mpr (Or.inl isOfTier), isTier_of_mem_tierFinding? isOfTier,
      severity_eq.trans (congrArg some isError)⟩

/-- A regression is reported exactly if there are recorded sizes and the file, which was below the
blocking size, has reached it. -/
theorem exists_isRegression_iff :
    (∃ finding ∈ checkFile settings baseline? source, IsRegression finding) ↔
      ∃ baseline ∈ baseline?, baseline.linesFor source.display < blockingThreshold settings ∧
        blockingThreshold settings ≤ source.lineCount := by
  cases baseline? with
  | none =>
    refine iff_of_false ?_ (by simp)
    rintro ⟨finding, member, isRegression⟩
    rcases mem_checkFile_iff.mp member with isOfTier | ⟨_, recorded, -⟩
    · exact not_isRegression_of_mem_tierFinding? isOfTier isRegression
    · cases recorded
  | some baseline =>
    rw [exists_isRegression_checkFile_iff]
    simp [and_comm]

/-- An error is reported exactly from the blocking size on. -/
theorem exists_isError_iff
    (ordered : settings.criticalLines ≤ settings.crisisLines) :
    (∃ finding ∈ checkFile settings baseline? source, IsError finding) ↔
      blockingThreshold settings ≤ source.lineCount := by
  constructor
  · rintro ⟨finding, member, isError⟩
    rcases mem_checkFile_iff.mp member with isOfTier | ⟨_, -, crossed⟩
    · exact (exists_isTier_and_isError_iff ordered).mp
        ⟨finding, member, isTier_of_mem_tierFinding? isOfTier, isError⟩
    · obtain ⟨_, -, -, reached⟩ := exists_isRegression_iff.mp
        ⟨finding, member, (isRegression_of_mem_regressionFinding? crossed).1⟩
      exact reached
  · intro reached
    obtain ⟨finding, member, -, isError⟩ := (exists_isTier_and_isError_iff ordered).mpr reached
    exact ⟨finding, member, isError⟩

/-- What is reported about a file agrees with the blocking size. -/
structure Agrees
    (settings : SizeSettings)
    (baseline? : Option Baseline)
    (source : Source) : Prop where
  /-- At most one tier is reported. -/
  single : (checkFile settings baseline? source).countP isTier ≤ 1
  /-- A tier is reported as an error from the blocking size on, and not before. -/
  severe : (∃ finding ∈ checkFile settings baseline? source,
      isTier finding = true ∧ IsError finding) ↔
    blockingThreshold settings ≤ source.lineCount
  /-- A regression needs recorded sizes, in which a file that is missing counts as empty. -/
  crossed : (∃ finding ∈ checkFile settings baseline? source, IsRegression finding) ↔
    ∃ baseline ∈ baseline?,
      (Dictionary.find? source.display baseline.files).getD 0 < blockingThreshold settings ∧
        blockingThreshold settings ≤ source.lineCount
  /-- A regression does not stand alone. -/
  accompanied : ∀ finding ∈ checkFile settings baseline? source, IsRegression finding →
    ∃ other ∈ checkFile settings baseline? source,
      isTier other = true ∧ IsError other ∧ other.file = finding.file

theorem agrees (ordered : settings.criticalLines ≤ settings.crisisLines) :
    Agrees settings baseline? source where
  single := by
    rw [checkFile, List.countP_append]
    have few : (tierFinding? settings source.display source.lineCount).toList.countP isTier ≤ 1 :=
      List.countP_le_length.trans (by cases tierFinding? .. <;> simp)
    have none : (baseline?.bind fun baseline => regressionFinding? settings baseline source.display
        source.lineCount).toList.countP isTier = 0 := by
      rw [List.countP_eq_zero]
      intro finding member
      obtain ⟨baseline, -, crossed⟩ := Option.bind_eq_some_iff.mp (Option.mem_toList.mp member)
      rw [isTier_eq_false_of_isRegression (isRegression_of_mem_regressionFinding? crossed).1]
      exact Bool.false_ne_true
    omega
  severe := exists_isTier_and_isError_iff ordered
  crossed := exists_isRegression_iff
  accompanied := by
    intro finding member isRegression
    obtain ⟨_, -, -, reached⟩ := exists_isRegression_iff.mp ⟨finding, member, isRegression⟩
    obtain ⟨other, isOther, about, isError⟩ := (exists_isTier_and_isError_iff ordered).mpr reached
    exact ⟨other, isOther, about, isError,
      (file_of_mem_checkFile isOther).trans (file_of_mem_checkFile member).symm⟩

/-- In crisis mode no file is an error that is none otherwise. -/
theorem exists_isError_of_crisisMode
    (ordered : settings.criticalLines ≤ settings.crisisLines)
    (isError : ∃ finding ∈ checkFile { settings with crisisMode := true } baseline? source,
      IsError finding) :
    ∃ finding ∈ checkFile { settings with crisisMode := false } baseline? source,
      IsError finding := by
  let inMode (mode : Bool) : SizeSettings := { settings with crisisMode := mode }
  have blocks_iff (mode : Bool) :
      (∃ finding ∈ checkFile (inMode mode) baseline? source, IsError finding) ↔
        blockingThreshold (inMode mode) ≤ source.lineCount := exists_isError_iff ordered
  have inCrisis : settings.crisisLines ≤ source.lineCount := (blocks_iff true).mp isError
  exact (blocks_iff false).mpr (ordered.trans inCrisis)

end File

/-! ## Scans -/

theorem mem_baselineOrNotice_iff (tree : Tree) (baseline : Baseline) :
    baseline ∈ (baselineOrNotice tree).1 ↔ Baseline.load tree = .ok (some baseline) := by
  unfold baselineOrNotice
  cases Baseline.load tree with
  | error failure => simp
  | ok baseline? => cases baseline? <;> simp [eq_comm]

theorem mem_scan_iff
    {settings : SizeSettings}
    {tree : Tree}
    {files : FileSet}
    {finding : Finding} :
    finding ∈ (scan settings tree files).findings ↔
      ∃ source ∈ Source.load tree files isSource,
        finding ∈ checkFile settings (baselineOrNotice tree).1 source :=
  List.mem_flatMap

/-- What is reported by a scan agrees with the blocking size. -/
structure ScanAgrees
    (settings : SizeSettings)
    (tree : Tree)
    (files : FileSet) : Prop where
  /-- A regression is reported where recorded sizes are loaded and a file has crossed the blocking
  size. -/
  crossed : ∀ shown,
    (∃ finding ∈ (scan settings tree files).findings,
        IsRegression finding ∧ finding.file = shown) ↔
      ∃ baseline, Baseline.load tree = .ok (some baseline) ∧
        ∃ source ∈ Source.load tree files isSource, source.display = shown ∧
          (Dictionary.find? shown baseline.files).getD 0 < blockingThreshold settings ∧
          blockingThreshold settings ≤ source.lineCount
  /-- Every regression is reported together with a tier that is an error. -/
  accompanied : ∀ finding ∈ (scan settings tree files).findings, IsRegression finding →
    ∃ other ∈ (scan settings tree files).findings,
      isTier other = true ∧ IsError other ∧ other.file = finding.file
  /-- Crisis mode makes no errors. -/
  eased : ∀ shown,
    (∃ finding ∈ (scan { settings with crisisMode := true } tree files).findings,
        IsError finding ∧ finding.file = shown) →
      ∃ finding ∈ (scan { settings with crisisMode := false } tree files).findings,
        IsError finding ∧ finding.file = shown

theorem scanAgrees
    {settings : SizeSettings}
    (ordered : settings.criticalLines ≤ settings.crisisLines)
    (tree : Tree)
    (files : FileSet) :
    ScanAgrees settings tree files where
  crossed := by
    intro shown
    constructor
    · rintro ⟨finding, listed, isRegression, isShown⟩
      obtain ⟨source, member, found⟩ := mem_scan_iff.mp listed
      obtain ⟨baseline, recorded, below, reached⟩ :=
        exists_isRegression_iff.mp ⟨finding, found, isRegression⟩
      have displayed : source.display = shown := (file_of_mem_checkFile found).symm.trans isShown
      exact ⟨baseline, (mem_baselineOrNotice_iff tree baseline).mp recorded, source, member,
        displayed, displayed ▸ below, reached⟩
    · rintro ⟨baseline, loaded, source, member, rfl, below, reached⟩
      obtain ⟨finding, found, isRegression⟩ := exists_isRegression_iff.mpr
        ⟨baseline, (mem_baselineOrNotice_iff tree baseline).mpr loaded, below, reached⟩
      exact ⟨finding, mem_scan_iff.mpr ⟨source, member, found⟩, isRegression,
        file_of_mem_checkFile found⟩
  accompanied := by
    intro finding listed isRegression
    obtain ⟨source, member, found⟩ := mem_scan_iff.mp listed
    obtain ⟨other, isOther, rest⟩ := (agrees ordered).accompanied finding found isRegression
    exact ⟨other, mem_scan_iff.mpr ⟨source, member, isOther⟩, rest⟩
  eased := by
    rintro shown ⟨finding, listed, isError, isShown⟩
    obtain ⟨source, member, found⟩ := mem_scan_iff.mp listed
    obtain ⟨other, isOther, otherError⟩ :=
      exists_isError_of_crisisMode ordered ⟨finding, found, isError⟩
    exact ⟨other, mem_scan_iff.mpr ⟨source, member, isOther⟩, otherError,
      (file_of_mem_checkFile isOther).trans ((file_of_mem_checkFile found).symm.trans isShown)⟩

/-- Under settings that satisfy their constraints, what is reported agrees with the blocking size,
about every file and in every scan.  A longer file is in no lower tier, and crisis mode makes no
errors. -/
theorem tiers_agree
    {settings : Settings}
    (valid : settings.validate = .ok ()) :
    (∀ baseline? source, Agrees settings.size baseline? source) ∧
      (∀ baseline? baseline?' source longer (tier : Tier), source.lineCount ≤ longer.lineCount →
        (∃ finding ∈ checkFile settings.size baseline? source, finding.rule = tier.rule) →
          ∃ higher : Tier, tier.rank ≤ higher.rank ∧
            ∃ finding ∈ checkFile settings.size baseline?' longer, finding.rule = higher.rule) ∧
      (∀ baseline? source,
        (∃ finding ∈ checkFile { settings.size with crisisMode := true } baseline? source,
            IsError finding) →
          ∃ finding ∈ checkFile { settings.size with crisisMode := false } baseline? source,
            IsError finding) ∧
      ∀ tree files, ScanAgrees settings.size tree files := by
  have consistent := (Settings.validate_eq_ok_iff settings).mp valid
  have ordered := consistent.critical.le
  refine ⟨fun _ _ => agrees ordered, ?_, fun _ _ => exists_isError_of_crisisMode ordered,
    scanAgrees ordered⟩
  intro baseline? baseline?' source longer tier grows reported
  obtain ⟨higher, isReached, notLower⟩ :=
    Tier.exists_rank_le_of_le grows ((exists_rule_eq_iff tier).mp reported)
  exact ⟨higher, notLower, (exists_rule_eq_iff higher).mpr isReached⟩

/-- A file of two lines was not recorded before.  It is a regression where two lines block, and in
crisis mode it is no error. -/
theorem tiers_agree_in_both_modes :
    let settings (mode : Bool) : Settings :=
      { size := { warningLines := 1, criticalLines := 2, crisisLines := 3, crisisMode := mode } }
    let source : Source := ⟨"a.rs", "x\ny\n"⟩
    let recorded : Option Baseline := some ⟨none, [("b.rs", 7)]⟩
    (∀ mode, (settings mode).validate = .ok ()) ∧
      (∃ finding ∈ checkFile (settings false).size recorded source, IsRegression finding) ∧
      ¬∃ finding ∈ checkFile (settings true).size recorded source,
        isTier finding = true ∧ IsError finding := by
  intro settings source recorded
  have valid (mode : Bool) : (settings mode).validate = .ok () :=
    (Settings.validate_eq_ok_iff _).mpr
      { Settings.isConsistent_default with
        warning := show 1 < 2 by decide
        critical := show 2 < 3 by decide }
  have lines : source.lineCount = 2 := by decide +kernel
  refine ⟨valid, ?_, ?_⟩
  · refine ((tiers_agree (valid false)).1 recorded source).crossed.mpr
      ⟨_, rfl, by decide, ?_⟩
    rw [lines]
    decide
  · rw [((tiers_agree (valid true)).1 recorded source).severe, lines]
    decide

end Size
end QualityGate
