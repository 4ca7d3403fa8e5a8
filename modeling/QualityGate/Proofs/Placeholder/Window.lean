import QualityGate.Proofs.Placeholder.Governed

/-!
# Larger windows

Only the lowest 32 bits of a window count.  Among windows of 32 bits a larger one covers every line
that a smaller one covers, up to the largest number of a line, where all stretches end.  A window
beyond 32 bits starts again from zero, so it may cover less than a small one.
-/

namespace QualityGate
namespace Placeholder

/-- A declaration with which nothing is wrong. -/
def Declaration.sample : Declaration where
  id? := some "retry"
  scope? := some "network"
  reason? := some "no server yet"
  impact? := some "partial"
  fallback? := some "give up"
  debtNote? := none
  expiry? := none

namespace Coverage

section Windows

variable {declarations : List InlineDeclaration} {narrow wide line : Nat}

/-- A window whose lowest bits make a larger number uncovers no line. -/
theorem covers_of_reach_le
    (further : narrow % Word.bound 32 ≤ wide % Word.bound 32)
    (covered : (ofDeclarations declarations narrow).covers line = true) :
    (ofDeclarations declarations wide).covers line = true := by
  rw [covers_ofDeclarations_iff] at covered ⊢
  obtain ⟨inline, member, valid, below, within⟩ := covered
  obtain ⟨inLimit, inReach⟩ := Nat.le_min.mp within
  refine ⟨inline, member, valid, below, Nat.le_min.mpr ⟨inLimit, ?_⟩⟩
  exact Nat.le_trans inReach (Nat.add_le_add_left further inline.line)

/-- Windows of 32 bits are compared as they are. -/
theorem reach_le_of_le (atMost : narrow ≤ wide) (fits : wide < Word.bound 32) :
    narrow % Word.bound 32 ≤ wide % Word.bound 32 := by
  rw [Nat.mod_eq_of_lt fits, Nat.mod_eq_of_lt (Nat.lt_of_le_of_lt atMost fits)]
  exact atMost

/-- Without a valid declaration there is nothing that covers a line. -/
theorem covers_eq_false_of_no_valid
    (noneValid : ∀ inline ∈ declarations, inline.valid? = none)
    (window line : Nat) :
    (ofDeclarations declarations window).covers line = false := by
  rw [← Bool.not_eq_true, covers_ofDeclarations_iff]
  rintro ⟨inline, member, valid, -⟩
  rw [noneValid inline member] at valid
  cases valid

/-- A declaration above all lines covers the lines that a window reaches. -/
theorem covers_sample_iff (window line : Nat) :
    (ofDeclarations [⟨0, .ok .sample⟩] window).covers line = true ↔
      0 < line ∧ line ≤ window % Word.bound 32 := by
  have valid : (InlineDeclaration.mk 0 (.ok .sample)).valid?.isSome = true := by decide +kernel
  have limit : window % Word.bound 32 ≤ lineLimit :=
    Nat.le_pred_of_lt (Nat.mod_lt window (Nat.two_pow_pos 32))
  rw [covers_ofDeclarations_iff]
  simp only [List.mem_singleton, exists_eq_left, valid, true_and, Nat.zero_add,
    Nat.min_eq_right limit]

/-- If a window never uncovers a line that another one covers, its lowest bits make a number that is
not smaller. -/
theorem reach_le_of_covers
    (covers : ∀ declarations line, (ofDeclarations declarations narrow).covers line = true →
      (ofDeclarations declarations wide).covers line = true) :
    narrow % Word.bound 32 ≤ wide % Word.bound 32 := by
  rcases Nat.eq_zero_or_pos (narrow % Word.bound 32) with nothing | something
  · rw [nothing]
    exact Nat.zero_le _
  · have last := (covers_sample_iff narrow _).mpr ⟨something, Nat.le_refl _⟩
    exact ((covers_sample_iff wide _).mp (covers _ _ last)).2

end Windows

/-- A window uncovers no line that another one covers exactly if its lowest 32 bits make a number
that is not smaller.  So a larger window never uncovers a line as long as it has 32 bits, and it does
where it goes beyond them and starts again from a smaller number.  Without a valid declaration
nothing is covered, whatever the window. -/
theorem covers_mono_iff (narrow wide : Nat) :
    ((∀ declarations line, (ofDeclarations declarations narrow).covers line = true →
        (ofDeclarations declarations wide).covers line = true) ↔
      narrow % Word.bound 32 ≤ wide % Word.bound 32) ∧
    (narrow ≤ wide → wide < Word.bound 32 →
      ∀ declarations line, (ofDeclarations declarations narrow).covers line = true →
        (ofDeclarations declarations wide).covers line = true) ∧
    (∀ declarations : List InlineDeclaration, (∀ inline ∈ declarations, inline.valid? = none) →
      ∀ window line, (ofDeclarations declarations window).covers line = false) := by
  refine ⟨⟨reach_le_of_covers, ?_⟩, ?_, ?_⟩
  · intro further declarations line
    exact covers_of_reach_le further
  · intro atMost fits declarations line
    exact covers_of_reach_le (reach_le_of_le atMost fits)
  · intro declarations noneValid
    exact covers_eq_false_of_no_valid noneValid

/-- A window of ten lines and the largest window of 32 bits cover the line below a declaration; the
next larger window uncovers it. -/
theorem covers_mono_iff_of_wrapped_window :
    let declared := inlineDeclarations "a.rs"
      ["// @placeholder \x7b\"id\":\"a\",\"scope\":\"b\",\"reason\":\"c\",\"impact\":\"partial\"," ++
        "\"fallback\":\"d\"\x7d", "// TODO"]
    let marked := inlineDeclarations "a.rs" ["// @placeholder", "// TODO"]
    (ofDeclarations declared 10).covers 2 = true ∧
      (ofDeclarations declared 4294967295).covers 2 = true ∧
      (ofDeclarations declared 4294967296).covers 2 = false ∧
      ¬(∀ declarations line, (ofDeclarations declarations 10).covers line = true →
        (ofDeclarations declarations 4294967296).covers line = true) ∧
      marked.length = 1 ∧ ∀ window line, (ofDeclarations marked window).covers line = false := by
  intro declared marked
  obtain ⟨uncoversNothing, -, noneValid⟩ := covers_mono_iff 10 4294967296
  have fits := (covers_mono_iff 10 4294967295).2.1
  obtain ⟨covered, uncovered⟩ : (ofDeclarations declared 10).covers 2 = true ∧
      (ofDeclarations declared 4294967296).covers 2 = false := by
    decide +kernel
  refine ⟨covered, fits (by decide) (by decide) declared 2 covered, uncovered, ?_,
    by decide +kernel, noneValid marked ?_⟩
  · exact mt uncoversNothing.mp (by decide)
  · have invalid : (marked.all fun inline => inline.valid?.isNone) = true := by decide +kernel
    intro inline member
    exact Option.isNone_iff_eq_none.mp (List.all_eq_true.mp invalid inline member)

end Coverage
end Placeholder
end QualityGate
