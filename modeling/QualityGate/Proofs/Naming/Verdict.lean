import QualityGate.Detector.Naming.Scan

/-!
# Verdicts on names

Whether a name carries a banned modifier is decided by its words alone: for a file by those of its
stem, for a type by those of the name it is declared under.
-/

namespace QualityGate
namespace Naming

/-- The suggestion that proposes a name. -/
def proposal (name : String) : String :=
  "Rename to describe what it does, e.g. '" ++ name ++ "'"

/-- A finding about a file, and what it suggests, come from the words of the stem. -/
theorem map_suggestion_checkFileName
    (settings : NamingSettings)
    {path stem : String}
    (isStem : Location.stem? path = some stem) :
    (checkFileName settings path).map Finding.suggestion? =
      (bannedAmong? settings (segments stem)).map fun modifier =>
        (proposedName? (segments stem) modifier).map proposal := by
  unfold checkFileName
  rw [isStem]
  simp only [Option.bind_eq_bind, Option.bind_some]
  cases bannedAmong? settings (segments stem) with
  | none => rfl
  | some modifier =>
    rw [Option.bind_some, Option.map_some]
    cases proposedName? (segments stem) modifier <;> rfl

/-- A file has no finding if no word of its stem is flagged. -/
theorem checkFileName_eq_none_iff
    (settings : NamingSettings)
    {path stem : String}
    (isStem : Location.stem? path = some stem) :
    checkFileName settings path = none ↔ bannedAmong? settings (segments stem) = none := by
  have same := map_suggestion_checkFileName settings isStem
  rw [← Option.map_eq_none_iff, same, Option.map_eq_none_iff]

/-- Only a path that names a file has a finding. -/
theorem exists_stem_of_checkFileName
    {settings : NamingSettings}
    {path : String}
    {finding : Finding}
    (flagged : checkFileName settings path = some finding) :
    ∃ stem, Location.stem? path = some stem := by
  unfold checkFileName at flagged
  obtain ⟨stem, isStem, -⟩ := Option.bind_eq_some_iff.mp flagged
  exact ⟨stem, isStem⟩

/-! ## Flagged words -/

/-- Several words with a banned modifier among them are flagged, others are not. -/
theorem bannedAmong?_eq_none_iff (settings : NamingSettings) (words : List String) :
    bannedAmong? settings words = none ↔
      words.length < 2 ∨ ∀ word ∈ words, isBanned settings word = false := by
  unfold bannedAmong?
  split
  · rename_i short
    exact iff_of_true rfl (.inl short)
  · rename_i long
    rw [List.find?_eq_none, or_iff_right long]
    simp

/-! ## Types -/

/-- The finding is about a modifier in the name of a symbol. -/
def isAboutModifier (finding : Finding) : Bool :=
  finding.rule == "BANNED_MODIFIER_SYMBOL"

/-- A keyword in the place of a name is a single word. -/
theorem symbolModifier?_of_keyword
    (settings : NamingSettings)
    {name : String}
    (keyword : declarationKeywords.contains name = true) :
    symbolModifier? settings .type name = none := by
  have single : ∀ keyword ∈ declarationKeywords, (segments keyword).length < 2 := by
    decide +kernel
  exact if_pos (single name (List.contains_iff_mem.mp keyword))

/-- A declared type has a finding about a modifier exactly if there is one in its name. -/
theorem any_isAboutModifier_checkSymbol
    (settings : NamingSettings)
    (language : Language)
    (file : String)
    (line : Nat)
    (name : String) :
    (checkSymbol settings language file line .type name).any isAboutModifier =
      (symbolModifier? settings .type name).isSome := by
  unfold checkSymbol
  split
  · rename_i keyword
    rw [symbolModifier?_of_keyword settings (Bool.and_eq_true_iff.mp keyword).2]
    rfl
  · dsimp only
    rw [List.any_append]
    cases symbolModifier? settings .type name with
    | some modifier => rfl
    | none =>
      -- what is said about the convention is nothing about a modifier
      dsimp only
      rw [List.any_nil, Bool.false_or]
      split
      · rfl
      · split
        · rfl
        · split <;> rfl

end Naming
end QualityGate
