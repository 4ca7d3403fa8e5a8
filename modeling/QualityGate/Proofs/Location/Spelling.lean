import QualityGate.Proofs.Location
import QualityGate.Proofs.Text.Split

/-!
# Normal spellings

Several texts spell the same components.  The normal one has no empty pieces and no inner dots, so
paths in normal spelling with the same components are the same text.
-/

namespace QualityGate

/-- How a component is written between slashes. -/
def Component.spelling : Component → String
  | .root => ""
  | .current => "."
  | .parent => ".."
  | .name text => text

namespace Location

/-- The normal text of a list of components. -/
def spelling : List Component → String
  | [.root] => "/"
  | components => String.intercalate "/" (components.map Component.spelling)

/-- The path is in normal spelling. -/
def IsNormal (path : String) : Prop :=
  spelling (components path) = path

instance (path : String) : Decidable (IsNormal path) :=
  inferInstanceAs (Decidable (_ = _))

theorem IsNormal.eq_of_components_eq {first second : String} (firstNormal : IsNormal first)
    (secondNormal : IsNormal second) (same : components first = components second) :
    first = second := by
  rw [← firstNormal, ← secondNormal, same]

/-- The text is the name of a file or of a folder. -/
def IsName (text : String) : Prop :=
  text ≠ "" ∧ text ≠ "." ∧ text ≠ ".." ∧ '/' ∉ text.toList

theorem IsName.ofPiece_eq {text : String} (name : IsName text) :
    ofPiece text = some (.name text) := by
  obtain ⟨filled, notCurrent, notParent, -⟩ := name
  simp [ofPiece, filled, notCurrent, notParent]

/-! ## Paths from their pieces -/

/-- What stands in front of the components that come from the pieces of a path. -/
def lead (pieces : List String) : List Component :=
  if pieces.head? = some "" ∧ pieces.tail ≠ [] then [.root]
  else if pieces.head? = some "." then [.current]
  else []

/-- A path starts at the root if it goes on behind an empty piece. -/
theorem startsWith_slash_iff
    {first : String}
    (apart : '/' ∉ first.toList)
    (others : List String) :
    Text.startsWith (String.intercalate "/" (first :: others)) "/" = true ↔
      first = "" ∧ others ≠ [] := by
  have begins (behind : List Char) (filled : first ≠ "") :
      ¬['/'] <+: first.toList ++ behind := by
    obtain ⟨character, rest, characters⟩ :=
      List.exists_cons_of_ne_nil (mt String.toList_eq_nil_iff.mp filled)
    rw [characters] at apart ⊢
    simpa using List.ne_of_not_mem_cons apart
  rw [Text.startsWith, List.isPrefixOf_iff_prefix]
  cases others with
  | nil =>
    rw [String.intercalate_singleton]
    by_cases filled : first = ""
    · simp [filled]
    · simpa [filled] using begins [] filled
  | cons second rest =>
    rw [String.intercalate_cons_cons, String.append_assoc, String.toList_append]
    by_cases filled : first = ""
    · simp [filled]
    · exact iff_of_false (begins _ filled) fun atRoot => filled atRoot.1

/-- The components of a path come from its pieces. -/
theorem components_intercalate_pieces
    {pieces : List String}
    (filled : pieces ≠ [])
    (apart : ∀ piece ∈ pieces, '/' ∉ piece.toList) :
    components (String.intercalate "/" pieces) = lead pieces ++ pieces.filterMap ofPiece := by
  have divided : Text.splitWhere (· == '/') (String.intercalate "/" pieces) = pieces :=
    Text.splitWhere_intercalate filled apart
  obtain ⟨first, others, rfl⟩ := List.exists_cons_of_ne_nil filled
  have atRoot := startsWith_slash_iff (apart first List.mem_cons_self) others
  rw [components, divided]
  simp [lead, atRoot]

/-- The components of names with slashes between them. -/
theorem components_intercalate {names : List String} (filled : names ≠ [])
    (proper : ∀ name ∈ names, IsName name) :
    components (String.intercalate "/" names) = names.map Component.name := by
  have pieces : names.filterMap ofPiece = names.map Component.name := by
    rw [← List.filterMap_eq_map]
    exact List.filterMap_congr fun name member => (proper name member).ofPiece_eq
  rw [components_intercalate_pieces filled fun name member => (proper name member).2.2.2, pieces]
  obtain ⟨first, others, rfl⟩ := List.exists_cons_of_ne_nil filled
  obtain ⟨notEmpty, notCurrent, -, -⟩ := proper first List.mem_cons_self
  simp [lead, notEmpty, notCurrent]

/-- Names with slashes between them are a path in normal spelling. -/
theorem isNormal_intercalate {names : List String} (filled : names ≠ [])
    (proper : ∀ name ∈ names, IsName name) : IsNormal (String.intercalate "/" names) := by
  have spelled : (names.map Component.name).map Component.spelling = names := by
    rw [List.map_map]
    exact List.map_id names
  rw [IsNormal, components_intercalate filled proper]
  unfold spelling
  split
  · rename_i root
    simp [List.map_eq_singleton_iff] at root
  · rw [spelled]

example : IsNormal "src/scope/mod.rs" ∧ IsNormal "./a" ∧ IsNormal "../a" ∧ IsNormal "/" ∧
    ¬IsNormal "a//b" ∧ ¬IsNormal "a/./b" ∧ ¬IsNormal "a/" := by
  decide +kernel

end Location
end QualityGate
