import QualityGate.Proofs.Location.Spelling
import Mathlib.Data.List.TakeWhile

/-!
# Files with another name

A file can be given another name where it is, with the extension that it has.  The path to it has
the pieces in front of the old name, and the new name behind them.
-/

namespace QualityGate
namespace Location

/-- The second path denotes a file in the folder of the first one, with the same extension and
another name in front of it. -/
structure IsRenamed (path stem beside : String) : Prop where
  sameFolder : (components beside).dropLast = (components path).dropLast
  isStem : stem? beside = some stem
  sameExtension : extension? beside = extension? path

/-! ## Names and extensions -/

/-- A name with an extension, if there is one. -/
def withExtension (stem : String) : Option String → String
  | none => stem
  | some ending => stem ++ "." ++ ending

/-- A name without dots has no extension. -/
theorem splitName_of_not_mem {name : String} (noDot : '.' ∉ name.toList) :
    splitName name = (name, none) := by
  have noneTaken : name.toList.reverse.takeWhile (· != '.') = name.toList.reverse := by
    rw [List.takeWhile_eq_self_iff]
    intro character member
    rw [bne_iff_ne]
    rintro rfl
    exact noDot (List.mem_reverse.mp member)
  simp [splitName, noneTaken]

/-- The extension of a name is what stands behind its last dot. -/
theorem splitName_append
    {stem ending : String}
    (filled : stem ≠ "")
    (noDot : '.' ∉ ending.toList) :
    splitName (stem ++ "." ++ ending) = (stem, some ending) := by
  have characters : (stem ++ "." ++ ending).toList = stem.toList ++ '.' :: ending.toList := by
    simp
  have taken : (stem.toList ++ '.' :: ending.toList).reverse.takeWhile (· != '.') =
      ending.toList.reverse := by
    rw [List.reverse_append, List.reverse_cons, List.append_assoc]
    refine (List.takeWhile_append_of_pos ?_).trans (by simp)
    intro character member
    rw [bne_iff_ne]
    rintro rfl
    exact noDot (List.mem_reverse.mp member)
  have stemLength : (stem.toList ++ '.' :: ending.toList).length - ending.toList.length - 1 =
      stem.toList.length := by
    rw [List.length_append, List.length_cons]
    omega
  have cut : (ending.toList.length == (stem.toList ++ '.' :: ending.toList).length ||
      stem.toList.isEmpty) = false := by
    rw [Bool.or_eq_false_iff, beq_eq_false_iff_ne, List.isEmpty_eq_false_iff, List.length_append,
      List.length_cons]
    exact ⟨by omega, mt String.toList_eq_nil_iff.mp filled⟩
  rw [splitName, characters, taken, List.reverse_reverse, stemLength, List.take_left', cut,
    if_neg Bool.false_ne_true, String.ofList_toList, String.ofList_toList]
  rfl

/-- An extension has no dot, and its characters are some of the name. -/
theorem splitName_snd
    {name ending : String}
    (isEnding : (splitName name).2 = some ending) :
    '.' ∉ ending.toList ∧ ∀ character ∈ ending.toList, character ∈ name.toList := by
  unfold splitName at isEnding
  dsimp only at isEnding
  split at isEnding
  · cases isEnding
  · cases isEnding
    rw [String.toList_ofList]
    constructor
    · intro dot
      have notDot := List.mem_takeWhile_imp (List.mem_reverse.mp dot)
      simp at notDot
    · intro character member
      exact List.mem_reverse.mp ((List.takeWhile_sublist _).subset (List.mem_reverse.mp member))

theorem splitName_withExtension
    {stem : String}
    (filled : stem ≠ "")
    (noDot : '.' ∉ stem.toList)
    {ending? : Option String}
    (noDotBehind : ∀ ending ∈ ending?, '.' ∉ ending.toList) :
    splitName (withExtension stem ending?) = (stem, ending?) := by
  cases ending? with
  | none => exact splitName_of_not_mem noDot
  | some ending => exact splitName_append filled (noDotBehind ending rfl)

/-- A name without dots and slashes is the name of a file, with an extension too. -/
theorem isName_withExtension
    {stem : String}
    (filled : stem ≠ "")
    (noDot : '.' ∉ stem.toList)
    (noSlash : '/' ∉ stem.toList)
    {ending? : Option String}
    (noSlashBehind : ∀ ending ∈ ending?, '/' ∉ ending.toList) :
    IsName (withExtension stem ending?) := by
  obtain ⟨first, rest, characters⟩ :=
    List.exists_cons_of_ne_nil (mt String.toList_eq_nil_iff.mp filled)
  have notDot : '.' ≠ first := List.ne_of_not_mem_cons (characters ▸ noDot)
  obtain ⟨following, fileCharacters⟩ :
      ∃ following, (withExtension stem ending?).toList = first :: following := by
    cases ending? with
    | none => exact ⟨rest, characters⟩
    | some ending =>
      exact ⟨rest ++ '.' :: ending.toList, by simp [withExtension, characters]⟩
  -- the names that no file has are empty or begin with a dot
  have differs (other : String) (isOther : other.toList.head? ≠ some first) :
      withExtension stem ending? ≠ other := by
    rintro rfl
    rw [fileCharacters] at isOther
    exact isOther rfl
  refine ⟨differs "" (by simp), differs "." (by simpa using notDot),
    differs ".." (by simpa using notDot), ?_⟩
  cases ending? with
  | none => exact noSlash
  | some ending =>
    have behind := noSlashBehind ending rfl
    simp [withExtension, noSlash, behind]

/-! ## Names in a path -/

theorem isName_of_ofPiece
    {piece file : String}
    (isPiece : ofPiece piece = some (.name file))
    (noSlash : '/' ∉ piece.toList) :
    piece = file ∧ IsName file := by
  unfold ofPiece at isPiece
  split at isPiece
  · cases isPiece
  · rename_i counts
    split at isPiece
    · cases isPiece
    · rename_i notParent
      cases isPiece
      simp only [beq_iff_eq, Bool.or_eq_true, not_or] at counts notParent
      exact ⟨rfl, counts.1, counts.2, notParent, noSlash⟩

/-- The name of a file is one of the pieces of the path, and behind it is nothing that counts. -/
theorem exists_pieces
    {path file : String}
    (isFile : fileName? path = some file) :
    IsName file ∧ ∃ before after : List String,
      Text.splitWhere (· == '/') path = before ++ file :: after ∧
        after.filterMap ofPiece = [] := by
  obtain ⟨component, isLast, isName⟩ := Option.bind_eq_some_iff.mp isFile
  obtain rfl : component = .name file := by
    cases component <;> cases isName
    rfl
  have endsPieces : ((Text.splitWhere (· == '/') path).filterMap ofPiece).getLast? =
      some (.name file) := by
    unfold components at isLast
    dsimp only at isLast
    rw [List.getLast?_append] at isLast
    cases last : ((Text.splitWhere (· == '/') path).filterMap ofPiece).getLast? with
    | some component => rwa [last] at isLast
    | none =>
      -- in front of the pieces there is no name
      rw [last, Option.none_or] at isLast
      split at isLast
      · cases isLast
      · split at isLast <;> cases isLast
  obtain ⟨front, counted⟩ := List.getLast?_eq_some_iff.mp endsPieces
  obtain ⟨first, rest, pieces, -, restCounted⟩ := List.filterMap_eq_append_iff.mp counted
  obtain ⟨skipped, piece, after, rfl, -, isPiece, nothing⟩ :=
    List.filterMap_eq_cons_iff.mp restCounted
  have noSlash : '/' ∉ piece.toList := by
    have isOne : piece ∈ Text.splitWhere (· == '/') path := by
      rw [pieces]
      simp
    exact Text.not_mem_of_mem_splitWhere isOne
  obtain ⟨rfl, proper⟩ := isName_of_ofPiece isPiece noSlash
  exact ⟨proper, first ++ skipped, after, by rw [pieces, List.append_assoc], nothing⟩

/-- In the place of a file a path can have any other name. -/
theorem exists_components_eq
    {path file other : String}
    (isFile : fileName? path = some file)
    (proper : IsName other) :
    ∃ beside, components beside = (components path).dropLast ++ [.name other] := by
  obtain ⟨fileProper, before, after, pieces, nothing⟩ := exists_pieces isFile
  have apart : ∀ piece ∈ before ++ file :: after, '/' ∉ piece.toList := by
    rw [← pieces]
    exact fun piece member => Text.not_mem_of_mem_splitWhere member
  have path_eq : path = String.intercalate "/" (before ++ file :: after) := by
    rw [← pieces]
    exact (Text.intercalate_splitWhere path).symm
  have apartBeside : ∀ piece ∈ before ++ [other], '/' ∉ piece.toList := by
    intro piece member
    rcases List.mem_append.mp member with inFront | here
    · exact apart piece (List.mem_append_left _ inFront)
    · rw [List.mem_singleton.mp here]
      exact proper.2.2.2
  have sameLead : lead (before ++ [other]) = lead (before ++ file :: after) := by
    cases before with
    | nil => simp [lead, proper.1, proper.2.1, fileProper.1, fileProper.2.1]
    | cons first rest => simp [lead]
  refine ⟨String.intercalate "/" (before ++ [other]), ?_⟩
  rw [components_intercalate_pieces (by simp) apartBeside, path_eq,
    components_intercalate_pieces (by simp) apart, sameLead, List.filterMap_append,
    List.filterMap_append, List.filterMap_cons_some fileProper.ofPiece_eq, nothing,
    List.filterMap_cons_some proper.ofPiece_eq, List.filterMap_nil, ← List.append_assoc,
    ← List.append_assoc, List.dropLast_concat]

/-- Every file can be given another name without dots and slashes. -/
theorem exists_isRenamed
    {path stem name : String}
    (isStem : stem? path = some stem)
    (filled : name ≠ "")
    (noDot : '.' ∉ name.toList)
    (noSlash : '/' ∉ name.toList) :
    ∃ beside, IsRenamed path name beside := by
  obtain ⟨file, isFile, -⟩ := Option.map_eq_some_iff.mp isStem
  have isEnding : extension? path = (splitName file).2 := by
    rw [extension?, isFile, Option.bind_some]
  have behind : ∀ ending ∈ (splitName file).2, '.' ∉ ending.toList ∧ '/' ∉ ending.toList := by
    intro ending isEnding
    obtain ⟨noDot, within⟩ := splitName_snd isEnding
    exact ⟨noDot, fun slash => (exists_pieces isFile).1.2.2.2 (within _ slash)⟩
  have proper : IsName (withExtension name (splitName file).2) :=
    isName_withExtension filled noDot noSlash fun ending isEnding => (behind ending isEnding).2
  have parts : splitName (withExtension name (splitName file).2) = (name, (splitName file).2) :=
    splitName_withExtension filled noDot fun ending isEnding => (behind ending isEnding).1
  obtain ⟨beside, moved⟩ := exists_components_eq isFile proper
  have isOther : fileName? beside = some (withExtension name (splitName file).2) := by
    rw [fileName?, moved, List.getLast?_concat]
    rfl
  refine ⟨beside, ?_, ?_, ?_⟩
  · rw [moved, List.dropLast_concat]
  · rw [stem?, isOther, Option.map_some, parts]
  · rw [isEnding, extension?, isOther, Option.bind_some, parts]

end Location
end QualityGate
