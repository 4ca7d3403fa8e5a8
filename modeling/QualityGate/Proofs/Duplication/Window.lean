import QualityGate.Detector.Duplication
import QualityGate.Proofs.Text.Words

/-!
# Windows of lines

A window is told from all others by its lines: lines in normal form have no line feed, so the text
of a window says which lines it has, and its digest does as well unless two of the texts collide.
The windows with a twin are therefore exactly those whose lines occur at another place that counts.
-/

namespace QualityGate

/-- The texts have different digests. -/
def Digest.IsCollisionFree (texts : List String) : Prop :=
  ∀ first ∈ texts, ∀ second ∈ texts, ofText first = ofText second → first = second

instance (texts : List String) : Decidable (Digest.IsCollisionFree texts) :=
  inferInstanceAs (Decidable (∀ first ∈ texts, ∀ second ∈ texts, _ → _))

namespace Duplication

/-! ## Lines in normal form -/

/-- The lines of a file are in normal form. -/
def CodeFile.IsNormal (file : CodeFile) : Prop :=
  ∀ line ∈ file.lines, ∃ raw, line.text = normalizeLine raw

/-- The lines of a reduced file are in normal form. -/
theorem CodeFile.isNormal_ofSource (source : Source) : (ofSource source).IsNormal := by
  intro line member
  obtain ⟨⟨parts, index⟩, -, kept⟩ := List.mem_filterMap.mp member
  dsimp only at kept
  split at kept
  · cases kept
    exact ⟨parts.code, rfl⟩
  · cases kept

theorem mem_of_mem_intercalate
    {separator : List Char}
    {pieces : List (List Char)}
    {character : Char}
    (member : character ∈ separator.intercalate pieces) :
    character ∈ separator ∨ ∃ piece ∈ pieces, character ∈ piece := by
  induction pieces with
  | nil => cases member
  | cons piece rest inductionHypothesis =>
    cases rest with
    | nil =>
      rw [List.intercalate_singleton] at member
      exact Or.inr ⟨piece, List.mem_singleton_self piece, member⟩
    | cons next others =>
      rw [List.intercalate_cons_cons, List.mem_append, List.mem_append] at member
      rcases member with (first | between) | behind
      · exact Or.inr ⟨piece, List.mem_cons_self, first⟩
      · exact Or.inl between
      · rcases inductionHypothesis behind with between | ⟨other, isOther, inside⟩
        · exact Or.inl between
        · exact Or.inr ⟨other, List.mem_cons_of_mem _ isOther, inside⟩

/-- A line in normal form has no line feed. -/
theorem lineFeed_notMem_normalizeLine (line : String) : '\n' ∉ (normalizeLine line).toList := by
  intro member
  rw [normalizeLine, String.toList_intercalate] at member
  rcases mem_of_mem_intercalate member with between | ⟨piece, isPiece, inside⟩
  · exact absurd between (by decide)
  · obtain ⟨word, isWord, rfl⟩ := List.mem_map.mp isPiece
    have notBlank := Text.isBlank_eq_false_of_mem_word isWord inside
    exact absurd notBlank (by decide)

/-! ## Texts of windows -/

theorem toList_windowText (lines : List String) :
    (windowText lines).toList = lines.flatMap fun line => line.toList ++ ['\n'] := by
  rw [windowText, String.toList_join, List.flatMap_map]
  simp

/-- What stands before the first line feed, and what behind it. -/
theorem append_lineFeed_inj
    {first second rest others : List Char}
    (firstFree : '\n' ∉ first)
    (secondFree : '\n' ∉ second)
    (equal : first ++ '\n' :: rest = second ++ '\n' :: others) :
    first = second ∧ rest = others := by
  rcases List.append_eq_append_iff.mp equal with ⟨more, rfl, tail⟩ | ⟨more, rfl, tail⟩
  · cases more with
    | nil => simpa using tail
    | cons character _ =>
      rw [← (List.cons.inj tail).1] at secondFree
      simp at secondFree
  · cases more with
    | nil => simpa [eq_comm] using tail
    | cons character _ =>
      rw [← (List.cons.inj tail).1] at firstFree
      simp at firstFree

/-- The text of a window tells its lines, if none of them has a line feed. -/
theorem windowText_inj
    {first second : List String}
    (firstLines : ∀ line ∈ first, '\n' ∉ line.toList)
    (secondLines : ∀ line ∈ second, '\n' ∉ line.toList)
    (equal : windowText first = windowText second) :
    first = second := by
  have characters := congrArg String.toList equal
  rw [toList_windowText, toList_windowText] at characters
  clear equal
  induction first generalizing second with
  | nil =>
    cases second with
    | nil => rfl
    | cons line rest => simp at characters
  | cons line rest inductionHypothesis =>
    cases second with
    | nil => simp at characters
    | cons other others =>
      obtain ⟨lineFree, restFree⟩ := List.forall_mem_cons.mp firstLines
      obtain ⟨otherFree, othersFree⟩ := List.forall_mem_cons.mp secondLines
      simp only [List.flatMap_cons, List.append_assoc, List.singleton_append] at characters
      obtain ⟨line_eq, behind⟩ := append_lineFeed_inj lineFree otherFree characters
      rw [String.toList_inj.mp line_eq, inductionHypothesis restFree othersFree behind]

/-! ## The windows of files -/

/-- The windows of a list are those of as many consecutive items. -/
theorem windowsFrom_eq
    {α : Type}
    {size : Nat}
    (positive : 1 ≤ size)
    (start : Nat)
    (items : List α) :
    windowsFrom size start items =
      (List.range (items.length + 1 - size)).map fun offset =>
        (start + offset, (items.drop offset).take size) := by
  induction items generalizing start with
  | nil =>
    have none : ([] : List α).length + 1 - size = 0 := by
      rw [List.length_nil]
      omega
    rw [none]
    rfl
  | cons item rest inductionHypothesis =>
    rw [windowsFrom]
    by_cases fits : size ≤ rest.length + 1
    · have full : ((item :: rest).take size).length = size := by
        rw [List.length_take, List.length_cons]
        omega
      have count : (item :: rest).length + 1 - size = (rest.length + 1 - size) + 1 := by
        rw [List.length_cons]
        omega
      rw [if_pos (by rw [full]; exact beq_self_eq_true size), inductionHypothesis, count,
        List.range_succ_eq_map, List.map_cons, List.map_map]
      refine congrArg₂ List.cons rfl (List.map_congr_left fun offset _ => ?_)
      simp [Nat.add_assoc, Nat.add_comm 1]
    · have short : ((item :: rest).take size).length ≠ size := by
        rw [List.length_take, List.length_cons]
        omega
      have none : (item :: rest).length + 1 - size = 0 := by
        rw [List.length_cons]
        omega
      rw [if_neg (by simpa using short), none]
      rfl

/-- The lines of the window at a spot, if it is inside of its file. -/
def windowAt? (size : Nat) (files : List CodeFile) (spot : Spot) : Option (List String) :=
  match files[spot.file]? with
  | none => none
  | some file =>
    if spot.start + size ≤ file.lines.length then
      some (((file.lines.drop spot.start).take size).map CodeLine.text)
    else none

theorem windowAt?_eq_some_iff
    (size : Nat)
    (files : List CodeFile)
    (spot : Spot)
    (lines : List String) :
    windowAt? size files spot = some lines ↔
      ∃ file, files[spot.file]? = some file ∧ spot.start + size ≤ file.lines.length ∧
        lines = ((file.lines.drop spot.start).take size).map CodeLine.text := by
  unfold windowAt?
  cases files[spot.file]? with
  | none => simp
  | some file => simp [eq_comm]

/-- The texts of which digests are taken. -/
def windowTexts (size : Nat) (files : List CodeFile) : List String :=
  files.flatMap fun file =>
    (windowsFrom size 0 (file.lines.map CodeLine.text)).map fun window => windowText window.2

section Windows

variable {size : Nat} {files : List CodeFile}

/-- The windows of a file start at the lines behind which there are enough others. -/
theorem mem_windowsFrom_iff
    (positive : 1 ≤ size)
    (file : CodeFile)
    (start : Nat)
    (lines : List String) :
    (start, lines) ∈ windowsFrom size 0 (file.lines.map CodeLine.text) ↔
      start + size ≤ file.lines.length ∧
        lines = ((file.lines.drop start).take size).map CodeLine.text := by
  rw [windowsFrom_eq positive, List.length_map]
  simp only [List.mem_map, List.mem_range, Nat.zero_add, Prod.mk.injEq, List.map_take,
    List.map_drop]
  constructor
  · rintro ⟨offset, inside, rfl, rfl⟩
    exact ⟨by omega, rfl⟩
  · rintro ⟨inside, rfl⟩
    exact ⟨start, by omega, rfl, rfl⟩

theorem mem_allWindows_iff
    (positive : 1 ≤ size)
    (digest : String)
    (spot : Spot) :
    (digest, spot) ∈ allWindows size files ↔
      ∃ lines, windowAt? size files spot = some lines ∧ digest = windowDigest lines := by
  simp only [allWindows, List.mem_flatMap, List.mem_map, Prod.exists,
    List.mk_mem_zipIdx_iff_getElem?, mem_windowsFrom_iff positive, windowAt?_eq_some_iff,
    Prod.mk.injEq]
  constructor
  · rintro ⟨file, place, isFile, start, lines, ⟨inside, rfl⟩, rfl, rfl⟩
    exact ⟨_, ⟨file, isFile, inside, rfl⟩, rfl⟩
  · rintro ⟨lines, ⟨file, isFile, inside, rfl⟩, rfl⟩
    exact ⟨file, spot.file, isFile, spot.start, _, ⟨inside, rfl⟩, rfl, rfl⟩

theorem windowText_mem_windowTexts
    (positive : 1 ≤ size)
    {spot : Spot}
    {lines : List String}
    (isWindow : windowAt? size files spot = some lines) :
    windowText lines ∈ windowTexts size files := by
  obtain ⟨file, isFile, inside, rfl⟩ := (windowAt?_eq_some_iff _ _ _ _).mp isWindow
  have isMember := (mem_windowsFrom_iff positive file spot.start _).mpr ⟨inside, rfl⟩
  exact List.mem_flatMap.mpr ⟨file, List.mem_of_getElem? isFile, List.mem_map_of_mem isMember⟩

theorem lineFeed_notMem_of_windowAt?
    (normal : ∀ file ∈ files, file.IsNormal)
    {spot : Spot}
    {lines : List String}
    (isWindow : windowAt? size files spot = some lines) :
    ∀ line ∈ lines, '\n' ∉ line.toList := by
  obtain ⟨file, isFile, -, rfl⟩ := (windowAt?_eq_some_iff _ _ _ _).mp isWindow
  intro text member
  obtain ⟨line, isLine, rfl⟩ := List.mem_map.mp member
  obtain ⟨raw, text_eq⟩ := normal file (List.mem_of_getElem? isFile) line
    (List.mem_of_mem_drop (List.mem_of_mem_take isLine))
  rw [text_eq]
  exact lineFeed_notMem_normalizeLine raw

/-- The digest of a window tells its lines. -/
theorem windowDigest_inj
    (positive : 1 ≤ size)
    (normal : ∀ file ∈ files, file.IsNormal)
    (collisionFree : Digest.IsCollisionFree (windowTexts size files))
    {spot other : Spot}
    {lines otherLines : List String}
    (isWindow : windowAt? size files spot = some lines)
    (isOther : windowAt? size files other = some otherLines)
    (equal : windowDigest lines = windowDigest otherLines) :
    lines = otherLines := by
  have texts : windowText lines = windowText otherLines :=
    collisionFree _ (windowText_mem_windowTexts positive isWindow) _
      (windowText_mem_windowTexts positive isOther) equal
  exact windowText_inj (lineFeed_notMem_of_windowAt? normal isWindow)
    (lineFeed_notMem_of_windowAt? normal isOther) texts

/-- The windows of one file come in increasing order. -/
theorem pairwise_allWindows (positive : 1 ≤ size) :
    (allWindows size files).Pairwise fun earlier later =>
      earlier.2.file = later.2.file → earlier.2.start < later.2.start := by
  rw [allWindows, List.pairwise_flatMap]
  constructor
  · rintro ⟨file, place⟩ -
    dsimp only
    rw [windowsFrom_eq positive, List.map_map, List.pairwise_map]
    refine List.pairwise_lt_range.imp fun less _ => ?_
    simpa using less
  · -- windows of different entries are windows of different files
    rw [List.pairwise_iff_getElem]
    intro first second firstInside secondInside less
    simp only [List.getElem_zipIdx, List.mem_map]
    rintro _ ⟨_, -, rfl⟩ _ ⟨_, -, rfl⟩ same
    simp only [Nat.zero_add] at same
    omega

end Windows

/-! ## The windows with twins -/

/-- The index says where a digest occurs, in the order of the windows. -/
theorem getD_occurrences (windows : List (String × Spot)) (digest : String) :
    (occurrences windows).getD digest [] =
      (windows.filter fun window => window.1 == digest).map Prod.snd := by
  induction windows with
  | nil => simp [occurrences]
  | cons window rest inductionHypothesis =>
    obtain ⟨first, spot⟩ := window
    have step : occurrences ((first, spot) :: rest) =
        (occurrences rest).insert first (spot :: (occurrences rest).getD first []) := rfl
    rw [step, Std.HashMap.getD_insert]
    by_cases same : first = digest
    · subst same
      simp [inductionHypothesis]
    · simp [same, inductionHypothesis]

/-- The window at another spot is a duplicate of the one at a spot: it has the same lines, the two
do not overlap, and the two files are not reported as a whole. -/
structure IsDuplicate
    (size : Nat)
    (files : List CodeFile)
    (pairs : List (Nat × Nat))
    (spot other : Spot) : Prop where
  same : ∃ lines, windowAt? size files spot = some lines ∧ windowAt? size files other = some lines
  apart : other.file ≠ spot.file ∨ spot.start + size ≤ other.start ∨
    other.start + size ≤ spot.start
  unreported : (min spot.file other.file, max spot.file other.file) ∉ pairs

theorem countsFor_eq_true_iff
    (size : Nat)
    (pairs : List (Nat × Nat))
    (spot other : Spot) :
    countsFor size pairs spot other = true ↔
      (other.file ≠ spot.file ∨ spot.start + size ≤ other.start ∨
          other.start + size ≤ spot.start) ∧
        (min spot.file other.file, max spot.file other.file) ∉ pairs := by
  have distance : ¬max other.start spot.start - min other.start spot.start < size ↔
      spot.start + size ≤ other.start ∨ other.start + size ≤ spot.start := by
    omega
  simp only [countsFor, Bool.and_eq_true, Bool.not_eq_true', Bool.and_eq_false_iff,
    beq_eq_false_iff_ne, decide_eq_false_iff_not, distance, List.contains_eq_mem]

section Duplicates

variable {size : Nat} {files : List CodeFile} {pairs : List (Nat × Nat)}

/-- The duplicated windows of a file with the first other place of each. -/
def duplicatedIn
    (size : Nat)
    (files : List CodeFile)
    (pairs : List (Nat × Nat))
    (place : Nat) : List (Nat × Spot) :=
  duplicatedStarts size pairs (allWindows size files) (occurrences (allWindows size files)) place

theorem mem_duplicatedIn_iff
    (positive : 1 ≤ size)
    (place start : Nat)
    (twin : Spot) :
    (start, twin) ∈ duplicatedIn size files pairs place ↔
      ∃ lines, windowAt? size files ⟨place, start⟩ = some lines ∧
        ((occurrences (allWindows size files)).getD (windowDigest lines) []).find?
          (countsFor size pairs ⟨place, start⟩) = some twin := by
  simp only [duplicatedIn, duplicatedStarts, List.mem_filterMap, Prod.exists]
  constructor
  · rintro ⟨digest, spot, isWindow, found⟩
    obtain ⟨lines, lines_eq, rfl⟩ := (mem_allWindows_iff positive digest spot).mp isWindow
    split at found
    · rename_i same
      obtain ⟨other, isTwin, equal⟩ := Option.map_eq_some_iff.mp found
      obtain ⟨rfl, rfl⟩ := Prod.mk.inj equal
      have spot_eq : spot = ⟨place, spot.start⟩ := by rw [← beq_iff_eq.mp same]
      rw [← spot_eq]
      exact ⟨lines, lines_eq, isTwin⟩
    · cases found
  · rintro ⟨lines, lines_eq, isTwin⟩
    refine ⟨windowDigest lines, ⟨place, start⟩,
      (mem_allWindows_iff positive _ _).mpr ⟨lines, lines_eq, rfl⟩, ?_⟩
    rw [if_pos (beq_self_eq_true place), isTwin]
    rfl

/-- The duplicated windows of a file come in increasing order. -/
theorem pairwise_duplicatedIn (positive : 1 ≤ size) (place : Nat) :
    (duplicatedIn size files pairs place).Pairwise fun earlier later =>
      earlier.1 < later.1 := by
  rw [duplicatedIn, duplicatedStarts, List.pairwise_filterMap]
  refine (pairwise_allWindows positive).imp ?_
  rintro ⟨digest, spot⟩ ⟨otherDigest, other⟩ ordered
  have start_of {digest : String} {spot : Spot} {entry : Nat × Spot}
      (found : (if spot.file == place then
        (((occurrences (allWindows size files)).getD digest []).find?
          (countsFor size pairs spot)).map fun twin => (spot.start, twin)
        else none) = some entry) : spot.file = place ∧ entry.1 = spot.start := by
    split at found
    · rename_i same
      obtain ⟨twin, -, rfl⟩ := Option.map_eq_some_iff.mp found
      exact ⟨beq_iff_eq.mp same, rfl⟩
    · cases found
  intro entry found otherEntry otherFound
  obtain ⟨file_eq, start_eq⟩ := start_of found
  obtain ⟨otherFile_eq, otherStart_eq⟩ := start_of otherFound
  rw [start_eq, otherStart_eq]
  exact ordered (file_eq.trans otherFile_eq.symm)

variable
  (positive : 1 ≤ size)
  (normal : ∀ file ∈ files, file.IsNormal)
  (collisionFree : Digest.IsCollisionFree (windowTexts size files))

include positive normal collisionFree

/-- The index says where the lines of a window occur. -/
theorem mem_getD_occurrences_iff
    {spot : Spot}
    {lines : List String}
    (isWindow : windowAt? size files spot = some lines)
    (other : Spot) :
    other ∈ (occurrences (allWindows size files)).getD (windowDigest lines) [] ↔
      windowAt? size files other = some lines := by
  rw [getD_occurrences]
  simp only [List.mem_map, List.mem_filter, beq_iff_eq, Prod.exists, exists_eq_right,
    mem_allWindows_iff positive]
  constructor
  · rintro ⟨otherLines, isOther, same⟩
    rw [windowDigest_inj positive normal collisionFree isWindow isOther same]
    exact isOther
  · intro isOther
    exact ⟨lines, isOther, rfl⟩

/-- A twin that was found is a duplicate. -/
theorem isDuplicate_of_mem_duplicatedIn
    {place start : Nat}
    {twin : Spot}
    (member : (start, twin) ∈ duplicatedIn size files pairs place) :
    IsDuplicate size files pairs ⟨place, start⟩ twin := by
  obtain ⟨lines, isWindow, found⟩ := (mem_duplicatedIn_iff positive place start twin).mp member
  obtain ⟨apart, unreported⟩ := (countsFor_eq_true_iff _ _ _ _).mp (List.find?_some found)
  have isTwin := (mem_getD_occurrences_iff positive normal collisionFree isWindow twin).mp
    (List.mem_of_find?_eq_some found)
  exact ⟨⟨lines, isWindow, isTwin⟩, apart, unreported⟩

/-- Where there is a duplicate, a twin is found. -/
theorem exists_mem_duplicatedIn_iff (place start : Nat) :
    (∃ twin, (start, twin) ∈ duplicatedIn size files pairs place) ↔
      ∃ other, IsDuplicate size files pairs ⟨place, start⟩ other := by
  constructor
  · rintro ⟨twin, member⟩
    exact ⟨twin, isDuplicate_of_mem_duplicatedIn positive normal collisionFree member⟩
  · rintro ⟨other, ⟨lines, isWindow, isOther⟩, apart, unreported⟩
    have isSome := List.find?_isSome.mpr ⟨other,
      (mem_getD_occurrences_iff positive normal collisionFree isWindow other).mpr isOther,
      (countsFor_eq_true_iff size pairs ⟨place, start⟩ other).mpr ⟨apart, unreported⟩⟩
    obtain ⟨twin, found⟩ := Option.isSome_iff_exists.mp isSome
    exact ⟨twin, (mem_duplicatedIn_iff positive place start twin).mpr ⟨lines, isWindow, found⟩⟩

end Duplicates

end Duplication
end QualityGate
