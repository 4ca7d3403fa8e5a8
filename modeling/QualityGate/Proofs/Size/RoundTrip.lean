import QualityGate.Detector.Size.Scan
import QualityGate.Proofs.Json.Indented
import QualityGate.Proofs.StateDirectory

/-!
# Recorded sizes are read back

Recorded sizes are loaded as they were saved: every path, whatever characters it is made of, with
its number of lines, and the instant at which they were recorded.  They can be saved wherever
nothing is in the way of the state directory and of the file in it.
-/

namespace QualityGate
namespace Size
namespace Baseline

open Decoder Reader

/-- Sizes that can be recorded: the paths are in order, as in every dictionary, the numbers have 64
bits, and the instant is a proper one if there is one. -/
structure IsProper (baseline : Baseline) : Prop where
  generatedAt : ∀ instant ∈ baseline.generatedAt?, instant.IsProper
  ascending : Dictionary.Ascending baseline.files
  counts : ∀ entry ∈ baseline.files, entry.2 < Word.bound 64

/-! ## Writing -/

/-- The instant of recorded sizes in writing. -/
def instantText (instant? : Option Instant) : List Char :=
  match instant? with
  | some instant => Json.quotedText instant.zuluText
  | none => ['n', 'u', 'l', 'l']

/-- A number of lines in writing, behind the blank that sets it off. -/
def countText (count : Nat) : List Char :=
  [' '] ++ Nat.toDigits 10 count

/-- The paths and their sizes in writing. -/
def filesText (files : Dictionary Nat) : List Char :=
  Json.bracketed '\x7b' '\x7d' 1
    (files.map fun entry => Json.quotedText entry.1 ++ ':' :: countText entry.2)

/-- The members of recorded sizes in writing. -/
def pieces (baseline : Baseline) : List (List Char) :=
  [ Json.quotedText "generatedAt" ++ ':' :: [' '] ++ instantText baseline.generatedAt?,
    Json.quotedText "files" ++ ':' :: [' '] ++ filesText baseline.files ]

theorem indentedMembers_files (level : Nat) (files : Dictionary Nat) :
    Json.indentedMembers level (files.map fun (file, count) => (file, .natural count)) =
      files.map fun entry => Json.quotedText entry.1 ++ ':' :: countText entry.2 := by
  induction files with
  | nil => rfl
  | cons entry others inductionHypothesis =>
    rw [List.map_cons, List.map_cons, Json.indentedMembers, inductionHypothesis]
    simp [Json.natural, Json.indentedCharacters, Json.numberText, countText]

theorem toList_render (baseline : Baseline) :
    baseline.render.toList = Json.bracketed '\x7b' '\x7d' 0 baseline.pieces := by
  have instant_eq : Json.indentedCharacters 1
      (.ofOption (fun instant => .text (Instant.zuluText instant)) baseline.generatedAt?) =
        instantText baseline.generatedAt? := by
    cases baseline.generatedAt? <;> simp [Json.ofOption, Json.indentedCharacters, instantText]
  rw [render, Json.indented, String.toList_ofList, toJson, Json.indentedCharacters, pieces,
    Json.indentedMembers, Json.indentedMembers, Json.indentedMembers, instant_eq,
    Json.indentedCharacters, indentedMembers_files, filesText]

/-! ## Reading -/

theorem reads_instantText
    {instant? : Option Instant}
    (proper : ∀ instant ∈ instant?, instant.IsProper)
    {depth : Nat}
    {after : List Char} :
    Reads Decoder.instant.optional.fromText depth (instantText instant? ++ after) instant?
      after := by
  cases instant? with
  | none => exact reads_optional_null Decoder.instant
  | some instant =>
    have read : Reads Decoder.instant.fromText depth
        (Json.quotedText instant.zuluText ++ after) instant after :=
      reads_instant (proper instant rfl)
    rw [instantText]
    rw [quotedText_append] at read ⊢
    exact reads_optional rfl (by decide) read

theorem le_wordLimit {count : Nat} (below : count < Word.bound 64) : count ≤ wordLimit :=
  Nat.le_sub_one_of_lt below

theorem reads_countText
    {count : Nat}
    (below : count < Word.bound 64)
    {depth : Nat}
    {after : List Char}
    (ended : EndsInteger after) :
    Reads Decoder.size.fromText depth (countText count ++ after) count after := by
  have begins := beginsWithToken_natural (Word.bound 64) "usize"
  rw [countText, List.append_assoc]
  exact begins.reads (by simp [isLayout]) (reads_natural "usize" below (le_wordLimit below) ended)

theorem reads_filesText
    {files : Dictionary Nat}
    (ascending : Dictionary.Ascending files)
    (counts : ∀ entry ∈ files, entry.2 < Word.bound 64)
    {depth : Nat}
    (positive : 0 < depth)
    {after : List Char} :
    Reads Decoder.size.dictionary.fromText (depth + 1) (filesText files ++ after) files after := by
  have reads : ∀ entry ∈ files, ∀ rest, EndsInteger rest →
      Reads Decoder.size.fromText depth (countText entry.2 ++ rest) entry.2 rest :=
    fun entry member _ ended => reads_countText (counts entry member) ended
  rw [filesText]
  exact reads_dictionary ascending reads positive 1

/-- The instant is read. -/
theorem reads_generatedAt
    {instant? : Option Instant}
    (proper : ∀ instant ∈ instant?, instant.IsProper)
    {depth : Nat}
    {after : List Char} :
    Reads (readMember fields "generatedAt" ⟨default, []⟩) depth
      (':' :: [' '] ++ instantText instant? ++ after)
      ⟨{ (default : Baseline) with generatedAt? := instant? }, ["generatedAt"]⟩ after := by
  have known : (fields.find? fun field => field.answersTo "generatedAt") =
      some (.stored "generatedAt" .nullable Decoder.instant.optional fun value baseline =>
        { baseline with generatedAt? := value }) := rfl
  exact reads_readMember_layout known rfl (beginsWithToken_optional _) (by simp [isLayout])
    (reads_instantText proper)

/-- The sizes are read behind the instant. -/
theorem reads_files
    {baseline : Baseline}
    (ascending : Dictionary.Ascending baseline.files)
    (counts : ∀ entry ∈ baseline.files, entry.2 < Word.bound 64)
    {depth : Nat}
    {after : List Char} :
    Reads
      (readMember fields "files"
        ⟨{ (default : Baseline) with generatedAt? := baseline.generatedAt? }, ["generatedAt"]⟩)
      (depth + 2) (':' :: [' '] ++ filesText baseline.files ++ after)
      ⟨baseline, ["files", "generatedAt"]⟩ after := by
  have known : (fields.find? fun field => field.answersTo "files") =
      some (.stored "files" .required Decoder.size.dictionary fun value baseline =>
        { baseline with files := value }) := rfl
  exact reads_readMember_layout known rfl (beginsWithToken_dictionary _) (by simp [isLayout])
    (reads_filesText ascending counts (by simp))

/-- Recorded sizes are read from their writing. -/
theorem reads_render
    {baseline : Baseline}
    (proper : baseline.IsProper) :
    Reads decoder.fromText Cursor.nestingLimit baseline.render.toList baseline [] := by
  have collects : Collects (readMember fields) 127 ⟨default, []⟩ baseline.pieces
      ⟨baseline, ["files", "generatedAt"]⟩ :=
    Collects.cons (fun _ _ => reads_generatedAt proper.generatedAt)
      (Collects.cons (fun _ _ => reads_files proper.ascending proper.counts) (Collects.nil _))
  obtain ⟨layout, closing, allLayout, allClosing, written⟩ :=
    exists_bracketed_append 0 baseline.pieces []
  rw [toList_render, ← List.append_nil (Json.bracketed ..), written]
  exact reads_record "Baseline" collects rfl (by decide) allLayout allClosing

/-- Recorded sizes are read back from their writing. -/
theorem parse_render
    {baseline : Baseline}
    (proper : baseline.IsProper) :
    parse baseline.render = .ok baseline :=
  run_of_reads (reads_render proper)

/-! ## Loading and saving -/

theorem denotes_baselinePath :
    Tree.Denotes Settings.baselinePath ".qgate" "god-object-baseline.json" :=
  ⟨fun _ => rfl, rfl⟩

/-- Recorded sizes are loaded from a file with their writing. -/
theorem load_of_render
    {tree : Tree}
    {baseline : Baseline}
    (proper : baseline.IsProper)
    (isFolder : tree.node? [".qgate"] = some .folder)
    (isFile : tree.node? [".qgate", "god-object-baseline.json"] =
      some (.file (.text baseline.render))) :
    load tree = .ok (some baseline) := by
  have found := (denotes_baselinePath.find_eq_file_iff _).mpr ⟨isFolder, isFile⟩
  have read := (denotes_baselinePath.read_eq_ok_iff _).mpr ⟨isFolder, isFile⟩
  have held : tree.holds Settings.baselinePath = true := by rw [Tree.holds, found]
  rw [load, held, read]
  simp [parse_render proper]

/-- Nothing is in the way of recorded sizes. -/
structure IsRecordable (tree : Tree) : Prop where
  directory : tree.node? [".qgate"] = none ∨ tree.node? [".qgate"] = some .folder
  place : tree.node? [".qgate", "god-object-baseline.json"] ≠ some .folder

/-- Saving makes the state directory and puts the writing of the sizes in it. -/
theorem save_eq_ok_iff (tree saved : Tree) (baseline : Baseline) :
    save tree baseline = .ok saved ↔
      ∃ made, tree.makeFolders Settings.stateDir = .ok made ∧
        made.write Settings.baselinePath (.text baseline.render) = .ok saved := by
  unfold save
  cases tree.makeFolders Settings.stateDir with
  | error fault => simp
  | ok made =>
    simp only [Except.ok.injEq, exists_eq_left']
    split <;> simp [*]

/-- Sizes are saved exactly where nothing is in the way. -/
theorem exists_save_iff (tree : Tree) (baseline : Baseline) :
    (∃ saved, save tree baseline = .ok saved) ↔ IsRecordable tree := by
  simp only [save_eq_ok_iff]
  constructor
  · rintro ⟨saved, made, makes, wrote⟩
    have directory := (Lock.exists_makeFolders_stateDir_iff tree).mp ⟨made, makes⟩
    have free := denotes_baselinePath.free_of_write wrote
    obtain ⟨-, rfl | rfl⟩ := Lock.cases_of_makeFolders makes
    · exact ⟨directory, free⟩
    · exact ⟨directory, by rwa [Tree.node?_put_of_ne _ _ (by simp)] at free⟩
  · rintro ⟨directory, place⟩
    obtain ⟨made, makes⟩ := (Lock.exists_makeFolders_stateDir_iff tree).mpr directory
    obtain ⟨isFolder, -⟩ := Lock.cases_of_makeFolders makes
    have edited : Tree.Edited [] tree made := Lock.edited_makeFolders makes
    exact ⟨_, made, makes,
      denotes_baselinePath.write_eq_ok isFolder (edited.ne_folder place) _⟩

/-- Sizes that were saved are in the state directory in writing. -/
theorem places_of_save
    {tree saved : Tree}
    {baseline : Baseline}
    (saves : save tree baseline = .ok saved) :
    saved.node? [".qgate"] = some .folder ∧
      saved.node? [".qgate", "god-object-baseline.json"] =
        some (.file (.text baseline.render)) := by
  obtain ⟨made, -, wrote⟩ := (save_eq_ok_iff ..).mp saves
  obtain ⟨isFolder, rfl⟩ := denotes_baselinePath.eq_of_write wrote
  exact ⟨by rwa [Tree.node?_put_of_ne _ _ (by simp)], Tree.node?_put_self _ _ (by simp)⟩

/-- Recorded sizes that can be recorded are read back from their writing.  They are saved unless
something is in the way, and from then on they are loaded, without a remark. -/
theorem load_save
    {baseline : Baseline}
    (proper : baseline.IsProper) :
    parse baseline.render = .ok baseline ∧
      ∀ tree,
        ((∃ saved, save tree baseline = .ok saved) ↔ IsRecordable tree) ∧
          ∀ saved, save tree baseline = .ok saved →
            load saved = .ok (some baseline) ∧ baselineOrNotice saved = (some baseline, []) := by
  refine ⟨parse_render proper, fun tree => ⟨exists_save_iff tree baseline, fun saved saves => ?_⟩⟩
  obtain ⟨isFolder, isFile⟩ := places_of_save saves
  have loaded := load_of_render proper isFolder isFile
  exact ⟨loaded, by rw [baselineOrNotice, loaded]⟩

/-- A path with a quotation mark, a backslash and control characters, another one beyond the Latin
letters, the largest number of lines and the last nanosecond of a leap day. -/
theorem load_save_of_odd_paths :
    let tree : Tree := Tree.empty "/project"
    let baseline : Baseline :=
      ⟨some ⟨⟨2024, 2, 29⟩, 86399, 999999999⟩,
        [("a\"b\\c\x01\n\x7f.rs", 0), ("漢/é.py", 18446744073709551615)]⟩
    baseline.IsProper ∧
      ∃ saved, save tree baseline = .ok saved ∧ load saved = .ok (some baseline) := by
  intro tree baseline
  have proper : baseline.IsProper :=
    { generatedAt := by decide
      ascending := by unfold Dictionary.Ascending; decide
      counts := by decide }
  obtain ⟨saved, saves⟩ := ((load_save proper).2 tree).1.mpr ⟨Or.inl rfl, nofun⟩
  exact ⟨proper, saved, saves, (((load_save proper).2 tree).2 saved saves).1⟩

end Baseline
end Size
end QualityGate
