import QualityGate.Scope.Git
import Mathlib.Data.List.Infix

/-!
# Lists of changes

Git writes an entry of a list of changes as a status and a path, or as a status and two paths if
the file was renamed or copied, and ends each of these fields with a zero byte.  Read back, such a
list gives the path of every entry.  Where the list is cut behind some field, the entries that are
still whole keep their paths, and what is left of the next one is not taken for a path.
-/

namespace QualityGate
namespace Git

/-! ## Fields -/

/-- What can stand between two zero bytes. -/
structure Field where
  text : String
  /-- An empty field would not be seen. -/
  nonempty : text ≠ ""
  /-- A zero byte would end the field. -/
  zeroFree : '\x00' ∉ text.toList

/-- Fields as git writes them, with a zero byte behind each. -/
def encode (fields : List Field) : String :=
  String.ofList (fields.flatMap fun field => field.text.toList ++ ['\x00'])

theorem Field.endsAtZero
    (field : Field)
    {character : Char}
    (member : character ∈ field.text.toList) :
    (character.toNat == 0) = false := by
  rw [beq_eq_false_iff_ne]
  intro zero
  have isZero : character = '\x00' := by
    rw [← Char.ofNat_toNat character, zero]
  exact field.zeroFree (isZero ▸ member)

/-- The pieces between zero bytes are the fields, and nothing follows the last zero byte. -/
theorem splitOnP_encode (fields : List Field) :
    (encode fields).toList.splitOnP (fun character => character.toNat == 0) =
      fields.map (fun field => field.text.toList) ++ [[]] := by
  rw [encode, String.toList_ofList]
  induction fields with
  | nil => rfl
  | cons field rest inductionHypothesis =>
    rw [List.flatMap_cons, List.append_assoc, List.singleton_append,
      List.splitOnP_append_cons_of_forall_mem (fun _ member => field.endsAtZero member) _ (by rfl),
      inductionHypothesis]
    rfl

/-- Fields are read as they were written. -/
theorem fields_encode (written : List Field) :
    fields (encode written) = written.map Field.text := by
  have allKept : ∀ field ∈ written.map Field.text, (field != "") = true := by
    intro text member
    obtain ⟨field, -, rfl⟩ := List.mem_map.mp member
    simpa using field.nonempty
  rw [fields, Text.splitWhere, splitOnP_encode, List.map_append, List.map_map, List.filter_append]
  have texts : written.map (String.ofList ∘ fun field => field.text.toList) =
      written.map Field.text :=
    List.map_congr_left fun field _ => String.ofList_toList
  rw [texts, List.filter_eq_self.mpr allKept]
  exact List.append_nil _

/-- A list without states is read as it was written. -/
theorem parseList_encode (written : List Field) :
    parseList (encode written) = written.map Field.text :=
  fields_encode written

/-! ## Entries -/

/-- The status is that of a renamed or of a copied file. -/
def Field.IsPaired (status : Field) : Prop :=
  status.text.toList.head? = some 'R' ∨ status.text.toList.head? = some 'C'

theorem Field.isPaired_iff (status : Field) : isPaired status.text = true ↔ status.IsPaired := by
  have begins (letter : Char) (characters : List Char) :
      [letter].isPrefixOf characters = true ↔ characters.head? = some letter := by
    cases characters with
    | nil => simp
    | cons first others => simpa [List.isPrefixOf] using eq_comm
  rw [isPaired, Bool.or_eq_true, Text.startsWith, Text.startsWith, IsPaired]
  exact or_congr (begins 'R' _) (begins 'C' _)

/-- An entry of a list of changes. -/
inductive Entry where
  | single (status path : Field) (unpaired : ¬ status.IsPaired)
  | paired (status old new : Field) (paired : status.IsPaired)

namespace Entry

/-- The fields of an entry. -/
def fields : Entry → List Field
  | single status path _ => [status, path]
  | paired status old new _ => [status, old, new]

/-- The path at which the changed file is now. -/
def path : Entry → String
  | single _ path _ => path.text
  | paired _ _ new _ => new.text

/-- A whole entry gives its path, and the next one begins behind it. -/
theorem changedPaths_append (entry : Entry) (behind : List String) :
    changedPaths (entry.fields.map Field.text ++ behind) = entry.path :: changedPaths behind := by
  cases entry with
  | single status path unpaired =>
    change changedPaths (status.text :: path.text :: behind) = path.text :: changedPaths behind
    conv => lhs; unfold changedPaths
    exact if_neg fun paired => unpaired (status.isPaired_iff.mp paired)
  | paired status old new paired =>
    change changedPaths (status.text :: old.text :: new.text :: behind) =
      new.text :: changedPaths behind
    conv => lhs; unfold changedPaths
    exact if_pos (status.isPaired_iff.mpr paired)

/-- An entry without its last field gives nothing, neither its status nor its old path. -/
theorem changedPaths_take
    (entry : Entry)
    {count : Nat}
    (incomplete : count < entry.fields.length) :
    changedPaths ((entry.fields.take count).map Field.text) = [] := by
  cases entry with
  | single status path unpaired =>
    match count, incomplete with
    | 0, _ => rfl
    | 1, _ => rfl
  | paired status old new paired =>
    match count, incomplete with
    | 0, _ => rfl
    | 1, _ => rfl
    | 2, _ =>
      change changedPaths [status.text, old.text] = []
      unfold changedPaths
      exact if_pos (status.isPaired_iff.mpr paired)

end Entry

/-! ## Lists that are cut -/

/-- The fields of several entries. -/
def fieldsOf (entries : List Entry) : List Field :=
  entries.flatMap Entry.fields

theorem fieldsOf_cons (entry : Entry) (rest : List Entry) :
    fieldsOf (entry :: rest) = entry.fields ++ fieldsOf rest :=
  List.flatMap_cons

/-- The entries of which all fields are among the first ones. -/
structure AreWhole (count : Nat) (entries whole : List Entry) : Prop where
  isPrefix : whole <+: entries
  /-- They are the first entries that fit, and no more would fit. -/
  fits_iff : ∀ front, front <+: entries → ((fieldsOf front).length ≤ count ↔ front <+: whole)

theorem areWhole_nil_of_lt
    {count : Nat}
    {entry : Entry}
    (incomplete : count < entry.fields.length)
    (rest : List Entry) :
    AreWhole count (entry :: rest) [] := by
  refine ⟨List.nil_prefix, fun front isFront => ?_⟩
  rw [List.prefix_nil]
  cases front with
  | nil => simp [fieldsOf]
  | cons first others =>
    have equal : first = entry := (List.cons_prefix_cons.mp isFront).1
    rw [equal, fieldsOf_cons, List.length_append]
    simpa using Nat.lt_add_right _ incomplete

theorem AreWhole.cons
    {count : Nat}
    {entry : Entry}
    {rest whole : List Entry}
    (complete : entry.fields.length ≤ count)
    (areWhole : AreWhole (count - entry.fields.length) rest whole) :
    AreWhole count (entry :: rest) (entry :: whole) := by
  refine ⟨List.cons_prefix_cons.mpr ⟨rfl, areWhole.isPrefix⟩, fun front isFront => ?_⟩
  cases front with
  | nil => simp [fieldsOf]
  | cons first others =>
    obtain ⟨rfl, othersFront⟩ := List.cons_prefix_cons.mp isFront
    rw [List.cons_prefix_cons, ← areWhole.fits_iff others othersFront, fieldsOf_cons,
      List.length_append]
    constructor
    · intro fits
      exact ⟨rfl, by omega⟩
    · rintro ⟨-, fits⟩
      omega

/-- Among the first fields of a list, the whole entries give their paths. -/
theorem exists_changedPaths_take (entries : List Entry) (count : Nat) :
    ∃ whole, AreWhole count entries whole ∧
      changedPaths (((fieldsOf entries).take count).map Field.text) = whole.map Entry.path := by
  induction entries generalizing count with
  | nil =>
    refine ⟨[], ⟨List.prefix_rfl, fun front isFront => ?_⟩, ?_⟩
    · rw [List.prefix_nil.mp isFront]
      simp [fieldsOf]
    · simp [fieldsOf, changedPaths]
  | cons entry rest inductionHypothesis =>
    rw [fieldsOf_cons, List.take_append]
    by_cases complete : entry.fields.length ≤ count
    · obtain ⟨whole, areWhole, paths⟩ := inductionHypothesis (count - entry.fields.length)
      refine ⟨entry :: whole, areWhole.cons complete, ?_⟩
      rw [List.take_of_length_le complete, List.map_append, entry.changedPaths_append, paths,
        List.map_cons]
    · have incomplete := Nat.lt_of_not_le complete
      refine ⟨[], areWhole_nil_of_lt incomplete rest, ?_⟩
      rw [Nat.sub_eq_zero_of_le incomplete.le, List.take_zero, List.append_nil,
        entry.changedPaths_take incomplete]
      rfl

/-- All entries are whole where nothing is cut off. -/
theorem AreWhole.eq
    {count : Nat}
    {entries whole : List Entry}
    (areWhole : AreWhole count entries whole)
    (uncut : (fieldsOf entries).length ≤ count) :
    whole = entries := by
  have reached := (areWhole.fits_iff entries List.prefix_rfl).mp uncut
  exact areWhole.isPrefix.eq_of_length_le reached.length_le

/-- A list of changes is read exactly: every entry gives its path, of two paths the new one, and a
list that is cut behind any of its fields gives the paths of the entries that are whole. -/
theorem parseChanges_exact (entries : List Entry) :
    parseChanges (encode (fieldsOf entries)) = entries.map Entry.path ∧
      ∀ count, ∃ whole, AreWhole count entries whole ∧
        parseChanges (encode ((fieldsOf entries).take count)) = whole.map Entry.path := by
  have cut (count : Nat) : ∃ whole, AreWhole count entries whole ∧
      parseChanges (encode ((fieldsOf entries).take count)) = whole.map Entry.path := by
    rw [parseChanges, fields_encode]
    exact exists_changedPaths_take entries count
  refine ⟨?_, cut⟩
  obtain ⟨whole, areWhole, paths⟩ := cut (fieldsOf entries).length
  rw [List.take_length, areWhole.eq (Nat.le_refl _)] at paths
  exact paths

example : parseChanges "R100\x00M\x00R100\x00M\x00C\x00A\x00" = ["R100", "C"] := by
  decide +kernel

end Git
end QualityGate
