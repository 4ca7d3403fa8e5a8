import QualityGate.Gate
import QualityGate.Proofs.Effect
import QualityGate.Proofs.Text.Blanks
import Mathlib.Data.List.Sort
import Mathlib.Data.Set.List

/-!
# Lists of gates in writing

A list of names is read exactly if every name in it is the name of a gate.  The gates that are read
are the ones that are named, each once and in the order of execution, so the order of the names,
repetitions, blanks and empty names make no difference.  Otherwise the first unknown name is
reported.
-/

namespace QualityGate

/-! ## Repetitions -/

section Repetitions

variable {α : Type} [BEq α] [LawfulBEq α]

theorem mem_eraseRepsBy_loop_iff {item current : α} {rest kept : List α} :
    item ∈ List.eraseRepsBy.loop (· == ·) current rest kept ↔
      item ∈ kept ∨ item = current ∨ item ∈ rest := by
  induction rest generalizing current kept with
  | nil => simp [List.eraseRepsBy.loop, or_comm]
  | cons next others inductionHypothesis =>
    rw [List.eraseRepsBy.loop]
    split
    · rename_i same
      rw [inductionHypothesis, List.mem_cons, eq_of_beq same]
      tauto
    · rw [inductionHypothesis, List.mem_cons, List.mem_cons]
      tauto

/-- Nothing goes lost but repetitions. -/
theorem mem_eraseReps_iff {item : α} {items : List α} : item ∈ items.eraseReps ↔ item ∈ items := by
  cases items with
  | nil => rfl
  | cons first rest =>
    rw [List.eraseReps, List.eraseRepsBy, mem_eraseRepsBy_loop_iff, List.mem_cons]
    simp

theorem pairwise_eraseRepsBy_loop
    {lt : α → α → Prop}
    (trans : ∀ first second third, lt first second → lt second third → lt first third)
    {current : α}
    {rest kept : List α}
    (keptOrdered : (current :: kept).Pairwise fun later earlier => lt earlier later)
    (restOrdered : (current :: rest).Pairwise fun earlier later =>
      earlier = later ∨ lt earlier later) :
    (List.eraseRepsBy.loop (· == ·) current rest kept).Pairwise lt := by
  induction rest generalizing current kept with
  | nil => rwa [List.eraseRepsBy.loop, List.pairwise_reverse]
  | cons next others inductionHypothesis =>
    obtain ⟨fromCurrent, nextOrdered⟩ := List.pairwise_cons.mp restOrdered
    rw [List.eraseRepsBy.loop]
    split
    · rename_i same
      rw [← eq_of_beq same] at nextOrdered
      exact inductionHypothesis keptOrdered nextOrdered
    · rename_i differ
      have less : lt current next :=
        (fromCurrent next List.mem_cons_self).resolve_left fun same => by simp [same] at differ
      -- what was kept before is below the current item, and that is below the next one
      refine inductionHypothesis (List.pairwise_cons.mpr ⟨fun earlier member => ?_, keptOrdered⟩)
        nextOrdered
      rcases List.mem_cons.mp member with rfl | before
      · exact less
      · exact trans _ _ _ ((List.pairwise_cons.mp keptOrdered).1 earlier before) less

/-- What is left of items in order is in strict order. -/
theorem pairwise_eraseReps
    {lt : α → α → Prop}
    (trans : ∀ first second third, lt first second → lt second third → lt first third)
    {items : List α}
    (ordered : items.Pairwise fun earlier later => earlier = later ∨ lt earlier later) :
    items.eraseReps.Pairwise lt := by
  cases items with
  | nil => exact List.Pairwise.nil
  | cons first rest =>
    exact pairwise_eraseRepsBy_loop trans (List.pairwise_singleton _ first) ordered

end Repetitions

namespace Gate

/-! ## The order of execution -/

theorem rank_injective : Function.Injective rank := by
  intro first second equal
  cases first <;> cases second <;> first | rfl | cases equal

/-- The first gate is run before the second one. -/
def Precedes (first second : Gate) : Prop :=
  first.rank < second.rank

instance : DecidableRel Precedes :=
  fun first second => inferInstanceAs (Decidable (first.rank < second.rank))

theorem mem_sorted {gate : Gate} {gates : List Gate} : gate ∈ sorted gates ↔ gate ∈ gates :=
  List.mem_mergeSort

theorem pairwise_sorted (gates : List Gate) :
    (sorted gates).Pairwise fun first second => first = second ∨ first.Precedes second := by
  have ordered : (sorted gates).Pairwise fun first second => first.rank ≤ second.rank := by
    simp only [sorted]
    simpa using @List.pairwise_mergeSort Gate (fun first second => first.rank ≤ second.rank)
      (by simpa using fun _ _ _ => Nat.le_trans) (by simpa using fun _ _ => Nat.le_total _ _) gates
  refine ordered.imp fun atMost => ?_
  rcases Nat.lt_or_eq_of_le atMost with less | equal
  · exact .inr less
  · exact .inl (rank_injective equal)

/-- Lists in the order of execution are told from the gates in them. -/
theorem eq_of_pairwise_precedes
    {gates others : List Gate}
    (ordered : gates.Pairwise Precedes)
    (othersOrdered : others.Pairwise Precedes)
    (same : ∀ gate, gate ∈ gates ↔ gate ∈ others) :
    gates = others := by
  have irreflexive {first second : Gate} (less : first.Precedes second) : first ≠ second := by
    rintro rfl
    exact Nat.lt_irrefl _ less
  have perm : gates.Perm others :=
    (List.perm_ext_iff_of_nodup (ordered.imp irreflexive) (othersOrdered.imp irreflexive)).mpr same
  refine perm.eq_of_pairwise (fun first second _ _ before behind => ?_) ordered othersOrdered
  exact absurd before (Nat.lt_asymm behind)

theorem pairwise_canonical (gates : List Gate) : (canonical gates).Pairwise Precedes := by
  have allOrdered : all.Pairwise Precedes := by decide
  exact allOrdered.sublist List.filter_sublist

/-- Sorted and without repetitions, gates are in canonical form. -/
theorem eraseReps_sorted (gates : List Gate) : (sorted gates).eraseReps = canonical gates := by
  have trans (first second third : Gate) (before : first.Precedes second)
      (behind : second.Precedes third) : first.Precedes third := Nat.lt_trans before behind
  refine eq_of_pairwise_precedes (pairwise_eraseReps trans (pairwise_sorted gates))
    (pairwise_canonical gates) fun gate => ?_
  rw [mem_eraseReps_iff, mem_sorted, mem_canonical]

theorem canonical_eq_nil_iff (gates : List Gate) : canonical gates = [] ↔ gates = [] := by
  simp only [List.eq_nil_iff_forall_not_mem, mem_canonical]

/-! ## Names -/

/-- The names in a list: what stands between the commas, without blanks around it; empty names do
not count. -/
def namesIn (text : String) : List String :=
  ((Text.splitWhere (· == ',') text).map Text.trim).filter fun name => name != ""

theorem map_trim_namesIn (text : String) : (namesIn text).map Text.trim = namesIn text := by
  refine List.map_congr_left (fun name named => ?_) |>.trans (List.map_id _)
  obtain ⟨piece, -, rfl⟩ := List.mem_map.mp (List.mem_of_mem_filter named)
  exact Text.trim_trim piece

theorem name_injective : Function.Injective name := by
  intro first second equal
  cases first <;> cases second <;> first | rfl | exact absurd equal (by decide)

/-- A gate is read from its name, with or without blanks around it. -/
theorem parse_eq_ok_iff (text : String) (gate : Gate) :
    parse text = .ok gate ↔ Text.trim text = gate.name := by
  unfold parse
  extract_lets wanted
  change _ ↔ wanted = gate.name
  constructor
  · intro parsed
    split at parsed
    · rename_i found
      cases parsed
      have named := List.find?_some found
      exact (beq_iff_eq.mp named).symm
    · cases parsed
  · intro named
    have found : all.find? (fun other => other.name == wanted) = some gate := by
      rw [named]
      cases gate <;> decide
    rw [found]

/-- What is not the name of a gate is reported without the blanks around it, beside all names. -/
theorem parse_eq_error_iff (text : String) (failure : Failure) :
    parse text = .error failure ↔
      Text.trim text ∉ validNames ∧ failure = .unknownGate (Text.trim text) validNames := by
  unfold parse
  extract_lets wanted
  change _ ↔ wanted ∉ validNames ∧ failure = .unknownGate wanted validNames
  split
  · rename_i gate found
    have equal := List.find?_some found
    have named : wanted ∈ validNames :=
      List.mem_map.mpr ⟨gate, mem_all gate, beq_iff_eq.mp equal⟩
    simp [named]
  · rename_i unknown
    have absent : wanted ∉ validNames := by
      intro named
      obtain ⟨gate, isGate, equal⟩ := List.mem_map.mp named
      exact absurd (beq_iff_eq.mpr equal) (List.find?_eq_none.mp unknown gate isGate)
    simp [absent, eq_comm]

/-- Gates are read from their names, one by one. -/
theorem mapM_parse_eq_ok_iff (names : List String) (gates : List Gate) :
    names.mapM parse = .ok gates ↔ names.map Text.trim = gates.map name := by
  induction names generalizing gates with
  | nil => cases gates <;> simp [pure, Except.pure]
  | cons text others inductionHypothesis =>
    rw [List.mapM_cons]
    cases gates with
    | nil => simp [Effect.bind_eq_ok_iff, pure, Except.pure]
    | cons gate more =>
      simp [Effect.bind_eq_ok_iff, pure, Except.pure, inductionHypothesis, parse_eq_ok_iff]

/-- A list is read as the gates that it names. -/
theorem parseList_eq_ok_iff (text : String) (gates : List Gate) :
    parseList text = .ok gates ↔
      ∃ named, namesIn text = named.map name ∧ canonical named = gates := by
  unfold parseList
  simp only [Effect.bind_eq_ok_iff, pure, Except.pure, Except.ok.injEq, eraseReps_sorted]
  refine exists_congr fun named => and_congr_left fun _ => ?_
  rw [mapM_parse_eq_ok_iff, ← namesIn, map_trim_namesIn]

/-- No gates are read exactly from a list without names. -/
theorem parseList_eq_ok_nil_iff (text : String) :
    parseList text = .ok [] ↔ namesIn text = [] := by
  simp [parseList_eq_ok_iff, canonical_eq_nil_iff]

/-- A list is read unless it has a name that is unknown. -/
theorem exists_parseList_eq_ok_iff (text : String) :
    (∃ gates, parseList text = .ok gates) ↔ ∀ name ∈ namesIn text, name ∈ validNames := by
  simp only [parseList_eq_ok_iff]
  constructor
  · rintro ⟨_, named, names_eq, -⟩ name listed
    rw [names_eq] at listed
    obtain ⟨gate, -, rfl⟩ := List.mem_map.mp listed
    exact List.mem_map_of_mem (mem_all gate)
  · intro known
    have areNames : namesIn text ∈ Set.range (List.map name) := by
      rw [Set.range_list_map]
      intro name listed
      obtain ⟨gate, -, equal⟩ := List.mem_map.mp (known name listed)
      exact ⟨gate, equal⟩
    obtain ⟨named, equal⟩ := areNames
    exact ⟨canonical named, named, equal.symm, rfl⟩

/-- The gates that are read are those that are named, in the order of execution. -/
theorem parseList_eq_ok_iff_of_known
    {text : String}
    (known : ∀ name ∈ namesIn text, name ∈ validNames)
    (gates : List Gate) :
    parseList text = .ok gates ↔
      gates.Pairwise Precedes ∧ ∀ gate : Gate, gate ∈ gates ↔ gate.name ∈ namesIn text := by
  obtain ⟨read, parsed⟩ := (exists_parseList_eq_ok_iff text).mpr known
  obtain ⟨named, names_eq, rfl⟩ := (parseList_eq_ok_iff text read).mp parsed
  have mem_iff (gate : Gate) : gate ∈ canonical named ↔ gate.name ∈ namesIn text := by
    rw [mem_canonical, names_eq, List.mem_map_of_injective name_injective]
  rw [parsed, Except.ok.injEq]
  constructor
  · rintro rfl
    exact ⟨pairwise_canonical named, mem_iff⟩
  · rintro ⟨ordered, members⟩
    exact eq_of_pairwise_precedes (pairwise_canonical named) ordered fun gate =>
      (mem_iff gate).trans (members gate).symm

/-! ## Unknown names -/

/-- The first name of a list that is not the name of a gate. -/
def IsFirstUnknown (names : List String) (unknown : String) : Prop :=
  ∃ known behind, names = known ++ unknown :: behind ∧ (∀ name ∈ known, name ∈ validNames) ∧
    unknown ∉ validNames

theorem isFirstUnknown_cons_iff (name : String) (others : List String) (unknown : String) :
    IsFirstUnknown (name :: others) unknown ↔
      (name ∉ validNames ∧ unknown = name) ∨
        (name ∈ validNames ∧ IsFirstUnknown others unknown) := by
  constructor
  · rintro ⟨known, behind, names_eq, allKnown, isUnknown⟩
    cases known with
    | nil =>
      obtain ⟨rfl, -⟩ := List.cons.inj names_eq
      exact .inl ⟨isUnknown, rfl⟩
    | cons first rest =>
      obtain ⟨rfl, others_eq⟩ := List.cons.inj names_eq
      obtain ⟨firstKnown, restKnown⟩ := List.forall_mem_cons.mp allKnown
      exact .inr ⟨firstKnown, rest, behind, others_eq, restKnown, isUnknown⟩
  · rintro (⟨isUnknown, rfl⟩ | ⟨isKnown, known, behind, rfl, allKnown, isUnknown⟩)
    · exact ⟨[], others, rfl, List.forall_mem_nil _, isUnknown⟩
    · exact ⟨name :: known, behind, rfl, List.forall_mem_cons.mpr ⟨isKnown, allKnown⟩, isUnknown⟩

/-- Names are read up to the first one that is unknown. -/
theorem mapM_parse_eq_error_iff (names : List String) (failure : Failure) :
    names.mapM parse = .error failure ↔
      ∃ unknown, IsFirstUnknown (names.map Text.trim) unknown ∧
        failure = .unknownGate unknown validNames := by
  induction names with
  | nil => simp [IsFirstUnknown, pure, Except.pure]
  | cons text others inductionHypothesis =>
    simp only [List.map_cons, isFirstUnknown_cons_iff]
    rw [List.mapM_cons]
    cases parsed : parse text with
    | error cause =>
      obtain ⟨isUnknown, rfl⟩ := (parse_eq_error_iff text cause).mp parsed
      simp [bind, Except.bind, isUnknown, eq_comm]
    | ok gate =>
      have isKnown : Text.trim text ∈ validNames := by
        rw [(parse_eq_ok_iff text gate).mp parsed]
        exact List.mem_map_of_mem (mem_all gate)
      have failure_iff : (do
            let gate ← (.ok gate : Except Failure Gate)
            let gates ← others.mapM parse
            pure (gate :: gates)) = .error failure ↔ others.mapM parse = .error failure := by
        cases others.mapM parse <;> simp [bind, Except.bind, pure, Except.pure]
      rw [failure_iff, inductionHypothesis]
      simp [isKnown]

theorem parseList_eq_error_iff (text : String) (failure : Failure) :
    parseList text = .error failure ↔
      ∃ unknown, IsFirstUnknown (namesIn text) unknown ∧
        failure = .unknownGate unknown validNames := by
  have failure_iff : parseList text = .error failure ↔
      (namesIn text).mapM parse = .error failure := by
    change ((namesIn text).mapM parse >>= fun gates => pure (sorted gates).eraseReps) = _ ↔ _
    cases (namesIn text).mapM parse <;> simp [bind, Except.bind, pure, Except.pure]
  rw [failure_iff, mapM_parse_eq_error_iff, map_trim_namesIn]

/-! ## Lists of the same names -/

/-- What stands between the commas of a list is arranged in another order, repeated, put between
blanks, or put beside nothing but blanks. -/
inductive Redrafts : List String → List String → Prop where
  | arrange {tokens others : List String} (perm : tokens.Perm others) : Redrafts tokens others
  | repeated {token : String} {tokens : List String} (member : token ∈ tokens) :
      Redrafts tokens (token :: tokens)
  | pad {token padded : String} (tokens : List String) (pads : Text.Pads token padded) :
      Redrafts (token :: tokens) (padded :: tokens)
  | fill {blanks : String} (tokens : List String) (blank : Text.isBlankText blanks = true) :
      Redrafts tokens (blanks :: tokens)
  | symm {tokens others : List String} : Redrafts tokens others → Redrafts others tokens
  | trans {tokens others further : List String} :
      Redrafts tokens others → Redrafts others further → Redrafts tokens further

theorem trim_eq_empty_of_isBlankText {text : String} (blank : Text.isBlankText text = true) :
    Text.trim text = "" := by
  have dropped : Text.dropStart Text.isBlank text.toList = [] := by
    rw [Text.dropStart, List.dropWhile_eq_nil_iff]
    exact List.all_eq_true.mp blank
  rw [Text.trim, Text.onCharacters, Text.strip, dropped]
  rfl

/-- The names are the same. -/
theorem Redrafts.mem_iff {tokens others : List String} (redrafts : Redrafts tokens others)
    (name : String) :
    name ∈ (tokens.map Text.trim).filter (· != "") ↔
      name ∈ (others.map Text.trim).filter (· != "") := by
  induction redrafts with
  | arrange perm => exact ((perm.map _).filter _).mem_iff
  | repeated member =>
    have named := List.mem_map_of_mem (f := Text.trim) member
    simp only [List.mem_filter, List.map_cons, List.mem_cons]
    constructor
    · exact fun kept => ⟨.inr kept.1, kept.2⟩
    · rintro ⟨rfl | further, kept⟩
      · exact ⟨named, kept⟩
      · exact ⟨further, kept⟩
  | pad tokens pads => rw [List.map_cons, List.map_cons, pads.trim_eq]
  | fill tokens blank => rw [List.map_cons, trim_eq_empty_of_isBlankText blank]; rfl
  | symm _ inductionHypothesis => exact inductionHypothesis.symm
  | trans _ _ first second => exact first.trans second

/-- Lists with the same names are read alike. -/
theorem parseList_eq_ok_of_sameNames
    {text other : String}
    (same : ∀ name, name ∈ namesIn text ↔ name ∈ namesIn other)
    {gates : List Gate}
    (parsed : parseList text = .ok gates) :
    parseList other = .ok gates := by
  have known := (exists_parseList_eq_ok_iff text).mp ⟨gates, parsed⟩
  have otherKnown : ∀ name ∈ namesIn other, name ∈ validNames :=
    fun name named => known name ((same name).mpr named)
  obtain ⟨ordered, members⟩ := (parseList_eq_ok_iff_of_known known gates).mp parsed
  exact (parseList_eq_ok_iff_of_known otherKnown gates).mpr
    ⟨ordered, fun gate => (members gate).trans (same gate.name)⟩

/-- A list is read exactly if all of its names are names of gates, and then as the gates that it
names, each once and in the order of execution, however the list is drafted.  Otherwise its first
unknown name is reported, beside the names of all gates. -/
theorem parseList_exact (text : String) :
    ((∃ gates, parseList text = .ok gates) ↔ ∀ name ∈ namesIn text, name ∈ validNames) ∧
      (∀ gates, parseList text = .ok gates →
        gates.Pairwise Precedes ∧ (∀ gate : Gate, gate ∈ gates ↔ gate.name ∈ namesIn text) ∧
          ∀ other,
            Redrafts (Text.splitWhere (· == ',') text) (Text.splitWhere (· == ',') other) →
              parseList other = .ok gates) ∧
      (∀ failure, parseList text = .error failure ↔
        ∃ unknown, IsFirstUnknown (namesIn text) unknown ∧
          failure = .unknownGate unknown validNames) ∧
      validNames =
        ["naming", "duplication", "god_object", "hidden_todo", "documentation", "placeholder"] := by
  refine ⟨exists_parseList_eq_ok_iff text, fun gates parsed => ?_, parseList_eq_error_iff text, rfl⟩
  have known := (exists_parseList_eq_ok_iff text).mp ⟨gates, parsed⟩
  obtain ⟨ordered, members⟩ := (parseList_eq_ok_iff_of_known known gates).mp parsed
  exact ⟨ordered, members, fun other redrafts =>
    parseList_eq_ok_of_sameNames redrafts.mem_iff parsed⟩

end Gate
end QualityGate
