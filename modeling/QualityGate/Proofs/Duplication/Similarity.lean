import QualityGate.Detector.Duplication
import Mathlib.Algebra.Order.Field.Basic
import Mathlib.Algebra.Order.Ring.Rat
import Mathlib.Data.Finset.Card

/-!
# Similar files

The similarity of two files is the share of their common lines among all their distinct lines.  In
exact numbers it lies between zero and one, it is the same in both directions, and it is never above
the ratio of the sizes.  So what that ratio rules out is not similar, and the similar pairs are all
pairs of long files of one kind whose similarity reaches the threshold.
-/

namespace QualityGate
namespace Duplication

/-- Exact numbers. -/
instance : Scale ℚ where
  zero := 0
  quotient part whole := part / whole

theorem quotient_eq (part whole : Nat) : (Scale.quotient part whole : ℚ) = part / whole := rfl

/-! ## Sets of lines -/

/-- The lines of a set. -/
def linesOf (set : Std.HashSet String) : Finset String :=
  set.toList.toFinset

/-- The distinct significant lines of a file. -/
def CodeFile.distinctLines (file : CodeFile) : Finset String :=
  (file.lines.map CodeLine.text).toFinset

theorem mem_linesOf {set : Std.HashSet String} {line : String} :
    line ∈ linesOf set ↔ line ∈ set := by
  rw [linesOf, List.mem_toFinset, Std.HashSet.mem_toList]

theorem nodup_toList (set : Std.HashSet String) : set.toList.Nodup :=
  Std.HashSet.distinct_toList.imp fun differs => by simpa using differs

theorem card_linesOf (set : Std.HashSet String) : (linesOf set).card = set.size := by
  rw [linesOf, List.toFinset_card_of_nodup (nodup_toList set), Std.HashSet.length_toList]

theorem linesOf_ofList (texts : List String) :
    linesOf (Std.HashSet.ofList texts) = texts.toFinset := by
  ext line
  rw [mem_linesOf, Std.HashSet.mem_ofList, List.mem_toFinset, List.contains_iff_mem]

/-- The counted lines are those that both sets have. -/
theorem sharedCount_eq (first second : Std.HashSet String) :
    sharedCount first second = (linesOf first ∩ linesOf second).card := by
  have common : linesOf first ∩ linesOf second =
      (first.toList.filter second.contains).toFinset := by
    ext line
    rw [Finset.mem_inter, mem_linesOf, mem_linesOf, List.mem_toFinset, List.mem_filter,
      Std.HashSet.mem_toList, Std.HashSet.contains_iff_mem]
  rw [common, List.toFinset_card_of_nodup ((nodup_toList first).filter _), sharedCount,
    List.countP_eq_length_filter]

/-- No more lines are shared than the sets have. -/
theorem sharedCount_le (first second : Std.HashSet String) :
    sharedCount first second ≤ first.size + second.size := by
  rw [sharedCount_eq, ← card_linesOf first]
  exact (Finset.card_le_card Finset.inter_subset_left).trans (Nat.le_add_right _ _)

/-- The distinct lines of two sets together are those of their union. -/
theorem unitedCount_eq (first second : Std.HashSet String) :
    unitedCount first second = (linesOf first ∪ linesOf second).card := by
  have counted := Finset.card_union_add_card_inter (linesOf first) (linesOf second)
  rw [unitedCount, sharedCount_eq, ← card_linesOf first, ← card_linesOf second]
  omega

theorem linesOf_eq_empty_iff (set : Std.HashSet String) :
    linesOf set = ∅ ↔ set.isEmpty = true := by
  rw [← Finset.card_eq_zero, card_linesOf, Std.HashSet.isEmpty_eq_size_eq_zero, beq_iff_eq]

/-- Two sets have no line together only if both of them are empty. -/
theorem unitedCount_eq_zero_iff (first second : Std.HashSet String) :
    unitedCount first second = 0 ↔ first.isEmpty = true ∧ second.isEmpty = true := by
  rw [unitedCount_eq, Finset.card_eq_zero, Finset.union_eq_empty, linesOf_eq_empty_iff,
    linesOf_eq_empty_iff]

/-! ## Similarity -/

/-- The share of the common lines of two sets among all their lines. -/
def overlap (first second : Finset String) : ℚ :=
  (first ∩ second).card / (first ∪ second).card

theorem overlap_empty : overlap ∅ ∅ = 0 := by
  simp [overlap]

section Overlap

variable (first second : Finset String)

theorem overlap_comm : overlap first second = overlap second first := by
  rw [overlap, overlap, Finset.inter_comm, Finset.union_comm]

theorem overlap_nonneg : 0 ≤ overlap first second :=
  div_nonneg (Nat.cast_nonneg _) (Nat.cast_nonneg _)

theorem overlap_le_one : overlap first second ≤ 1 := by
  have fewer : (first ∩ second).card ≤ (first ∪ second).card :=
    Finset.card_le_card (Finset.inter_subset_left.trans Finset.subset_union_left)
  exact div_le_one_of_le₀ (Nat.cast_le.mpr fewer) (Nat.cast_nonneg _)

/-- The similarity is never above the ratio of the sizes. -/
theorem overlap_le_ratio :
    overlap first second ≤
      ((min first.card second.card : ℕ) : ℚ) / (max first.card second.card : ℕ) := by
  have shared : (first ∩ second).card ≤ min first.card second.card :=
    le_min (Finset.card_le_card Finset.inter_subset_left)
      (Finset.card_le_card Finset.inter_subset_right)
  have united : max first.card second.card ≤ (first ∪ second).card :=
    max_le (Finset.card_le_card Finset.subset_union_left)
      (Finset.card_le_card Finset.subset_union_right)
  rcases Nat.eq_zero_or_pos (max first.card second.card) with empty | positive
  · -- both sets are empty, and both quotients are zero
    have nothing : (first ∩ second).card = 0 := by omega
    rw [overlap, nothing, empty]
    simp
  · exact div_le_div₀ (Nat.cast_nonneg _) (Nat.cast_le.mpr shared) (Nat.cast_pos.mpr positive)
      (Nat.cast_le.mpr united)

end Overlap

/-- In exact numbers the similarity is the share of the common lines. -/
theorem jaccard_eq (first second : Std.HashSet String) :
    (jaccard first second : ℚ) = overlap (linesOf first) (linesOf second) := by
  unfold jaccard
  split
  · rename_i empty
    rw [Bool.and_eq_true, ← linesOf_eq_empty_iff, ← linesOf_eq_empty_iff] at empty
    rw [empty.1, empty.2, overlap_empty]
    rfl
  · rw [quotient_eq, sharedCount_eq, unitedCount_eq, overlap]

/-! ## Pairs -/

/-- Two files are long enough and of one kind, they have lines, and the share of their common lines
reaches the threshold. -/
structure AreSimilar
    (leastLines : Nat)
    (threshold : ℚ)
    (first second : CodeFile) : Prop where
  firstLong : leastLines ≤ first.lines.length
  secondLong : leastLines ≤ second.lines.length
  kind : first.extension = second.extension
  lined : (first.distinctLines ∪ second.distinctLines).Nonempty
  reached : threshold ≤ overlap first.distinctLines second.distinctLines

/-- One pair stands before another: its first file is earlier, or its second one with the same first
file. -/
def SimilarPair.Precedes {α : Type} (pair other : SimilarPair α) : Prop :=
  pair.first < other.first ∨ pair.first = other.first ∧ pair.second < other.second

section Pairs

variable {leastLines : Nat} {threshold similarity : ℚ}

/-- The look at the sizes rules out nothing but what is below the threshold. -/
theorem similarity?_eq_some_iff {first second : Candidate} :
    similarity? leastLines threshold first second = some similarity ↔
      leastLines ≤ first.file.lines.length ∧ leastLines ≤ second.file.lines.length ∧
        first.file.extension = second.file.extension ∧
        (linesOf first.distinct ∪ linesOf second.distinct).Nonempty ∧
        threshold ≤ overlap (linesOf first.distinct) (linesOf second.distinct) ∧
        similarity = overlap (linesOf first.distinct) (linesOf second.distinct) := by
  have bounded := overlap_le_ratio (linesOf first.distinct) (linesOf second.distinct)
  have lined : (linesOf first.distinct ∪ linesOf second.distinct).Nonempty ↔
      max first.distinct.size second.distinct.size ≠ 0 := by
    rw [← card_linesOf, ← card_linesOf, Finset.nonempty_iff_ne_empty, ne_eq, Finset.union_eq_empty,
      ← Finset.card_eq_zero, ← Finset.card_eq_zero]
    omega
  rw [card_linesOf, card_linesOf] at bounded
  unfold similarity?
  dsimp only
  rw [lined, jaccard_eq, quotient_eq]
  split
  · rename_i unfit
    simp only [Bool.or_eq_true, decide_eq_true_eq, bne_iff_ne] at unfit
    constructor
    · nofun
    · rintro ⟨firstLong, secondLong, kind, -⟩
      rcases unfit with (short | short) | differs
      · omega
      · omega
      · exact absurd kind differs
  · rename_i fit
    simp only [Bool.or_eq_true, decide_eq_true_eq, bne_iff_ne, not_or, not_lt, not_not] at fit
    obtain ⟨⟨firstLong, secondLong⟩, kind⟩ := fit
    split
    · rename_i ruledOut
      simp only [Bool.or_eq_true, decide_eq_true_eq, beq_iff_eq] at ruledOut
      constructor
      · nofun
      · rintro ⟨-, -, -, inhabited, reached, -⟩
        rcases ruledOut with empty | below
        · exact absurd empty inhabited
        · exact absurd (reached.trans bounded) (not_le.mpr below)
    · rename_i notRuledOut
      simp only [Bool.or_eq_true, decide_eq_true_eq, beq_iff_eq, not_or] at notRuledOut
      split
      · rename_i reached
        simp [firstLong, secondLong, kind, notRuledOut.1, ge_iff_le.mp reached, eq_comm]
      · rename_i notReached
        simp [notReached]

/-- The pairs are those of candidates at two places, of which the first is the earlier one. -/
theorem mem_similarAmong_iff {pair : SimilarPair ℚ} {among : List Candidate} :
    pair ∈ similarAmong leastLines threshold among ↔
      ∃ (i j : Nat) (first second : Candidate), i < j ∧ among[i]? = some first ∧
        among[j]? = some second ∧ pair.first = first.place ∧ pair.second = second.place ∧
        similarity? leastLines threshold first second = some pair.similarity := by
  induction among with
  | nil => simp [similarAmong]
  | cons head rest inductionHypothesis =>
    rw [similarAmong, List.mem_append, List.mem_filterMap, inductionHypothesis]
    constructor
    · rintro (⟨second, isSecond, made⟩ | ⟨i, j, first, second, before, isFirst, isSecond, places⟩)
      · obtain ⟨similarity, measured, rfl⟩ := Option.map_eq_some_iff.mp made
        obtain ⟨j, atPlace⟩ := List.mem_iff_getElem?.mp isSecond
        exact ⟨0, j + 1, head, second, Nat.succ_pos j, rfl, atPlace, rfl, rfl, measured⟩
      · exact ⟨i + 1, j + 1, first, second, Nat.succ_lt_succ before, isFirst, isSecond, places⟩
    · rintro ⟨i, j, first, second, before, isFirst, isSecond, atFirst, atSecond, measured⟩
      obtain ⟨j, rfl⟩ := Nat.exists_eq_succ_of_ne_zero (Nat.ne_of_gt (Nat.zero_lt_of_lt before))
      cases i with
      | zero =>
        cases isFirst
        refine Or.inl ⟨second, List.mem_of_getElem? isSecond, ?_⟩
        rw [measured, Option.map_some, ← atFirst, ← atSecond]
      | succ i =>
        exact Or.inr ⟨i, j, first, second, Nat.lt_of_succ_lt_succ before, isFirst, isSecond,
          atFirst, atSecond, measured⟩

/-- The pairs of candidates in the order of their places are in order themselves. -/
theorem pairwise_similarAmong
    {among : List Candidate}
    (ordered : among.Pairwise fun first second => first.place < second.place) :
    (similarAmong leastLines threshold among).Pairwise SimilarPair.Precedes := by
  induction among with
  | nil => exact .nil
  | cons head rest inductionHypothesis =>
    obtain ⟨behind, restOrdered⟩ := List.pairwise_cons.mp ordered
    refine List.pairwise_append.mpr ⟨?_, inductionHypothesis restOrdered, ?_⟩
    · refine List.pairwise_filterMap.mpr (restOrdered.imp ?_)
      intro second third earlier pair isPair other isOther
      obtain ⟨_, -, rfl⟩ := Option.map_eq_some_iff.mp isPair
      obtain ⟨_, -, rfl⟩ := Option.map_eq_some_iff.mp isOther
      exact Or.inr ⟨rfl, earlier⟩
    · intro pair isPair other isOther
      obtain ⟨_, -, made⟩ := List.mem_filterMap.mp isPair
      obtain ⟨_, -, rfl⟩ := Option.map_eq_some_iff.mp made
      obtain ⟨_, _, first, _, -, isFirst, -, place_eq, -⟩ := mem_similarAmong_iff.mp isOther
      rw [SimilarPair.Precedes, place_eq]
      exact Or.inl (behind first (List.mem_of_getElem? isFirst))

end Pairs

/-! ## Files -/

/-- A file as a candidate. -/
def Candidate.ofFile (place : Nat) (file : CodeFile) : Candidate :=
  ⟨place, file, Std.HashSet.ofList (file.lines.map CodeLine.text)⟩

theorem getElem?_candidates (files : List CodeFile) (place : Nat) :
    (candidates files)[place]? = files[place]?.map (Candidate.ofFile place) := by
  rw [candidates, List.getElem?_map, List.getElem?_zipIdx, Option.map_map, Nat.zero_add]
  rfl

theorem pairwise_candidates (files : List CodeFile) :
    (candidates files).Pairwise fun first second => first.place < second.place := by
  rw [List.pairwise_iff_getElem]
  intro i j inside further before
  have first_eq := List.getElem?_eq_getElem inside
  have second_eq := List.getElem?_eq_getElem further
  rw [getElem?_candidates] at first_eq second_eq
  obtain ⟨_, -, isFirst⟩ := Option.map_eq_some_iff.mp first_eq
  obtain ⟨_, -, isSecond⟩ := Option.map_eq_some_iff.mp second_eq
  rw [← isFirst, ← isSecond]
  exact before

theorem linesOf_ofFile (place : Nat) (file : CodeFile) :
    linesOf (Candidate.ofFile place file).distinct = file.distinctLines :=
  linesOf_ofList _

/-- In exact numbers the similar pairs are all pairs of an earlier and a later file that are alike
enough, in the order of their places and with the shares of their common lines.  Such a share is the
same in both directions and lies between zero and one; what is shared is never more than the two
sizes, from whose sum it is taken away, and the divisor that is left is not zero. -/
theorem similarFiles_exact
    (leastLines : Nat)
    (threshold : ℚ)
    (files : List CodeFile) :
    (∀ pair, pair ∈ similarFiles leastLines threshold files ↔
        pair.first < pair.second ∧ ∃ first second, files[pair.first]? = some first ∧
          files[pair.second]? = some second ∧ AreSimilar leastLines threshold first second ∧
          pair.similarity = overlap first.distinctLines second.distinctLines) ∧
      (similarFiles leastLines threshold files).Pairwise SimilarPair.Precedes ∧
      (∀ pair ∈ similarFiles leastLines threshold files,
        0 ≤ pair.similarity ∧ pair.similarity ≤ 1) ∧
      ∀ first second : Std.HashSet String,
        (jaccard first second : ℚ) = jaccard second first ∧
          0 ≤ (jaccard first second : ℚ) ∧ (jaccard first second : ℚ) ≤ 1 ∧
          sharedCount first second ≤ first.size + second.size ∧
          ((first.isEmpty && second.isEmpty) = false → unitedCount first second ≠ 0) := by
  have exact_iff : ∀ pair, pair ∈ similarFiles leastLines threshold files ↔
      pair.first < pair.second ∧ ∃ first second, files[pair.first]? = some first ∧
        files[pair.second]? = some second ∧ AreSimilar leastLines threshold first second ∧
        pair.similarity = overlap first.distinctLines second.distinctLines := by
    intro pair
    rw [similarFiles, mem_similarAmong_iff]
    simp only [getElem?_candidates, Option.map_eq_some_iff]
    constructor
    · rintro ⟨i, j, _, _, before, ⟨first, isFirst, rfl⟩, ⟨second, isSecond, rfl⟩, atFirst, atSecond,
        measured⟩
      rw [similarity?_eq_some_iff, linesOf_ofFile, linesOf_ofFile] at measured
      obtain ⟨firstLong, secondLong, kind, lined, reached, similarity_eq⟩ := measured
      have first_eq : pair.first = i := atFirst
      have second_eq : pair.second = j := atSecond
      rw [first_eq, second_eq]
      exact ⟨before, first, second, isFirst, isSecond,
        ⟨firstLong, secondLong, kind, lined, reached⟩, similarity_eq⟩
    · rintro ⟨before, first, second, isFirst, isSecond, similar, similarity_eq⟩
      refine ⟨_, _, _, _, before, ⟨first, isFirst, rfl⟩, ⟨second, isSecond, rfl⟩, rfl, rfl, ?_⟩
      rw [similarity?_eq_some_iff, linesOf_ofFile, linesOf_ofFile]
      exact ⟨similar.firstLong, similar.secondLong, similar.kind, similar.lined, similar.reached,
        similarity_eq⟩
  refine ⟨exact_iff, pairwise_similarAmong (pairwise_candidates files), ?_, ?_⟩
  · intro pair isPair
    obtain ⟨-, first, second, -, -, -, similarity_eq⟩ := (exact_iff pair).mp isPair
    rw [similarity_eq]
    exact ⟨overlap_nonneg _ _, overlap_le_one _ _⟩
  · intro first second
    rw [jaccard_eq, jaccard_eq, overlap_comm (linesOf second)]
    refine ⟨rfl, overlap_nonneg _ _, overlap_le_one _ _, sharedCount_le first second, ?_⟩
    intro inhabited none
    obtain ⟨firstEmpty, secondEmpty⟩ := (unitedCount_eq_zero_iff first second).mp none
    rw [firstEmpty, secondEmpty] at inhabited
    cases inhabited

end Duplication
end QualityGate
