/-!
# Dictionaries

A dictionary is a list of keys with their values, in increasing order of the keys and without
repetition.  `insert` keeps that order; a later value replaces an earlier one.
-/

namespace QualityGate

/-- Keys with their values, in increasing order of the keys. -/
abbrev Dictionary (α : Type) := List (String × α)

namespace Dictionary

variable {α : Type}

/-- Give a key a value, in place of the value it may have. -/
def insert (key : String) (value : α) : Dictionary α → Dictionary α
  | [] => [(key, value)]
  | (other, held) :: rest =>
    if key < other then (key, value) :: (other, held) :: rest
    else if key = other then (key, value) :: rest
    else (other, held) :: insert key value rest

/-- The value of a key. -/
def find? (key : String) (dictionary : Dictionary α) : Option α :=
  List.lookup key dictionary

theorem find?_cons (wanted key : String) (value : α) (rest : Dictionary α) :
    find? wanted ((key, value) :: rest) =
      if wanted = key then some value else find? wanted rest := by
  by_cases same : wanted = key
  · simp [find?, same]
  · have differs : (wanted == key) = false := beq_false_of_ne same
    simp [find?, List.lookup_cons, same, differs]

/-- An inserted value is found under its key, and every other key keeps its value. -/
theorem find?_insert (key wanted : String) (value : α) (dictionary : Dictionary α) :
    find? wanted (insert key value dictionary) =
      if wanted = key then some value else find? wanted dictionary := by
  induction dictionary with
  | nil => simp [insert, find?_cons]
  | cons pair rest ih =>
    obtain ⟨other, held⟩ := pair
    grind [insert, find?_cons]

/-- The key has a value. -/
def holds (key : String) (dictionary : Dictionary α) : Bool :=
  (find? key dictionary).isSome

/-- Insert pairs from the first to the last. -/
def ofList (pairs : List (String × α)) : Dictionary α :=
  pairs.foldl (fun dictionary pair => insert pair.1 pair.2 dictionary) []

/-- Of several values for a key the last one counts. -/
theorem find?_ofList (wanted : String) (pairs : List (String × α)) :
    find? wanted (ofList pairs) = find? wanted pairs.reverse := by
  rw [ofList, ← List.foldr_reverse]
  induction pairs.reverse with
  | nil => rfl
  | cons pair rest ih => rw [List.foldr_cons, find?_insert, ih, find?_cons]

/-! ## Order -/

/-- The keys are in strictly increasing order. -/
def Ascending (dictionary : Dictionary α) : Prop :=
  (dictionary.map Prod.fst).Pairwise (· < ·)

theorem mem_keys_insert {key other : String} {value : α} {dictionary : Dictionary α} :
    other ∈ (insert key value dictionary).map Prod.fst ↔
      other = key ∨ other ∈ dictionary.map Prod.fst := by
  induction dictionary with
  | nil => simp [insert]
  | cons pair rest ih =>
    obtain ⟨first, held⟩ := pair
    grind [insert]

/-- Inserting keeps the order of the keys. -/
theorem Ascending.insert {dictionary : Dictionary α} (ascending : Ascending dictionary)
    (key : String) (value : α) : Ascending (Dictionary.insert key value dictionary) := by
  induction dictionary with
  | nil => simp [Ascending, Dictionary.insert]
  | cons pair rest ih =>
    obtain ⟨first, held⟩ := pair
    have above : ∀ other ∈ rest.map Prod.fst, first < other := (List.pairwise_cons.1 ascending).1
    have tail : Ascending rest := (List.pairwise_cons.1 ascending).2
    unfold Dictionary.insert
    split
    · rename_i before
      refine List.pairwise_cons.2 ⟨?_, ascending⟩
      intro other member
      rcases List.mem_cons.1 member with rfl | later
      · exact before
      · exact String.lt_trans before (above other later)
    · split
      · rename_i equal
        subst equal
        exact ascending
      · rename_i notBefore differs
        refine List.pairwise_cons.2 ⟨?_, ih tail⟩
        intro other member
        rcases mem_keys_insert.1 member with rfl | later
        · exact Std.lt_of_le_of_ne (Std.not_lt.1 notBefore) (Ne.symm differs)
        · exact above other later

/-- The keys of a dictionary made of pairs are in order. -/
theorem ascending_ofList (pairs : List (String × α)) : Ascending (ofList pairs) := by
  have kept : ∀ (pairs : List (String × α)) (dictionary : Dictionary α), Ascending dictionary →
      Ascending (pairs.foldl (fun held pair => Dictionary.insert pair.1 pair.2 held)
        dictionary) := by
    intro pairs
    induction pairs with
    | nil => exact fun _ ascending => ascending
    | cons pair rest ih => exact fun _ ascending => ih _ (ascending.insert pair.1 pair.2)
  exact kept pairs [] List.Pairwise.nil

end Dictionary
end QualityGate
