import QualityGate.Proofs.Tree
import Mathlib.Data.List.Infix

/-!
# Where paths lead

A path takes names and gives some of them back.  So the names of the place to which it leads stand
in the path, in the same order, and a name at the end of the path is the last name of the place.
-/

namespace QualityGate

/-! ## The pieces of a path -/

namespace Location

/-- The pieces of two texts with a slash between them. -/
theorem splitWhere_slash (first second : String) :
    Text.splitWhere (· == '/') (first ++ "/" ++ second) =
      Text.splitWhere (· == '/') first ++ Text.splitWhere (· == '/') second := by
  have characters : (first ++ "/" ++ second).toList = first.toList ++ '/' :: second.toList := by
    simp
  rw [Text.splitWhere, characters, List.splitOnP_append_cons _ _ (by simp), List.map_append]
  rfl

/-- The names of a path stand between its slashes. -/
theorem names_eq (path : String) :
    names path =
      ((Text.splitWhere (· == '/') path).filterMap ofPiece).filterMap Component.name? := by
  unfold names components
  rw [List.filterMap_append]
  split
  · rfl
  · split <;> rfl

/-- A path that goes on from a folder has the name of the folder. -/
theorem exists_names_cons
    {folder : String}
    (isName : (Text.splitWhere (· == '/') folder).filterMap ofPiece = [.name folder])
    (rest : List String) :
    ∃ others, names (String.intercalate "/" (folder :: rest)) = folder :: others := by
  rw [names_eq]
  cases rest with
  | nil =>
    rw [String.intercalate_singleton, isName]
    exact ⟨[], rfl⟩
  | cons name others =>
    rw [String.intercalate_cons_cons, splitWhere_slash, List.filterMap_append, isName]
    exact ⟨_, rfl⟩

/-- The last component of a path that goes on from folders. -/
theorem getLast?_components
    {path : String}
    {component : Component}
    (last : ((Text.splitWhere (· == '/') path).filterMap ofPiece).getLast? = some component)
    (folders : List String) :
    (components (String.intercalate "/" (folders ++ [path]))).getLast? = some component := by
  obtain ⟨before, pieces⟩ : ∃ before,
      Text.splitWhere (· == '/') (String.intercalate "/" (folders ++ [path])) =
        before ++ Text.splitWhere (· == '/') path := by
    by_cases atRoot : folders = []
    · rw [atRoot, List.nil_append, String.intercalate_singleton]
      exact ⟨[], rfl⟩
    · rw [String.intercalate_append_of_ne_nil atRoot (by simp), String.intercalate_singleton,
        splitWhere_slash]
      exact ⟨_, rfl⟩
  rw [components, pieces, List.filterMap_append, ← List.append_assoc, List.getLast?_append, last]
  rfl

end Location

/-! ## Names that are taken -/

namespace Tree

variable {tree : Tree} {steps : List Component} {reached names : List String}

/-- Names are taken from the steps in their order. -/
theorem sublist_of_follow (followed : tree.follow steps reached = .ok names) :
    names.Sublist (reached ++ steps.filterMap Component.name?) := by
  induction steps generalizing reached with
  | nil =>
    cases followed
    simp
  | cons step rest inductionHypothesis =>
    obtain ⟨-, next, stepped, goesOn⟩ := (follow_cons_eq_ok_iff ..).mp followed
    refine (inductionHypothesis goesOn).trans ?_
    cases step with
    | name name =>
      cases stepped
      simp [Component.name?]
    | parent =>
      obtain ⟨-, rfl⟩ : reached ≠ [] ∧ reached.dropLast = next := by
        simpa [stepFrom?] using stepped
      exact (List.dropLast_sublist reached).append_right _
    | root =>
      cases stepped
      exact List.Sublist.refl _
    | current =>
      cases stepped
      exact List.Sublist.refl _

/-- A name that is taken last is the last one. -/
theorem getLast?_of_follow
    {name : String}
    (last : steps.getLast? = some (.name name))
    (followed : tree.follow steps reached = .ok names) :
    names.getLast? = some name := by
  induction steps generalizing reached with
  | nil => cases last
  | cons step rest inductionHypothesis =>
    obtain ⟨-, next, stepped, goesOn⟩ := (follow_cons_eq_ok_iff ..).mp followed
    cases rest with
    | nil =>
      cases last
      cases stepped
      cases goesOn
      exact List.getLast?_concat
    | cons second others =>
      rw [List.getLast?_cons_cons] at last
      exact inductionHypothesis last goesOn

section Resolve

variable {path : String}

/-- The steps to a path are its components, without those of the root of the project. -/
theorem cases_of_resolve (resolved : tree.resolve path = .ok names) :
    ∃ steps, tree.follow steps [] = .ok names ∧
      (steps = (Location.components path).filter (· != .current) ∨
        ∃ before, before ++ steps = Location.components path) := by
  unfold resolve route? at resolved
  dsimp only at resolved
  split at resolved
  · cases resolved
  · rename_i steps route
    refine ⟨steps, resolved, ?_⟩
    split at route
    · exact Or.inr ⟨_, List.append_eq_of_isPrefixOf?_eq_some route⟩
    · exact Or.inl (Option.some.inj route).symm

/-- The names of a place stand in every path that leads there, in the same order. -/
theorem sublist_of_resolve (resolved : tree.resolve path = .ok names) :
    names.Sublist (Location.names path) := by
  obtain ⟨steps, followed, rfl | ⟨before, components_eq⟩⟩ := cases_of_resolve resolved
  · refine (sublist_of_follow followed).trans ?_
    rw [List.nil_append]
    exact (List.filter_sublist ..).filterMap _
  · refine (sublist_of_follow followed).trans ?_
    rw [List.nil_append, Location.names, ← components_eq, List.filterMap_append]
    exact List.sublist_append_right _ _

/-- A path that ends with a name leads to a place with that name, or to the project itself. -/
theorem getLast?_of_resolve
    {name : String}
    (last : (Location.components path).getLast? = some (.name name))
    (resolved : tree.resolve path = .ok names) :
    names = [] ∨ names.getLast? = some name := by
  obtain ⟨steps, followed, rfl | ⟨before, components_eq⟩⟩ := cases_of_resolve resolved
  · obtain ⟨front, components_eq⟩ := List.getLast?_eq_some_iff.mp last
    rw [components_eq] at followed
    refine Or.inr (getLast?_of_follow ?_ followed)
    rw [List.filter_append]
    exact List.getLast?_concat
  · cases steps with
    | nil =>
      cases followed
      exact Or.inl rfl
    | cons step rest =>
      refine Or.inr (getLast?_of_follow ?_ followed)
      rw [← components_eq, List.getLast?_append_of_ne_nil _ (by simp)] at last
      exact last

end Resolve
end Tree
end QualityGate
