import QualityGate.Effect

/-!
# Steps of work on a project

What one step does to the files of a project is known from what its parts do.
-/

namespace QualityGate
namespace Effect

variable {α β : Type}

/-- Steps that change no files succeed together. -/
theorem bind_eq_ok_iff
    {ε : Type}
    {first : Except ε α}
    {next : α → Except ε β}
    {value : β} :
    (first >>= next) = .ok value ↔ ∃ middle, first = .ok middle ∧ next middle = .ok value := by
  cases first <;> simp [bind, Except.bind]

/-- Steps that change no files fail at the first one that does. -/
theorem bind_eq_error_iff
    {ε : Type}
    {first : Except ε α}
    {next : α → Except ε β}
    {fault : ε} :
    (first >>= next) = .error fault ↔
      first = .error fault ∨ ∃ middle, first = .ok middle ∧ next middle = .error fault := by
  cases first <;> simp [bind, Except.bind]

/-- A step goes on where its first part has succeeded, and stops where it has failed. -/
theorem runOn_bind (first : Effect α) (next : α → Effect β) (tree : Tree) :
    (first >>= next).runOn tree =
      match first.runOn tree with
      | (.ok value, changed) => (next value).runOn changed
      | (.error failure, changed) => (.error failure, changed) := by
  have step : (first >>= next).runOn tree =
      (ExceptT.bindCont next (first.runOn tree).1) (first.runOn tree).2 := rfl
  rw [step]
  rcases first.runOn tree with ⟨result, changed⟩
  cases result <;> rfl

/-- If a step succeeds, all its parts do. -/
theorem exists_of_bind_ok
    {first : Effect α}
    {next : α → Effect β}
    {tree changed : Tree}
    {value : β}
    (succeeds : (first >>= next).runOn tree = (.ok value, changed)) :
    ∃ middle between, first.runOn tree = (.ok middle, between) ∧
      (next middle).runOn between = (.ok value, changed) := by
  rw [runOn_bind] at succeeds
  split at succeeds
  · rename_i middle between firstRun
    exact ⟨middle, between, firstRun, succeeds⟩
  · cases succeeds

theorem runOn_get (tree : Tree) : (get : Effect Tree).runOn tree = (.ok tree, tree) := rfl

theorem runOn_ofExcept (result : Except Failure α) (tree : Tree) :
    (ofExcept result).runOn tree = (result, tree) := by
  cases result <;> rfl

/-- A change that is not possible leaves the files as they are. -/
theorem runOn_change
    (operation : Tree → Except FileFault Tree)
    (explain : FileFault → Failure)
    (tree : Tree) :
    (change operation explain).runOn tree =
      match operation tree with
      | .ok changed => (.ok (), changed)
      | .error fault => (.error (explain fault), tree) := by
  unfold change
  rw [runOn_bind, runOn_get]
  dsimp only
  cases operation tree <;> rfl

/-- A change is made, or it is not possible. -/
theorem cases_of_change
    {operation : Tree → Except FileFault Tree}
    {explain : FileFault → Failure}
    {tree changed : Tree}
    {result : Except Failure Unit}
    (run : (change operation explain).runOn tree = (result, changed)) :
    (result = .ok () ∧ operation tree = .ok changed) ∨
      ∃ fault, result = .error (explain fault) ∧ changed = tree := by
  rw [runOn_change] at run
  split at run
  · rename_i succeeded
    cases run
    exact Or.inl ⟨rfl, succeeded⟩
  · rename_i fault _
    cases run
    exact Or.inr ⟨fault, rfl, rfl⟩

end Effect
end QualityGate
