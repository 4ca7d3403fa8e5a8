import QualityGate.Tree

/-!
# Work on a project

A computation on the files of a project.  What it changed stays changed when it fails.
-/

namespace QualityGate

/-- A computation that changes the files of a project and may fail. -/
abbrev Effect (α : Type) := ExceptT Failure (StateM Tree) α

namespace Effect

variable {α : Type}

/-- The result of a computation, and the files after it. -/
def runOn (effect : Effect α) (tree : Tree) : Except Failure α × Tree :=
  (ExceptT.run effect).run tree

/-- A result that is known, or a failure. -/
def ofExcept (result : Except Failure α) : Effect α :=
  MonadExcept.ofExcept result

/-- Change the files, if that is possible. -/
def change (operation : Tree → Except FileFault Tree) (explain : FileFault → Failure) :
    Effect Unit := do
  match operation (← get) with
  | .ok tree => set tree
  | .error fault => throw (explain fault)

end Effect
end QualityGate
