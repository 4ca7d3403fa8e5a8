import QualityGate.Proofs.Run.GateOrder
import QualityGate.Proofs.Lock.File
import QualityGate.Proofs.Settings
import QualityGate.Proofs.Scope.Resolve
import QualityGate.Proofs.Text.Ends

/-!
# The remarks of a run

The remarks from before a run lead its report.  What the run itself remarks, on the lock, the files,
the exceptions and the gates, is never that the settings were replaced.
-/

namespace QualityGate

/-! ## Remarks on the settings -/

namespace Settings

/-- The notice says that the settings were replaced by the defaults. -/
def isReplacedNotice (notice : String) : Bool :=
  Text.startsWith notice "Configuration ignored"

theorem isReplacedNotice_replacedNotice (failure : Failure) :
    isReplacedNotice (replacedNotice failure) = true := by
  unfold isReplacedNotice replacedNotice Text.startsWith
  rw [List.isPrefixOf_iff_prefix, String.toList_append]
  exact List.IsPrefix.trans (by decide) (List.prefix_append _ _)

/-- A text that begins differently says something else. -/
theorem isReplacedNotice_append
    {start : String}
    (notShorter : ¬"Configuration ignored".toList <+: start.toList)
    (notLonger : ¬start.toList <+: "Configuration ignored".toList)
    (ending : String) :
    isReplacedNotice (start ++ ending) = false :=
  Text.startsWith_append_eq_false notShorter notLonger ending

/-- Remarks of which none says that the settings were replaced. -/
def AreOther (notices : List String) : Prop :=
  ∀ notice ∈ notices, isReplacedNotice notice = false

@[simp] theorem areOther_nil : AreOther [] := by
  simp [AreOther]

theorem areOther_singleton_append
    {start : String}
    (notShorter : ¬"Configuration ignored".toList <+: start.toList)
    (notLonger : ¬start.toList <+: "Configuration ignored".toList)
    (ending : String) :
    AreOther [start ++ ending] := by
  simp [AreOther, isReplacedNotice_append notShorter notLonger]

@[simp] theorem areOther_append (first second : List String) :
    AreOther (first ++ second) ↔ AreOther first ∧ AreOther second := by
  simp [AreOther, or_imp, forall_and]

end Settings

/-! ## Remarks of a run -/

open Settings (AreOther isReplacedNotice_append)

/-- Leave to take the lock comes with remarks on the lock. -/
theorem Lock.areOther_letIn
    {now : Instant}
    {window : Int}
    {force : Bool}
    {reading : Reading}
    {admission : Admission}
    (admitted : letIn now window force reading = .ok admission) :
    AreOther admission.notices := by
  unfold letIn at admitted
  split at admitted
  · cases admitted
    exact Settings.areOther_nil
  · cases admitted
    simp (disch := decide) only [String.append_assoc, Settings.areOther_singleton_append]
  · split_ifs at admitted
    · cases admitted
      simp (disch := decide) only [String.append_assoc, Settings.areOther_singleton_append]
    · cases admitted
      simp (disch := decide) only [String.append_assoc, Settings.areOther_singleton_append]

/-- Whoever takes the lock remarks on the lock. -/
theorem Lock.areOther_acquire
    {process : Nat}
    {now : Instant}
    {window : Int}
    {force : Bool}
    {tree changed : Tree}
    {guard : Guard}
    (taken : (acquire process now window force).runOn tree = (.ok guard, changed)) :
    AreOther guard.notices := by
  rcases guarded_cases taken with ⟨_, failed, -⟩ | ⟨reading, entered, -, -, -, taken⟩
  · cases failed
  · obtain ⟨admission, _, admitted, taken⟩ := Effect.exists_of_bind_ok taken
    rw [Effect.runOn_ofExcept] at admitted
    obtain ⟨_, _, -, taken⟩ := Effect.exists_of_bind_ok taken
    cases taken
    exact areOther_letIn (Prod.mk.inj admitted).1

theorem Scope.areOther_remarks (context : Context) (files : FileSet) :
    AreOther (remarks context files) := by
  unfold remarks
  split
  · simp (disch := decide) only [String.append_assoc, Settings.areOther_singleton_append]
  · exact Settings.areOther_nil

theorem Scope.areOther_candidates
    (tree : Tree)
    (git : Git)
    (pushBase? : Option String)
    (context : Context) :
    AreOther (candidates tree git pushBase? context).2.2 := by
  unfold candidates
  split
  · split
    · exact Settings.areOther_nil
    · simp (disch := decide) only [String.append_assoc, Settings.areOther_singleton_append]
  · simp (disch := decide) only [String.append_assoc, Settings.areOther_singleton_append]

/-- The choice of files comes with remarks on the files. -/
theorem Scope.areOther_resolve
    (tree : Tree)
    (exclusion : Exclusion)
    (git : Git)
    (pushBase? : Option String)
    (context : Context) :
    AreOther (resolve tree exclusion git pushBase? context).notices := by
  have offers : candidates tree git pushBase? context = (_, _, _) := Prod.ext rfl rfl
  rw [resolve_eq offers]
  exact (Settings.areOther_append _ _).mpr
    ⟨areOther_candidates tree git pushBase? context, areOther_remarks context _⟩

/-- A policy comes with remarks on its exceptions. -/
theorem Policy.areOther_load (tree : Tree) (now : Instant) : AreOther (load tree now).notices := by
  have told (ending : String) : Settings.isReplacedNotice ("Exception " ++ ending) = false :=
    isReplacedNotice_append (by decide) (by decide) ending
  unfold load
  split
  · cases readFrom tree with
    | ok policy =>
      refine (Settings.areOther_append _ _).mpr ⟨?_, ?_⟩
      · intro notice listed
        obtain ⟨exception, -, rfl⟩ := List.mem_map.mp listed
        unfold expiredNotice
        simp only [String.append_assoc, told]
      · intro notice listed
        obtain ⟨exception, -, rfl⟩ := List.mem_map.mp listed
        unfold unknownGateNotice
        simp only [String.append_assoc, told]
    | error failure =>
      unfold failureNotice
      simp (disch := decide) only [String.append_assoc, Settings.areOther_singleton_append]
  · exact Settings.areOther_nil

namespace Run

/-- The verdict on a gate comes with remarks that name the gate. -/
theorem Bench.areOther_judge (bench : Bench) (run : GateRun) :
    AreOther (bench.judge run).notices := by
  unfold judge
  split
  · rename_i result _
    intro notice listed
    obtain ⟨remark, -, rfl⟩ := List.mem_map.mp listed
    rw [String.append_assoc]
    cases run.gate <;> exact isReplacedNotice_append (by decide) (by decide) _
  · exact Settings.areOther_nil
  · exact Settings.areOther_nil

/-- A report is led by the remarks from before its run, and no other says that the settings were
replaced. -/
theorem exists_notices_of_perform
    {plan : Plan}
    {selection : Selection}
    {options : Options}
    {surroundings : Surroundings}
    {tree : Tree}
    {report : Report}
    (returned : (perform plan selection options surroundings tree).result = .ok report) :
    ∃ others, report.notices = options.notices ++ others ∧ AreOther others := by
  generalize started : start options surroundings tree = outcome
  obtain ⟨result, held⟩ := outcome
  cases result with
  | error failure =>
    rw [perform, started] at returned
    cases returned
  | ok guard =>
    cases eq_examine_of_perform started returned
    unfold examine assemble
    simp only [List.append_assoc]
    refine ⟨_, rfl, ?_⟩
    simp only [Settings.areOther_append, Lock.areOther_acquire started, Scope.areOther_resolve,
      Policy.areOther_load, true_and]
    intro notice listed
    obtain ⟨verdict, judged, remarked⟩ := List.mem_flatMap.mp listed
    obtain ⟨run, -, rfl⟩ := List.mem_map.mp judged
    exact Bench.areOther_judge _ run notice remarked

end Run
end QualityGate
