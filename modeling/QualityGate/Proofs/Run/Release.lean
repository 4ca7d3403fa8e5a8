import QualityGate.Proofs.Run.Conservation
import QualityGate.Proofs.StateDirectory

/-!
# Release of the lock

A run that does not get the lock scans nothing and leaves the files of the project as they are,
apart from those that every attempt to take the lock needs.  A run that has the lock gives it back,
whether its report can be written or not and however its gates end.

A summary may be wanted in any place, also in that of the marker.  Behind the marker it makes the
marker unreadable, and the run leaves what it does not know as its own.
-/

namespace QualityGate
namespace Lock

/-! ## Guards -/

/-- The lock is held by a guard: its marker stands in its place. -/
structure HeldBy (tree : Tree) (guard : Guard) : Prop where
  proper : guard.marker.IsProper
  held : guard.isHeld = true
  opened : IsOpen tree
  shown : markerNode? tree = some (.file (.text guard.marker.render))

section Release

variable {tree : Tree} {guard : Guard}

/-- The marker of a guard is removed when the guard is released. -/
theorem HeldBy.release_eq (heldBy : HeldBy tree guard) :
    (release guard).runOn tree =
      (.ok guard.afterRelease, tree.without [".qgate", "run.lock"]) := by
  have read : readMarker tree = .ok (.marked guard.marker) := by
    rw [readMarker_of_text heldBy.opened heldBy.shown, Marker.ofText_render heldBy.proper]
  rcases Lock.release_eq heldBy.opened read heldBy.held with ⟨-, run⟩ | ⟨foreign, -⟩
  · exact run
  · exact absurd read foreign

/-- Another text in the place of the marker stays there. -/
theorem release_eq_of_text
    {text : String}
    (opened : IsOpen tree)
    (held : guard.isHeld = true)
    (there : markerNode? tree = some (.file (.text text)))
    (foreign : Reading.ofText text ≠ .marked guard.marker) :
    (release guard).runOn tree = (.ok guard.afterRelease, tree) := by
  have read := readMarker_of_text opened there
  rcases Lock.release_eq opened read held with ⟨carries, -⟩ | ⟨-, run⟩
  · rw [Carries, read] at carries
    exact absurd (Except.ok.inj carries) foreign
  · exact run

/-- A guard that was not released can be released, whatever text stands in the place of its marker.
No other file is changed. -/
theorem exists_release
    {text : String}
    (opened : IsOpen tree)
    (held : guard.isHeld = true)
    (there : markerNode? tree = some (.file (.text text))) :
    ∃ changed, (release guard).runOn tree = (.ok guard.afterRelease, changed) ∧
      ∀ names, names ≠ [".qgate", "run.lock"] → changed.node? names = tree.node? names := by
  rcases Lock.release_eq opened (readMarker_of_text opened there) held with ⟨-, run⟩ | ⟨-, run⟩
  · exact ⟨_, run, fun _ elsewhere => Tree.node?_without_of_ne tree elsewhere⟩
  · exact ⟨_, run, fun _ _ => rfl⟩

end Release

/-- Whoever does not get the lock leaves everything but the state directory, the file that guards
the section and the draft. -/
theorem node?_eq_of_refused
    {process : Nat}
    {now : Instant}
    {window : Int}
    {force : Bool}
    {tree changed : Tree}
    {failure : Failure}
    (refused : (acquire process now window force).runOn tree = (.error failure, changed))
    {names : List String}
    (elsewhere : names ∉ [[".qgate"], [".qgate", "run.lock.guard"], [".qgate", "run.lock.tmp"]]) :
    changed.node? names = tree.node? names := by
  simp only [List.mem_cons, List.not_mem_nil, or_false, not_or] at elsewhere
  by_cases place : names = [".qgate", "run.lock"]
  · rcases acquire_cases refused with ⟨_, taken, -⟩ | ⟨_, -, spares⟩
    · cases taken
    · rw [place]
      exact spares.place
  · have edited := edits_acquire process now window force tree
    rw [refused] at edited
    refine edited.node?_eq elsewhere.1 ?_
    simpa [fileNames] using ⟨place, elsewhere.2⟩

end Lock

namespace Report

/-! ## Reports and summaries -/

theorem denotes_reportPath : Tree.Denotes Settings.reportPath ".qgate" "report.json" :=
  ⟨fun _ => rfl, rfl⟩

/-- A report is written unless a folder is in its place. -/
theorem write_eq
    (report : Report)
    {tree : Tree}
    (isFolder : tree.node? [".qgate"] = some .folder) :
    (tree.node? [".qgate", "report.json"] ≠ some .folder ∧
        report.write.runOn tree =
          (.ok (), tree.put [".qgate", "report.json"] (.file (.text report.render)))) ∨
      tree.node? [".qgate", "report.json"] = some .folder ∧ ∃ message, report.write.runOn tree =
        (.error (.report (Location.join tree.root Settings.reportPath) message), tree) := by
  have made : tree.makeFolders Settings.stateDir = .ok tree := by
    rw [Lock.makeFolders_stateDir, isFolder]
  rw [write, Effect.runOn_bind, Effect.runOn_get]
  dsimp only
  rw [Effect.runOn_bind, Effect.runOn_change, made]
  dsimp only
  rw [Effect.runOn_change]
  by_cases obstructed : tree.node? [".qgate", "report.json"] = some .folder
  · cases written : tree.write Settings.reportPath (.text report.render) with
    | error fault => exact Or.inr ⟨obstructed, _, rfl⟩
    | ok changed => exact absurd obstructed (denotes_reportPath.free_of_write written)
  · rw [denotes_reportPath.write_eq_ok isFolder obstructed]
    exact Or.inl ⟨obstructed, rfl⟩

/-- Every summary begins with the mark of a title. -/
theorem exists_toList_summary (report : Report) :
    ∃ rest, report.summary.toList = '#' :: rest := by
  simp only [summary, summaryLines, List.cons_append, List.map_cons, String.join_cons,
    String.toList_append]
  exact ⟨_, rfl⟩

end Report

namespace Run

/-- A summary is wanted in a place. -/
def WantsSummaryAt (target? : Option String) (tree : Tree) (names : List String) : Prop :=
  ∃ target, target? = some target ∧ Tree.asksFolder target = false ∧
    tree.resolve target = .ok names

/-- Nothing happens to the files, or a summary is put where it is wanted, behind what is there. -/
theorem appendSummary_cases
    (target? : Option String)
    (report : Report)
    (tree : Tree) :
    appendSummary target? report tree = tree ∨
      ∃ names content, WantsSummaryAt target? tree names ∧ tree.node? names ≠ some .folder ∧
        (∀ before, tree.node? names = some (.file before) →
          content = before.append report.summary) ∧
        appendSummary target? report tree = tree.put names (.file content) := by
  cases target? with
  | none => exact Or.inl rfl
  | some target =>
    rw [appendSummary]
    cases appended : tree.append target report.summary with
    | error fault => exact Or.inl rfl
    | ok changed =>
      right
      unfold Tree.append at appended
      split at appended
      · rename_i before found
        obtain ⟨names, resolved, -, isFile⟩ := (Tree.find_eq_file_iff ..).mp found
        obtain ⟨_, again, file, -, free, changed_eq⟩ := (Tree.write_eq_ok_iff ..).mp appended
        rw [resolved] at again
        cases again
        refine ⟨names, _, ⟨target, rfl, file, resolved⟩, free, fun content there => ?_, changed_eq⟩
        rw [isFile] at there
        cases there
        rfl
      · rename_i notFile
        obtain ⟨names, resolved, file, -, free, changed_eq⟩ := (Tree.write_eq_ok_iff ..).mp appended
        refine ⟨names, _, ⟨target, rfl, file, resolved⟩, free, fun content there => ?_, changed_eq⟩
        exact absurd ((Tree.find_eq_file_iff ..).mpr ⟨names, resolved, file, there⟩)
          (notFile content)

section Summary

variable {target? : Option String} {tree : Tree}

/-- A summary changes nothing but the place where it is wanted. -/
theorem node?_appendSummary
    (report : Report)
    {names : List String}
    (elsewhere : ¬WantsSummaryAt target? tree names) :
    (appendSummary target? report tree).node? names = tree.node? names := by
  rcases appendSummary_cases target? report tree with same | ⟨others, _, wanted, -, -, put⟩
  · rw [same]
  · rw [put]
    refine Tree.node?_put_of_ne _ _ ?_
    rintro rfl
    exact elsewhere wanted

/-- A text is still a text with a summary behind it. -/
theorem exists_text_appendSummary
    (report : Report)
    {names : List String}
    {text : String}
    (there : tree.node? names = some (.file (.text text))) :
    ∃ changed, (appendSummary target? report tree).node? names = some (.file (.text changed)) := by
  rcases appendSummary_cases target? report tree with same | ⟨others, content, -, free, behind, put⟩
  · exact ⟨text, by rw [same, there]⟩
  · rw [put]
    by_cases here : names = others
    · subst here
      rw [behind _ there]
      have inside : names ≠ [] := by
        rintro rfl
        exact free rfl
      exact ⟨_, Tree.node?_put_self _ _ inside⟩
    · exact ⟨text, by rwa [Tree.node?_put_of_ne _ _ here]⟩

theorem isOpen_appendSummary
    (report : Report)
    (opened : Lock.IsOpen tree) :
    Lock.IsOpen (appendSummary target? report tree) := by
  rcases appendSummary_cases target? report tree with same | ⟨names, content, -, free, -, put⟩
  · rwa [same]
  · rw [put]
    obtain ⟨isFolder, held, isFile⟩ := opened
    refine ⟨((Tree.sameFolders_put_file tree content free).folder_iff _).mpr isFolder, ?_⟩
    by_cases here : [".qgate", "run.lock.guard"] = names
    · subst here
      exact ⟨content, Tree.node?_put_self _ _ (by simp)⟩
    · exact ⟨held, by rwa [Tree.node?_put_of_ne _ _ here]⟩

end Summary

/-! ## The end of a run -/

/-- A run without the lock has failed and scanned nothing.  What every attempt to take the lock may
change is the state directory, the file that guards the section and the draft; everything else
stays: the marker, the report, and a summary in any other place. -/
structure Withheld (failure : Failure) (tree : Tree) (trace : Trace) : Prop where
  result : trace.result = .error failure
  scanned : trace.scanned = []
  untouched : ∀ names,
    names ∉ [[".qgate"], [".qgate", "run.lock.guard"], [".qgate", "run.lock.tmp"]] →
      trace.tree.node? names = tree.node? names

/-- A run that had the lock on some files has come to an end and left other files. -/
structure Concluded
    (target? : Option String)
    (report : Report)
    (tree : Tree)
    (outcome : Except Failure Report)
    (left : Tree) : Prop where
  /-- The report is returned, or it could not be written. -/
  result : outcome = .ok report ∨
    ∃ message, outcome = .error (.report (Location.join tree.root Settings.reportPath) message)
  /-- The marker is gone, unless a summary was put in its place. -/
  released : (outcome = .ok report → ¬WantsSummaryAt target? tree [".qgate", "run.lock"]) →
    Lock.markerNode? left = none
  /-- The file of the report has the report that is returned, unless a summary was put behind it. -/
  kept : outcome = .ok report → ¬WantsSummaryAt target? tree [".qgate", "report.json"] →
    left.node? [".qgate", "report.json"] = some (.file (.text report.render))

section Deliver

variable {guard : Lock.Guard} {tree : Tree}

/-- The files when the report was written. -/
def afterReport (report : Report) (tree : Tree) : Tree :=
  tree.put [".qgate", "report.json"] (.file (.text report.render))

/-- The lock is still held when the report was written. -/
theorem heldBy_afterReport
    (report : Report)
    (heldBy : Lock.HeldBy tree guard) :
    Lock.HeldBy (afterReport report tree) guard where
  proper := heldBy.proper
  held := heldBy.held
  opened := heldBy.opened.put _ _
  shown := by
    rw [afterReport, Lock.markerNode?, Tree.node?_put_of_ne _ _ (by simp)]
    exact heldBy.shown

theorem wantsSummaryAt_afterReport_iff
    {target? : Option String}
    (report : Report)
    (free : tree.node? [".qgate", "report.json"] ≠ some .folder)
    (names : List String) :
    WantsSummaryAt target? (afterReport report tree) names ↔ WantsSummaryAt target? tree names := by
  have same := Tree.sameFolders_put_file tree (.text report.render) free
  simp only [WantsSummaryAt, afterReport, same.resolve_eq_ok_iff]

/-- The report is written, a summary is appended and the lock is released, or the report cannot be
written and the lock is released nevertheless. -/
theorem deliver_cases
    (target? : Option String)
    (report : Report)
    (heldBy : Lock.HeldBy tree guard) :
    (∃ left, tree.node? [".qgate", "report.json"] ≠ some .folder ∧
        (Lock.release guard).runOn (appendSummary target? report (afterReport report tree)) =
          (.ok guard.afterRelease, left) ∧
        (∀ names, names ≠ [".qgate", "run.lock"] →
          left.node? names =
            (appendSummary target? report (afterReport report tree)).node? names) ∧
        deliver target? guard report tree = (.ok report, left)) ∨
      tree.node? [".qgate", "report.json"] = some .folder ∧
        ∃ message, deliver target? guard report tree =
          (.error (.report (Location.join tree.root Settings.reportPath) message),
            tree.without [".qgate", "run.lock"]) := by
  unfold deliver
  rcases report.write_eq heldBy.opened.folder with ⟨free, written⟩ | ⟨obstructed, message, failed⟩
  · left
    have afterwards := heldBy_afterReport report heldBy
    obtain ⟨text, there⟩ : ∃ text, Lock.markerNode?
        (appendSummary target? report (afterReport report tree)) = some (.file (.text text)) :=
      exists_text_appendSummary report afterwards.shown
    obtain ⟨left, run, unchanged⟩ := Lock.exists_release
      (isOpen_appendSummary report afterwards.opened) heldBy.held there
    refine ⟨left, free, run, unchanged, ?_⟩
    rw [written]
    dsimp only
    rw [← afterReport, run]
  · right
    refine ⟨obstructed, message, ?_⟩
    rw [failed]
    dsimp only
    rw [abandon, heldBy.release_eq]

/-- A run that has the lock gives it back. -/
theorem concluded_deliver
    (target? : Option String)
    (report : Report)
    (heldBy : Lock.HeldBy tree guard) :
    Concluded target? report tree (deliver target? guard report tree).1
      (deliver target? guard report tree).2 := by
  rcases deliver_cases target? report heldBy with
    ⟨left, free, run, unchanged, returned⟩ | ⟨-, message, failed⟩
  · have afterwards := heldBy_afterReport report heldBy
    rw [returned]
    refine ⟨Or.inl rfl, fun elsewhere => ?_, fun _ elsewhere => ?_⟩
    · have unwanted := mt (wantsSummaryAt_afterReport_iff report free _).mp (elsewhere rfl)
      have still : Lock.HeldBy (appendSummary target? report (afterReport report tree)) guard :=
        { afterwards with
          opened := isOpen_appendSummary report afterwards.opened
          shown := (node?_appendSummary report unwanted).trans afterwards.shown }
      rw [still.release_eq] at run
      cases run
      exact Tree.node?_without_self _ (by simp)
    · have unwanted := mt (wantsSummaryAt_afterReport_iff report free _).mp elsewhere
      rw [unchanged _ (by simp), node?_appendSummary report unwanted]
      exact Tree.node?_put_self _ _ (by simp)
  · rw [failed]
    exact ⟨Or.inr ⟨message, rfl⟩, fun _ => Tree.node?_without_self _ (by simp), nofun⟩

/-- A summary that is wanted in the place of the marker is put behind the marker, and both stay. -/
theorem deliver_of_wantsSummaryAt_marker
    {target? : Option String}
    (report : Report)
    (heldBy : Lock.HeldBy tree guard)
    (free : tree.node? [".qgate", "report.json"] ≠ some .folder)
    (wanted : WantsSummaryAt target? tree [".qgate", "run.lock"]) :
    (deliver target? guard report tree).1 = .ok report ∧
      Lock.markerNode? (deliver target? guard report tree).2 =
        some (.file (.text (guard.marker.render ++ report.summary))) := by
  have afterwards := heldBy_afterReport report heldBy
  obtain ⟨target, rfl, file, resolved⟩ := (wantsSummaryAt_afterReport_iff report free _).mpr wanted
  have found := (Tree.find_eq_file_iff ..).mpr ⟨_, resolved, file, afterwards.shown⟩
  have possible : (afterReport report tree).node? [".qgate", "run.lock"] ≠ some .folder := by
    rw [← Lock.markerNode?, afterwards.shown]
    simp
  have written := (Tree.write_eq_ok_iff _ _ (.text (guard.marker.render ++ report.summary)) _).mpr
    ⟨_, resolved, file, afterwards.opened.folder, possible, rfl⟩
  have appended : appendSummary (some target) report (afterReport report tree) =
      (afterReport report tree).put [".qgate", "run.lock"]
        (.file (.text (guard.marker.render ++ report.summary))) := by
    rw [appendSummary, Tree.append, found]
    dsimp only
    rw [Content.append, written]
  have shown : Lock.markerNode? (appendSummary (some target) report (afterReport report tree)) =
      some (.file (.text (guard.marker.render ++ report.summary))) := by
    rw [appended]
    exact Tree.node?_put_self _ _ (by simp)
  obtain ⟨rest, begins⟩ := report.exists_toList_summary
  have foreign := Lock.Marker.ofText_render_append_ne heldBy.proper begins rfl guard.marker
  rcases deliver_cases (some target) report heldBy with ⟨left, -, run, -, returned⟩ | ⟨obstructed, -⟩
  · rw [Lock.release_eq_of_text (isOpen_appendSummary report afterwards.opened) heldBy.held shown
      foreign] at run
    cases run
    rw [returned]
    exact ⟨rfl, shown⟩
  · exact absurd obstructed free

end Deliver

/-! ## Whole runs -/

section Perform

variable {options : Options} {surroundings : Surroundings} {tree held : Tree} {guard : Lock.Guard}

/-- A run that has taken the lock holds it. -/
theorem heldBy_of_start
    (proper : (Lock.Marker.mk surroundings.process surroundings.now).IsProper)
    (taken : start options surroundings tree = (.ok guard, held)) :
    Lock.HeldBy held guard := by
  rcases Lock.acquire_cases taken with ⟨_, granted, marker_eq, isHeld, shown, opened⟩ | ⟨_, failed, -⟩
  · cases granted
    exact ⟨marker_eq ▸ proper, isHeld, opened, shown⟩
  · cases failed

/-- Whoever tries to take the lock edits nothing but its files. -/
theorem edited_start
    {result : Except Failure Lock.Guard}
    (run : start options surroundings tree = (result, held)) :
    Tree.Edited Lock.fileNames tree held := by
  have edited := Lock.edits_acquire surroundings.process surroundings.now Lock.standardWindow
    options.force tree
  rw [start] at run
  rwa [run] at edited

theorem perform_of_taken
    (plan : Plan)
    (selection : Selection)
    (taken : start options surroundings tree = (.ok guard, held)) :
    let report := examine plan selection options surroundings guard held
    let delivered := deliver surroundings.summaryTarget? guard report held
    perform plan selection options surroundings tree =
      ⟨delivered.1, options.gates, delivered.2⟩ := by
  rw [perform, taken]

theorem perform_of_refused
    (plan : Plan)
    (selection : Selection)
    {failure : Failure}
    (refused : start options surroundings tree = (.error failure, held)) :
    perform plan selection options surroundings tree = ⟨.error failure, [], held⟩ := by
  rw [perform, refused]

/-- A run whose summary is wanted in the place of the marker succeeds and leaves both there. -/
theorem perform_of_wantsSummaryAt_marker
    (plan : Plan)
    (selection : Selection)
    (proper : (Lock.Marker.mk surroundings.process surroundings.now).IsProper)
    (taken : start options surroundings tree = (.ok guard, held))
    (free : held.node? [".qgate", "report.json"] ≠ some .folder)
    (wanted : WantsSummaryAt surroundings.summaryTarget? held [".qgate", "run.lock"]) :
    (perform plan selection options surroundings tree).result =
        .ok (examine plan selection options surroundings guard held) ∧
      Lock.markerNode? (perform plan selection options surroundings tree).tree ≠ none := by
  obtain ⟨result, shown⟩ := deliver_of_wantsSummaryAt_marker
    (examine plan selection options surroundings guard held) (heldBy_of_start proper taken) free
    wanted
  rw [perform_of_taken plan selection taken]
  dsimp only
  rw [shown]
  exact ⟨result, by simp⟩

end Perform

/-- A run that does not get the lock has no effect.  A run that gets it ends with the lock released,
whatever its detectors did and whether its report could be written, also if others changed the files
while the gates were run, as long as they left its marker. -/
theorem perform_releases_lock
    (plan : Plan)
    (selection : Selection)
    (options : Options)
    {surroundings : Surroundings}
    (proper : (Lock.Marker.mk surroundings.process surroundings.now).IsProper)
    (tree : Tree) :
    (∀ failure refused, start options surroundings tree = (.error failure, refused) →
        Withheld failure tree (perform plan selection options surroundings tree)) ∧
      ∀ guard held, start options surroundings tree = (.ok guard, held) →
        let report := examine plan selection options surroundings guard held
        let trace := perform plan selection options surroundings tree
        trace.scanned = options.gates ∧
          Concluded surroundings.summaryTarget? report held trace.result trace.tree ∧
          ∀ meanwhile, Lock.IsOpen meanwhile →
            Lock.markerNode? meanwhile = some (.file (.text guard.marker.render)) →
              let delivered := deliver surroundings.summaryTarget? guard report meanwhile
              Concluded surroundings.summaryTarget? report meanwhile delivered.1 delivered.2 := by
  constructor
  · intro failure refused run
    rw [perform_of_refused plan selection run]
    exact ⟨rfl, rfl, fun _ elsewhere => Lock.node?_eq_of_refused run elsewhere⟩
  · intro guard held taken
    have heldBy := heldBy_of_start proper taken
    rw [perform_of_taken plan selection taken]
    exact ⟨rfl, concluded_deliver _ _ heldBy, fun meanwhile opened shown =>
      concluded_deliver _ _ { heldBy with opened := opened, shown := shown }⟩

/-- The gates of a run end in every possible way, and its lock is released.  Another run that comes
while the lock is held has no effect. -/
theorem perform_releases_lock_of_mixed_gates :
    let options : Options := { context := .ci }
    let surroundings : Surroundings :=
      ⟨7, ⟨⟨2026, 5, 4⟩, 43200, 0⟩, "run", some "/project/summary.md"⟩
    let other : Surroundings := ⟨8, ⟨⟨2026, 5, 4⟩, 43260, 0⟩, "other", none⟩
    let selection : Selection := ⟨.standard, .missing, none⟩
    let tree := Tree.empty "/project"
    ∃ guard held, start options surroundings tree = (.ok guard, held) ∧
      Lock.markerNode? (perform mixedPlan selection options surroundings tree).tree = none ∧
      ∃ failure, Withheld failure held (perform mixedPlan selection options other held) := by
  intro options surroundings other selection tree
  obtain ⟨guard, taken⟩ : ∃ guard, start options surroundings tree =
      (.ok guard, (start options surroundings tree).2) :=
    ⟨⟨⟨7, surroundings.now⟩, .unlocked, .held ⟨7, surroundings.now⟩, []⟩, Prod.ext rfl rfl⟩
  generalize held_eq : (start options surroundings tree).2 = held at taken
  refine ⟨guard, held, taken, ?_, ?_⟩
  · have proper : (Lock.Marker.mk surroundings.process surroundings.now).IsProper := by decide
    have granted := (perform_releases_lock mixedPlan selection options proper tree).2 guard held taken
    refine granted.2.1.released fun _ => ?_
    rintro ⟨target, wanted, -, resolved⟩
    cases wanted
    have route : held.route? "/project/summary.md" = some [.name "summary.md"] := by
      rw [Tree.route?, (edited_start taken).root_eq]
      decide +kernel
    simp [Tree.resolve, route, Tree.follow, Tree.node?] at resolved
  · have proper : (Lock.Marker.mk other.process other.now).IsProper := by decide
    have isLive : (start options other held).1.toOption.isNone = true := by
      rw [← held_eq]
      decide +kernel
    generalize run : start options other held = outcome at isLive
    obtain ⟨result, refused⟩ := outcome
    cases result with
    | ok guard => cases isLive
    | error failure =>
      exact ⟨failure,
        (perform_releases_lock mixedPlan selection options proper held).1 failure refused run⟩

/-- The summary of a run is wanted in the place of the marker: the run succeeds and leaves a marker
that nobody can read. -/
theorem perform_leaves_marker_under_summary :
    let options : Options := { context := .ci, gates := [.naming] }
    let surroundings : Surroundings :=
      ⟨7, ⟨⟨2026, 5, 4⟩, 43200, 0⟩, "run", some "/project/.qgate/run.lock"⟩
    let tree : Tree := ⟨"/project", [(["notes.txt"], .file (.text "ok\n"))]⟩
    let plan := Plan.standard {} surroundings.now
    let selection := Selection.ofProject tree {} .missing
    ∃ guard held, start options surroundings tree = (.ok guard, held) ∧
      (perform plan selection options surroundings tree).result =
        .ok (examine plan selection options surroundings guard held) ∧
      Lock.markerNode? (perform plan selection options surroundings tree).tree ≠ none := by
  intro options surroundings tree plan selection
  obtain ⟨guard, held, taken⟩ : ∃ guard held,
      start options surroundings tree = (.ok guard, held) :=
    Lock.IsUsable.exists_acquire ⟨by decide, by decide, by decide⟩ (Or.inl rfl)
  have edited := edited_start taken
  have proper : (Lock.Marker.mk surroundings.process surroundings.now).IsProper := by decide
  have free : held.node? [".qgate", "report.json"] ≠ some .folder := by
    rw [edited.node?_eq (by decide) (by decide)]
    decide
  have route : held.route? "/project/.qgate/run.lock" =
      some [.name ".qgate", .name "run.lock"] := by
    rw [Tree.route?, edited.root_eq]
    decide +kernel
  have wanted : WantsSummaryAt surroundings.summaryTarget? held [".qgate", "run.lock"] := by
    have atRoot : held.node? [] = some .folder := rfl
    have isFolder := (heldBy_of_start proper taken).opened.folder
    refine ⟨"/project/.qgate/run.lock", rfl, by decide +kernel, ?_⟩
    simp [Tree.resolve, route, Tree.follow, atRoot, isFolder]
  exact ⟨guard, held, taken,
    perform_of_wantsSummaryAt_marker plan selection proper taken free wanted⟩

end Run
end QualityGate
