import QualityGate.Proofs.StateDirectory

/-!
# A guard recognises its marker

A marker is read back from its file as it was written, to the nanosecond, and the file of another
marker is read as another one.  So a guard removes its own marker when it is released, however long
the file was left alone, and never the marker of another guard.
-/

namespace QualityGate
namespace Lock

/-! ## Reading what was written -/

/-- What is known of a marker from its file. -/
structure Marker.IsReadBack (marker : Marker) : Prop where
  /-- The writing of the marker has the marker. -/
  text : Marker.parse marker.render = .ok marker
  /-- The marker is read wherever it was written. -/
  file : ∀ {tree written : Tree}, (writeMarker marker).runOn tree = (.ok (), written) →
    readMarker written = .ok (.marked marker)
  /-- Something else is read where a marker of another process or another instant was written. -/
  apart : ∀ {other : Marker}, other.IsProper →
    other.process ≠ marker.process ∨ other.since ≠ marker.since →
      ∀ {tree written otherTree otherWritten : Tree},
        (writeMarker marker).runOn tree = (.ok (), written) →
          (writeMarker other).runOn otherTree = (.ok (), otherWritten) →
            readMarker otherWritten ≠ readMarker written

theorem Marker.isReadBack
    {marker : Marker}
    (proper : marker.IsProper) :
    marker.IsReadBack where
  text := parse_render proper
  file wrote := carries_of_writeMarker proper wrote
  apart otherProper differs _ _ _ _ wrote otherWrote same := by
    have read : readMarker _ = _ := carries_of_writeMarker proper wrote
    have otherRead : readMarker _ = _ := carries_of_writeMarker otherProper otherWrote
    rw [read, otherRead] at same
    cases same
    simp at differs

/-! ## Releasing -/

section Release

variable {guard : Guard} {marker : Marker} {later entered : Tree}

/-- A release goes on in the guarded section. -/
theorem release_of_enter
    (holds : guard.isHeld = true)
    (enters : enter.runOn later = (.ok (), entered)) :
    (release guard).runOn later = (release guard).runOn entered := by
  unfold release
  rw [if_pos holds, guarded_eq _ enters, guarded_eq _ (isOpen_of_enter enters).enter_eq]

theorem exists_enter_error
    (blocked : ¬IsEnterable later) :
    ∃ failure entered, enter.runOn later = (.error failure, entered) := by
  generalize enters : enter.runOn later = outcome
  obtain ⟨failure | _, entered⟩ := outcome
  · exact ⟨failure, entered, rfl⟩
  · exact absurd ((exists_enter_iff later).mp ⟨entered, enters⟩) blocked

/-- A release fails where the guarded section cannot be entered. -/
theorem release_of_enter_error
    {failure : Failure}
    (holds : guard.isHeld = true)
    (fails : enter.runOn later = (.error failure, entered)) :
    (release guard).runOn later = (.error failure, entered) := by
  unfold release
  rw [if_pos holds, Effect.runOn_bind, fails]

/-- A marker in writing is read in the guarded section. -/
theorem readMarker_of_enter
    (proper : marker.IsProper)
    (there : markerNode? later = some (.file (.text marker.render)))
    (enters : enter.runOn later = (.ok (), entered)) :
    readMarker entered = .ok (.marked marker) := by
  have place := (spares_enter enters).place
  rw [readMarker_of_text (isOpen_of_enter enters) (place.trans there), Marker.ofText_render proper]

/-- A release removes the marker that is read if it is the one of the guard. -/
theorem release_of_render
    (holds : guard.isHeld = true)
    (proper : marker.IsProper)
    (there : markerNode? later = some (.file (.text marker.render)))
    (enters : enter.runOn later = (.ok (), entered)) :
    (release guard).runOn later =
      (.ok guard.afterRelease,
        if marker = guard.marker then entered.without [".qgate", "run.lock"] else entered) := by
  have read := readMarker_of_enter proper there enters
  have carries_iff : Carries entered guard.marker ↔ marker = guard.marker := by
    rw [Carries, read, Except.ok.injEq, Reading.marked.injEq]
  rw [release_of_enter holds enters]
  rcases release_eq (isOpen_of_enter enters) read holds with ⟨own, removed⟩ | ⟨foreign, kept⟩
  · rw [if_pos (carries_iff.mp own), removed]
  · rw [if_neg (mt carries_iff.mpr foreign), kept]

end Release

/-- A guard that has left its marker knows it from all others. -/
structure Guard.Recognises (guard : Guard) (held : Tree) : Prop where
  /-- Nothing is in the way of a release right away. -/
  enterable : IsEnterable held
  /-- The release removes the marker if it was left alone.  Nothing else is edited but the file that
  guards the section. -/
  removed : ∀ later, markerNode? later = markerNode? held → IsEnterable later →
    ∃ entered, Tree.Edited ["run.lock.guard"] later entered ∧
      (release guard).runOn later =
        (.ok guard.afterRelease, entered.without [".qgate", "run.lock"])
  /-- If something is in the way of the section, the release fails and leaves the marker. -/
  failed : ∀ later, ¬IsEnterable later →
    ∃ failure changed, (release guard).runOn later = (.error failure, changed) ∧
      markerNode? changed = markerNode? later
  /-- The release spares the marker of another process or of another instant. -/
  spared : ∀ later other, other.IsProper → other ≠ guard.marker →
    markerNode? later = some (.file (.text other.render)) →
      markerNode? ((release guard).runOn later).2 = markerNode? later

theorem recognises
    {guard : Guard}
    {held : Tree}
    (holds : guard.isHeld = true)
    (proper : guard.marker.IsProper)
    (there : markerNode? held = some (.file (.text guard.marker.render)))
    (opened : IsOpen held) :
    guard.Recognises held where
  enterable := opened.isEnterable
  removed later same enterable := by
    obtain ⟨entered, enters⟩ := (exists_enter_iff later).mpr enterable
    refine ⟨entered, edited_of_enter enters, ?_⟩
    rw [release_of_render holds proper (same.trans there) enters, if_pos rfl]
  failed later blocked := by
    obtain ⟨failure, entered, fails⟩ := exists_enter_error blocked
    exact ⟨failure, entered, release_of_enter_error holds fails, (spares_enter fails).place⟩
  spared later other otherProper differs otherThere := by
    generalize enters : enter.runOn later = outcome
    obtain ⟨_ | _, entered⟩ := outcome
    · rw [release_of_enter_error holds enters]
      exact (spares_enter enters).place
    · rw [release_of_render holds otherProper otherThere enters, if_neg differs]
      exact (spares_enter enters).place

/-- A marker is read back as it was written, and as no other marker.  So whoever has taken the lock,
with force or without, recognises its own marker when it releases the lock. -/
theorem marker_recognised
    {marker : Marker}
    (proper : marker.IsProper) :
    marker.IsReadBack ∧
      ∀ {window : Int} {force : Bool} {tree held : Tree} {guard : Guard},
        (acquire marker.process marker.since window force).runOn tree = (.ok guard, held) →
          guard.marker = marker ∧ guard.Recognises held := by
  refine ⟨Marker.isReadBack proper, ?_⟩
  intro window force tree held guard taken
  rcases acquire_cases taken with ⟨_, succeeded, marker_eq, holds, there, opened⟩ | ⟨_, failed, -⟩
  · cases succeeded
    have own : guard.marker.IsProper := by
      rw [marker_eq]
      exact proper
    exact ⟨marker_eq, recognises holds own there opened⟩
  · cases failed

/-- The largest process takes the lock in the last nanosecond of the leap day of the year 0. -/
theorem marker_recognised_in_last_nanosecond :
    let marker : Marker := ⟨4294967295, ⟨⟨0, 2, 29⟩, 86399, 999999999⟩⟩
    marker.IsProper ∧
      ∃ guard held,
        (acquire marker.process marker.since standardWindow false).runOn (Tree.empty "/project") =
            (.ok guard, held) ∧
          guard.Recognises held := by
  intro marker
  have proper : marker.IsProper := by decide
  have usable : IsUsable (Tree.empty "/project") := ⟨Or.inl rfl, nofun, nofun⟩
  obtain ⟨guard, held, taken⟩ := usable.exists_acquire (Or.inl rfl)
  exact ⟨proper, guard, held, taken, ((marker_recognised proper).2 taken).2⟩

end Lock
end QualityGate
