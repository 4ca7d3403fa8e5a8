import QualityGate.Proofs.StateDirectory

/-!
# Whatever is in the file of the marker

The file of the marker may hold any bytes.  If they are a text, whether it is a marker or not, the
lock can be cleared and it can be forced; without force it is refused only where the text is a live
marker.  If they are no text, nothing helps: every operation fails and leaves the file.
-/

namespace QualityGate
namespace Lock

/-- The failure to read the file of the marker. -/
def unreadable (root : String) (fault : FileFault) : Failure :=
  .lock ("Failed to read " ++ Location.join root Settings.lockPath ++ ": " ++ fault.message)

/-- The lock was taken: its file has the marker of the process. -/
structure IsTaken
    (process : Nat)
    (now : Instant)
    (outcome : Except Failure Guard × Tree) : Prop where
  granted : ∃ guard, outcome.1 = .ok guard ∧ guard.marker = ⟨process, now⟩
  shown : markerNode? outcome.2 = some (.file (.text (Marker.mk process now).render))

/-- An operation failed, and the place of the marker stays as it was. -/
structure IsRefused
    {α : Type}
    (failure : Failure)
    (tree : Tree)
    (outcome : Except Failure α × Tree) : Prop where
  failed : outcome.1 = .error failure
  spared : markerNode? outcome.2 = markerNode? tree

/-- What can be done about a file with a text in the place of the marker. -/
structure IsManageable
    (tree : Tree)
    (text : String)
    (process : Nat)
    (now : Instant)
    (window : Int) : Prop where
  cleared : (clear.runOn tree).1 = .ok (Reading.ofText text).marker?
  free : status (clear.runOn tree).2 now window = .ok .free
  forced : IsTaken process now ((acquire process now window true).runOn tree)
  /-- Without force the lock is taken from anyone who does not hold it. -/
  unheld : (∀ marker, Marker.parse text = .ok marker → marker.isStale now window = true) →
    IsTaken process now ((acquire process now window false).runOn tree)
  held : ∀ marker, Marker.parse text = .ok marker → marker.isStale now window = false →
    IsRefused (.lockHeld marker.process marker.since.offsetText) tree
      ((acquire process now window false).runOn tree)

/-- Nothing can be done about the file in the place of the marker. -/
structure IsStuck
    (tree : Tree)
    (failure : Failure)
    (process : Nat)
    (now : Instant)
    (window : Int) : Prop where
  uncleared : IsRefused failure tree (clear.runOn tree)
  unknown : status (clear.runOn tree).2 now window = .error failure
  refused : ∀ force, IsRefused failure tree ((acquire process now window force).runOn tree)

section Content

variable {tree entered : Tree} {text : String} {bytes : List UInt8}

theorem readMarker_of_binary
    (opened : IsOpen tree)
    (there : markerNode? tree = some (.file (.binary bytes))) :
    readMarker tree = .error (unreadable tree.root .notText) := by
  have found := (denotes_lockPath.find_eq_file_iff _).mpr ⟨opened.folder, there⟩
  have read : tree.read Settings.lockPath = .error .notText := by
    simp [Tree.read, found, bind, Except.bind]
  rw [readMarker, read]
  rfl

theorem ofText_ne_absent (text : String) : Reading.ofText text ≠ .absent := by
  unfold Reading.ofText
  split <;> nofun

theorem ofText_eq_marked_iff (text : String) (marker : Marker) :
    Reading.ofText text = .marked marker ↔ Marker.parse text = .ok marker := by
  unfold Reading.ofText
  cases Marker.parse text <;> simp

/-- A marker that can be read is removed. -/
theorem clear_eq_of_text
    (inside : enter.runOn tree = (.ok (), entered))
    (there : markerNode? entered = some (.file (.text text))) :
    clear.runOn tree =
      (.ok (Reading.ofText text).marker?, entered.without [".qgate", "run.lock"]) := by
  have opened := isOpen_of_enter inside
  rw [clear, guarded_eq _ inside, readMarker_of_text opened there]
  dsimp only
  split
  · rename_i absent
    exact absurd absent (ofText_ne_absent text)
  · rw [Effect.runOn_bind, Effect.runOn_change,
      denotes_lockPath.remove_eq_ok opened.folder there]
    rfl

/-- Whoever is let in takes the lock. -/
theorem isTaken_of_letIn
    (usable : IsUsable tree)
    (there : markerNode? tree = some (.file (.text text)))
    {process : Nat}
    {now : Instant}
    {window : Int}
    {force : Bool}
    {admission : Admission}
    (admits : letIn now window force (.ofText text) = .ok admission) :
    IsTaken process now ((acquire process now window force).runOn tree) := by
  obtain ⟨guard, held, taken⟩ := usable.exists_acquire (Or.inr ⟨text, admission, there, admits⟩)
  rcases acquire_cases taken with ⟨_, granted, marker_eq, -, shown, -⟩ | ⟨_, failed, -⟩
  · cases granted
    rw [taken]
    exact ⟨⟨guard, rfl, marker_eq⟩, marker_eq ▸ shown⟩
  · cases failed

/-- Whoever is not let in is refused. -/
theorem isRefused_of_letIn
    (inside : enter.runOn tree = (.ok (), entered))
    (there : markerNode? tree = some (.file (.text text)))
    (process : Nat)
    {now : Instant}
    {window : Int}
    {force : Bool}
    {failure : Failure}
    (refuses : letIn now window force (.ofText text) = .error failure) :
    IsRefused failure tree ((acquire process now window force).runOn tree) := by
  have place := (spares_enter inside).place
  rw [acquire, guarded_eq _ inside, readMarker_of_text (isOpen_of_enter inside) (place.trans there)]
  dsimp only
  rw [Effect.runOn_bind, Effect.runOn_ofExcept, refuses]
  exact ⟨rfl, place⟩

/-- A run is let in if it is forced or finds no live marker. -/
theorem exists_letIn_of_unheld
    {now : Instant}
    {window : Int}
    {force : Bool}
    (unheld : force = true ∨
      ∀ marker, Marker.parse text = .ok marker → marker.isStale now window = true) :
    ∃ admission, letIn now window force (.ofText text) = .ok admission := by
  cases admitted : letIn now window force (.ofText text) with
  | ok admission => exact ⟨admission, rfl⟩
  | error failure =>
    obtain ⟨marker, isMarked, live, unforced, -⟩ := letIn_eq_error_iff.mp admitted
    rcases unheld with forced | stale
    · rw [forced] at unforced
      cases unforced
    · rw [stale marker ((ofText_eq_marked_iff text marker).mp isMarked)] at live
      cases live

/-- A text in the place of the marker is no obstacle, whatever it says. -/
theorem isManageable
    (usable : IsUsable tree)
    (there : markerNode? tree = some (.file (.text text)))
    (process : Nat)
    (now : Instant)
    (window : Int) :
    IsManageable tree text process now window := by
  obtain ⟨entered, inside⟩ := usable.exists_enter
  have opened := isOpen_of_enter inside
  have clears := clear_eq_of_text inside ((spares_enter inside).place.trans there)
  refine ⟨?_, ?_, ?_, ?_, ?_⟩
  · rw [clears]
  · rw [clears, status, readMarker_of_none (opened.without (by decide))
      (Tree.node?_without_self entered (by simp))]
    rfl
  · obtain ⟨admission, admits⟩ := exists_letIn_of_unheld (Or.inl rfl)
    exact isTaken_of_letIn usable there admits
  · intro unheld
    obtain ⟨admission, admits⟩ := exists_letIn_of_unheld (Or.inr unheld)
    exact isTaken_of_letIn usable there admits
  · intro marker parsed live
    have marked := (ofText_eq_marked_iff text marker).mpr parsed
    exact isRefused_of_letIn inside there process
      (letIn_eq_error_iff.mpr ⟨marker, marked, live, rfl, rfl⟩)

/-- Bytes that are no text in the place of the marker cannot be got rid of. -/
theorem isStuck
    (usable : IsUsable tree)
    (there : markerNode? tree = some (.file (.binary bytes)))
    (process : Nat)
    (now : Instant)
    (window : Int) :
    IsStuck tree (unreadable tree.root .notText) process now window := by
  obtain ⟨entered, inside⟩ := usable.exists_enter
  have place := (spares_enter inside).place
  have read := readMarker_of_binary (isOpen_of_enter inside) (place.trans there)
  rw [(edited_of_enter inside).root_eq] at read
  have clears : clear.runOn tree = (.error (unreadable tree.root .notText), entered) := by
    rw [clear, guarded_eq _ inside, read]
  refine ⟨?_, ?_, fun force => ?_⟩
  · rw [clears]
    exact ⟨rfl, place⟩
  · rw [clears, status, read]
    rfl
  · rw [acquire, guarded_eq _ inside, read]
    exact ⟨rfl, place⟩

end Content

/-- The lock can be cleared and forced exactly if the bytes in the file of the marker are a text:
then only a live marker keeps others out, and else every operation fails. -/
theorem manageable_or_stuck
    {tree : Tree}
    {bytes : List UInt8}
    (usable : IsUsable tree)
    (there : markerNode? tree = some (.file (.ofBytes bytes)))
    (process : Nat)
    (now : Instant)
    (window : Int) :
    (∀ text, Text.decode? bytes = some text → IsManageable tree text process now window) ∧
      (Text.decode? bytes = none →
        IsStuck tree (unreadable tree.root .notText) process now window) := by
  unfold Content.ofBytes at there
  constructor
  · intro text isText
    rw [isText] at there
    exact isManageable usable there process now window
  · intro noText
    rw [noText] at there
    exact isStuck usable there process now window

/-- An empty file is cleared, and a file with a single byte that is no text is not. -/
theorem manageable_or_stuck_of_stray_bytes :
    let tree (bytes : List UInt8) : Tree :=
      ⟨"/project", [([".qgate"], .folder), ([".qgate", "run.lock"], .file (.ofBytes bytes))]⟩
    let now : Instant := ⟨⟨2026, 5, 4⟩, 43200, 0⟩
    IsManageable (tree []) "" 7 now standardWindow ∧
      IsStuck (tree [0xff]) (unreadable "/project" .notText) 7 now standardWindow := by
  intro tree now
  have usable (bytes : List UInt8) : IsUsable (tree bytes) :=
    ⟨Or.inr rfl, nofun, nofun⟩
  constructor
  · exact (manageable_or_stuck (usable []) rfl 7 now standardWindow).1 "" (by decide +kernel)
  · exact (manageable_or_stuck (usable [0xff]) rfl 7 now standardWindow).2 (by decide +kernel)

end Lock
end QualityGate
