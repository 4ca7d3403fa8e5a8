import QualityGate.Lock.Marker
import QualityGate.Proofs.Json.Record

/-!
# Markers are read back

A marker is read back from its file as it was written, if its process has a number of 32 bits and
its instant is a proper one.
-/

namespace QualityGate
namespace Lock
namespace Marker

open Decoder Reader

/-- A marker that can be written: its process has a number of 32 bits, and its instant is proper. -/
structure IsProper (marker : Marker) : Prop where
  process : marker.process < Word.bound 32
  since : marker.since.IsProper

instance (marker : Marker) : Decidable marker.IsProper :=
  decidable_of_iff (marker.process < Word.bound 32 ∧ marker.since.IsProper)
    ⟨fun holds => ⟨holds.1, holds.2⟩, fun proper => ⟨proper.process, proper.since⟩⟩

/-- The members of a marker in writing. -/
def pieces (marker : Marker) : List (List Char) :=
  [ Json.quotedText "pid" ++ ':' :: Nat.toDigits 10 marker.process,
    Json.quotedText "timestamp" ++ ':' :: Json.quotedText marker.since.zuluText ]

theorem toList_render (marker : Marker) :
    marker.render.toList = '\x7b' :: (Json.separated [','] marker.pieces ++ ['\x7d']) := by
  simp [render, toJson, Json.compact, Json.compactCharacters, Json.compactMembers, Json.natural,
    Json.numberText, pieces]

/-- The number of the process is read. -/
theorem reads_process
    {marker : Marker}
    (proper : marker.IsProper)
    {depth : Nat}
    {after : List Char}
    (ended : EndsInteger after) :
    Reads (readMember fields "pid" ⟨default, []⟩) depth
      (':' :: Nat.toDigits 10 marker.process ++ after)
      ⟨{ (default : Marker) with process := marker.process }, ["pid"]⟩ after := by
  have fits : marker.process ≤ wordLimit := by
    have : Word.bound 32 ≤ wordLimit := by decide
    have := proper.process
    omega
  have known : (fields.find? fun field => field.answersTo "pid") =
      some (.required "pid" .natural32 fun value (marker : Marker) =>
        { marker with process := value }) := rfl
  exact reads_readMember known rfl ((reads_natural "u32" proper.process fits ended).map _)

/-- The instant is read behind the number of the process. -/
theorem reads_since
    {marker : Marker}
    (proper : marker.IsProper)
    {depth : Nat}
    {after : List Char} :
    Reads
      (readMember fields "timestamp"
        ⟨{ (default : Marker) with process := marker.process }, ["pid"]⟩)
      depth (':' :: Json.quotedText marker.since.zuluText ++ after)
      ⟨marker, ["timestamp", "pid"]⟩ after := by
  have known : (fields.find? fun field => field.answersTo "timestamp") =
      some (.required "timestamp" .instant fun value (marker : Marker) =>
        { marker with since := value }) := rfl
  exact reads_readMember known rfl ((reads_instant proper.since).map _)

/-- A marker is read from its writing, whatever stands behind it. -/
theorem reads_render
    {marker : Marker}
    (proper : marker.IsProper)
    (after : List Char) :
    Reads decoder.fromText Cursor.nestingLimit (marker.render.toList ++ after) marker after := by
  have collects (depth : Nat) : Collects (readMember fields) depth ⟨default, []⟩ marker.pieces
      ⟨marker, ["timestamp", "pid"]⟩ :=
    Collects.cons (fun _ ended => reads_process proper ended)
      (Collects.cons (fun _ _ => reads_since proper) (Collects.nil _))
  have read : Reads decoder.fromText (127 + 1)
      ('\x7b' :: ([] ++ (Json.separated [','] marker.pieces ++ ([] ++ '\x7d' :: after))))
      marker after :=
    reads_record "LockMarker" (collects 127) rfl (by decide) (by simp) (by simp)
  rw [toList_render, List.cons_append, List.append_assoc]
  exact read

/-- A marker is read back from its writing. -/
theorem parse_render
    {marker : Marker}
    (proper : marker.IsProper) :
    parse marker.render = .ok marker := by
  have read := reads_render proper []
  rw [List.append_nil] at read
  exact run_of_reads read

/-- A file with a marker in writing has that marker. -/
theorem ofText_render
    {marker : Marker}
    (proper : marker.IsProper) :
    Reading.ofText marker.render = .marked marker := by
  rw [Reading.ofText, parse_render proper]

/-- A file with something behind the writing of a marker has no marker. -/
theorem ofText_render_append_ne
    {marker : Marker}
    (proper : marker.IsProper)
    {text : String}
    {character : Char}
    {rest : List Char}
    (begins : text.toList = character :: rest)
    (visible : isLayout character = false)
    (other : Marker) :
    Reading.ofText (marker.render ++ text) ≠ .marked other := by
  have read := reads_render proper text.toList
  rw [← String.toList_append, begins] at read
  obtain ⟨fault, failed⟩ := exists_run_eq_error read visible
  have unread : parse (marker.render ++ text) = .error fault := failed
  rw [Reading.ofText, unread]
  simp

end Marker
end Lock
end QualityGate
