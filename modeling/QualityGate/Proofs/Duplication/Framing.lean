import QualityGate.Proofs.Duplication.Window

/-!
# What is digested of a window

The digest of a window is taken of a stream of bytes, to which every line adds its text and a line
feed.  Lines in normal form have no line feed, so the stream says which texts were added, whatever
the numbers of their lines are.  Two lines have the same normal form if they have the same words.
-/

namespace QualityGate
namespace Duplication

/-! ## Normal forms -/

/-- The words of a line in normal form are those of the line. -/
@[simp] theorem words_normalizeLine (line : String) :
    Text.words (normalizeLine line) = Text.words line :=
  Text.words_intercalate fun _ member => Text.isWord_of_mem_words member

/-- Nothing changes a line in normal form any more. -/
theorem normalizeLine_normalizeLine (line : String) :
    normalizeLine (normalizeLine line) = normalizeLine line := by
  unfold normalizeLine
  exact congrArg (String.intercalate " ") (words_normalizeLine line)

/-- The normal form of a line says which words the line has, and nothing else. -/
theorem normalizeLine_eq_iff (line other : String) :
    normalizeLine line = normalizeLine other ↔ Text.words line = Text.words other := by
  constructor
  · intro same
    rw [← words_normalizeLine line, same, words_normalizeLine]
  · intro same
    rw [normalizeLine, normalizeLine, same]

/-! ## Streams -/

/-- The bytes of a line and of the line feed behind it are added to a stream. -/
def feed (fed : ByteArray) (line : CodeLine) : ByteArray :=
  fed ++ line.text.toUTF8 ++ "\n".toUTF8

/-- The bytes that are digested for lines. -/
def stream (lines : List CodeLine) : ByteArray :=
  lines.foldl feed ByteArray.empty

/-- A stream that goes on over lines ends with the text of their window. -/
theorem foldl_feed (fed : ByteArray) (lines : List CodeLine) :
    lines.foldl feed fed = fed ++ (windowText (lines.map CodeLine.text)).toUTF8 := by
  induction lines generalizing fed with
  | nil =>
    have nothing : (windowText ([].map CodeLine.text)).toUTF8 = ByteArray.empty := rfl
    rw [nothing, ByteArray.append_empty, List.foldl_nil]
  | cons line rest inductionHypothesis =>
    have window : windowText ((line :: rest).map CodeLine.text) =
        line.text ++ "\n" ++ windowText (rest.map CodeLine.text) := by
      simp [windowText, String.join_cons]
    rw [List.foldl_cons, inductionHypothesis, window, feed]
    simp [String.toUTF8, ByteArray.append_assoc]

theorem stream_eq (lines : List CodeLine) :
    stream lines = (windowText (lines.map CodeLine.text)).toUTF8 := by
  rw [stream, foldl_feed, ByteArray.empty_append]

/-- The digest of a window is that of the stream of its lines. -/
theorem windowDigest_eq (lines : List CodeLine) :
    windowDigest (lines.map CodeLine.text) =
      String.join ((Digest.ofBytes (stream lines).toList).toList.map fun word =>
        Text.hex 8 word.toNat) := by
  rw [stream_eq, windowDigest, Digest.ofText]

/-- Streams without line feeds inside of lines tell the texts of the lines. -/
theorem stream_eq_iff
    {first second : List CodeLine}
    (firstLines : ∀ line ∈ first, '\n' ∉ line.text.toList)
    (secondLines : ∀ line ∈ second, '\n' ∉ line.text.toList) :
    stream first = stream second ↔ first.map CodeLine.text = second.map CodeLine.text := by
  rw [stream_eq, stream_eq]
  constructor
  · intro same
    exact windowText_inj (List.forall_mem_map.mpr firstLines) (List.forall_mem_map.mpr secondLines)
      (String.toByteArray_inj.mp same)
  · intro same
    rw [same]

/-! ## Streams of lines in normal form -/

/-- The normal forms of lines, under the numbers that the lines have. -/
def normalLines (lines : List (Nat × String)) : List CodeLine :=
  lines.map fun (number, line) => ⟨number, normalizeLine line⟩

theorem lineFeed_notMem_normalLines
    (lines : List (Nat × String))
    (line : CodeLine)
    (member : line ∈ normalLines lines) :
    '\n' ∉ line.text.toList := by
  obtain ⟨⟨number, raw⟩, -, rfl⟩ := List.mem_map.mp member
  exact lineFeed_notMem_normalizeLine raw

theorem map_text_normalLines (lines : List (Nat × String)) :
    (normalLines lines).map CodeLine.text = lines.map fun line => normalizeLine line.2 := by
  rw [normalLines, List.map_map]
  rfl

/-- The lines of a window are framed: the digest is taken of a stream that is the same for two lists
of lines in normal form exactly if they have the same texts, under whatever numbers.  The normal
form of a line is its own normal form, and that of all lines with the same words. -/
theorem stream_framesLines :
    (∀ lines : List CodeLine,
      windowDigest (lines.map CodeLine.text) =
        String.join ((Digest.ofBytes (stream lines).toList).toList.map fun word =>
          Text.hex 8 word.toNat)) ∧
      (∀ first second : List (Nat × String),
        stream (normalLines first) = stream (normalLines second) ↔
          (first.map fun line => normalizeLine line.2) =
            second.map fun line => normalizeLine line.2) ∧
      (∀ line, normalizeLine (normalizeLine line) = normalizeLine line) ∧
      ∀ line other, normalizeLine line = normalizeLine other ↔
        Text.words line = Text.words other := by
  refine ⟨windowDigest_eq, fun first second => ?_, normalizeLine_normalizeLine,
    normalizeLine_eq_iff⟩
  rw [stream_eq_iff (lineFeed_notMem_normalLines first) (lineFeed_notMem_normalLines second),
    map_text_normalLines, map_text_normalLines]

/-- Lines that are not in normal form are not told from the stream. -/
example : stream [⟨1, "first\nsecond"⟩] = stream [⟨1, "first"⟩, ⟨2, "second"⟩] := by
  decide +kernel

end Duplication
end QualityGate
