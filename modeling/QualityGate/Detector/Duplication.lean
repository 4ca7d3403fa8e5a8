import Std.Data.HashMap
import Std.Data.HashSet
import QualityGate.Decimal
import QualityGate.Digest
import QualityGate.FileSet
import QualityGate.Finding
import QualityGate.Language.Profile
import QualityGate.Settings

/-!
# The duplication gate

Files are reduced to their significant lines of code.  Two files of one kind are near-identical if
their sets of lines are similar enough.  Otherwise windows of consecutive lines that occur at
several places make up duplicated regions, and every maximal region is reported once.
-/

namespace QualityGate
namespace Duplication

/-! ## Significant lines -/

/-- A line without blanks at its ends and with single spaces between its words. -/
def normalizeLine (line : String) : String :=
  String.intercalate " " (Text.words line)

/-- Fewer bytes than this carry no signal. -/
def leastSignificantBytes : Nat := 4

/-- A significant line: its number in the file and its normal form. -/
structure CodeLine where
  number : Nat
  text : String
deriving Repr, DecidableEq, Inhabited

/-- A file reduced to its significant lines. -/
structure CodeFile where
  display : String
  extension : String
  lines : List CodeLine
deriving Repr, DecidableEq, Inhabited

/-- The significant lines of a file; comments do not count. -/
def significantLines (path : String) (lines : List String) : List CodeLine :=
  (Comment.split (Profile.ofPath path).comments lines).zipIdx.filterMap fun (parts, index) =>
    let text := normalizeLine parts.code
    if leastSignificantBytes ≤ text.utf8ByteSize then some ⟨index + 1, text⟩ else none

/-- Reduce a file. -/
def CodeFile.ofSource (source : Source) : CodeFile :=
  { display := source.display
    extension := source.extension?.getD ""
    lines := significantLines source.path source.lines }

/-- The number in the file of a significant line. -/
def CodeFile.lineNumber (file : CodeFile) (index : Nat) : Nat :=
  match file.lines[index]? with
  | some line => line.number
  | none => 1

/-! ## Similar files -/

/-- Numbers in which similarities are measured: zero, and the quotients of two counts. -/
class Scale (α : Type) where
  zero : α
  quotient : Nat → Nat → α

/-- Scans measure in floating point. -/
instance : Scale Float where
  zero := 0.0
  quotient part whole := Float.ofNat part / Float.ofNat whole

/-- The number of lines that two sets share. -/
def sharedCount (first second : Std.HashSet String) : Nat :=
  first.toList.countP second.contains

/-- The number of distinct lines of two sets together. -/
def unitedCount (first second : Std.HashSet String) : Nat :=
  first.size + second.size - sharedCount first second

/-- Two files, by their places in the list of files, and how similar they are. -/
structure SimilarPair (α : Type) where
  first : Nat
  second : Nat
  similarity : α
deriving Inhabited

/-- A file with its place and its set of lines. -/
structure Candidate where
  place : Nat
  file : CodeFile
  distinct : Std.HashSet String

/-- The files with their places and their sets of lines. -/
def candidates (files : List CodeFile) : List Candidate :=
  files.zipIdx.map fun (file, place) =>
    ⟨place, file, Std.HashSet.ofList (file.lines.map CodeLine.text)⟩

section Similarity

variable {α : Type} [Scale α]

/-- The shared part of all distinct lines of two sets. -/
def jaccard (first second : Std.HashSet String) : α :=
  if first.isEmpty && second.isEmpty then Scale.zero
  else Scale.quotient (sharedCount first second) (unitedCount first second)

variable [LE α] [LT α] [DecidableLE α] [DecidableLT α]

/-- The similarity of two files of one kind that are long enough, if it reaches the threshold.  It
is never above the ratio of the sizes, which is looked at first. -/
def similarity? (leastLines : Nat) (threshold : α) (first second : Candidate) : Option α :=
  if first.file.lines.length < leastLines || second.file.lines.length < leastLines ||
      first.file.extension != second.file.extension then none
  else
    let small := min first.distinct.size second.distinct.size
    let large := max first.distinct.size second.distinct.size
    if large == 0 || Scale.quotient small large < threshold then none
    else
      let similarity : α := jaccard first.distinct second.distinct
      if similarity ≥ threshold then some similarity else none

/-- The similar pairs among files, the earlier file first. -/
def similarAmong (leastLines : Nat) (threshold : α) : List Candidate → List (SimilarPair α)
  | [] => []
  | first :: rest =>
    rest.filterMap (fun second =>
      (similarity? leastLines threshold first second).map fun similarity =>
        ⟨first.place, second.place, similarity⟩) ++
      similarAmong leastLines threshold rest

/-- The similar pairs of files. -/
def similarFiles (leastLines : Nat) (threshold : α) (files : List CodeFile) :
    List (SimilarPair α) :=
  similarAmong leastLines threshold (candidates files)

end Similarity

/-! ## Duplicated blocks -/

/-- The text of a window: every line followed by a line feed. -/
def windowText (lines : List String) : String :=
  String.join (lines.map fun line => line ++ "\n")

/-- A digest of a window. -/
def windowDigest (lines : List String) : String :=
  Digest.ofText (windowText lines)

/-- The windows of `size` consecutive items, with the places where they start. -/
def windowsFrom {α : Type} (size : Nat) : Nat → List α → List (Nat × List α)
  | _, [] => []
  | start, item :: rest =>
    let window := (item :: rest).take size
    if window.length == size then (start, window) :: windowsFrom size (start + 1) rest else []

/-- A place where a window starts: a file and a line of it, both counted from zero. -/
structure Spot where
  file : Nat
  start : Nat
deriving Repr, DecidableEq, Inhabited

/-- The windows of all files with their digests, file by file. -/
def allWindows (size : Nat) (files : List CodeFile) : List (String × Spot) :=
  files.zipIdx.flatMap fun (file, place) =>
    (windowsFrom size 0 (file.lines.map CodeLine.text)).map fun (start, lines) =>
      (windowDigest lines, ⟨place, start⟩)

/-- Where each window occurs, in the order of the files. -/
def occurrences (windows : List (String × Spot)) : Std.HashMap String (List Spot) :=
  windows.foldr (fun (digest, spot) index => index.insert digest (spot :: index.getD digest [])) ∅

/-- Another place counts as a duplicate of a window: it does not overlap with it, and the two files
are not reported as a whole. -/
def countsFor (size : Nat) (pairs : List (Nat × Nat)) (spot other : Spot) : Bool :=
  let overlapping :=
    other.file == spot.file && max other.start spot.start - min other.start spot.start < size
  let reported := pairs.contains (min spot.file other.file, max spot.file other.file)
  !overlapping && !reported

/-- A stretch of duplicated lines of a file, and where its first window occurs as well. -/
structure Region where
  first : Nat
  last : Nat
  twin : Spot
deriving Repr, DecidableEq, Inhabited

/-- Merge windows, which are given in increasing order of their starts, into maximal regions. -/
def regionsFrom (size : Nat) (current : Region) : List (Nat × Spot) → List Region
  | [] => [current]
  | (start, twin) :: rest =>
    if start ≤ current.last + 1 then
      regionsFrom size { current with last := max current.last (start + size - 1) } rest
    else current :: regionsFrom size ⟨start, start + size - 1, twin⟩ rest

/-- The maximal regions of windows in increasing order of their starts. -/
def regions (size : Nat) : List (Nat × Spot) → List Region
  | [] => []
  | (start, twin) :: rest => regionsFrom size ⟨start, start + size - 1, twin⟩ rest

/-- The duplicated windows of one file with the first other place of each. -/
def duplicatedStarts
    (size : Nat)
    (pairs : List (Nat × Nat))
    (windows : List (String × Spot))
    (index : Std.HashMap String (List Spot))
    (file : Nat) : List (Nat × Spot) :=
  windows.filterMap fun (digest, spot) =>
    if spot.file == file then
      ((index.getD digest []).find? (countsFor size pairs spot)).map fun twin => (spot.start, twin)
    else none

/-- The finding about a region of a file. -/
def regionFinding (files : List CodeFile) (file : CodeFile) (region : Region) : Finding :=
  let first := file.lineNumber region.first
  let last := file.lineNumber region.last
  let other := files.getD region.twin.file default
  (((Finding.ofFile .duplication "DUPLICATE_BLOCK"
    ("Lines " ++ Text.decimal first ++ "-" ++ Text.decimal last ++ " duplicate code at " ++
      other.display ++ ":" ++ Text.decimal (other.lineNumber region.twin.start))
    file.display).atLine first).withSeverity .error).withSuggestion
      "Extract the shared logic into a single function or module"

/-- The findings about duplicated regions, file by file. -/
def duplicateBlocks
    (settings : DuplicationSettings)
    (files : List CodeFile)
    (pairs : List (Nat × Nat)) : List Finding :=
  let size := max settings.windowLines 1
  let windows := allWindows size files
  let index := occurrences windows
  files.zipIdx.flatMap fun (file, place) =>
    (regions size (duplicatedStarts size pairs windows index place)).map
      (regionFinding files file)

/-! ## Scan -/

/-- The finding about a similar pair. -/
def pairFinding (files : List CodeFile) (pair : SimilarPair Float) : Finding :=
  let first := files.getD pair.first default
  let second := files.getD pair.second default
  ((Finding.ofFile .duplication "DUPLICATE_FILE"
    ("File is " ++ Text.decimal (Decimal.roundToNatural (pair.similarity * 100.0)) ++
      "% identical to " ++ first.display)
    second.display).withSeverity .error).withSuggestion
      "Merge the two files or extract their common part"

/-- The findings about reduced files. -/
def check (settings : DuplicationSettings) (files : List CodeFile) : List Finding :=
  let pairs := similarFiles settings.minFileLines settings.fileSimilarity files
  pairs.map (pairFinding files) ++
    duplicateBlocks settings files (pairs.map fun pair => (pair.first, pair.second))

/-- Scan a set of files. -/
def scan (settings : DuplicationSettings) (tree : Tree) (files : FileSet) : ScanResult :=
  let sources := Source.load tree files fun path => (Language.ofPath? path).isSome
  ⟨check settings (sources.map CodeFile.ofSource), []⟩

end Duplication
end QualityGate
