import QualityGate.FileSet
import QualityGate.Finding
import QualityGate.Pattern
import QualityGate.Settings

/-!
# The documentation gate

Documents state facts: no marketing, no claims without evidence, no decoration.  Documents about a
date or a state of affairs belong into the archive.  Fenced blocks of code are not looked at.
-/

namespace QualityGate
namespace Documentation

/-! ## What is looked for -/

section Patterns

open Pattern

/-- Words joined by a hyphen or a space. -/
def joined (words : List Pattern) : Pattern :=
  sequence (words.intersperse (among "- "))

/-- A word that may have an ending. -/
def withEnding (word ending : String) : Pattern :=
  sequence [folded word, optional (folded ending)]

/-- Words of advertising. -/
def marketing : Pattern :=
  atEdges
    (choice
      [ folded "revolutionary",
        joined [folded "game", sequence [folded "chang", foldedChoice ["ing", "er"]]],
        joined [folded "cutting", folded "edge"],
        joined [folded "world", folded "class"],
        joined [folded "best", folded "in", folded "class"],
        joined [withEnding "blazing" "ly", folded "fast"],
        joined [folded "lightning", folded "fast"],
        withEnding "seamless" "ly",
        joined [folded "enterprise", folded "grade"],
        joined [folded "next", withEnding "gen" "eration"],
        joined [folded "state", folded "of", folded "the", folded "art"],
        folded "unparalleled",
        joined [folded "industry", folded "leading"],
        folded "groundbreaking",
        folded "amazing",
        folded "incredible",
        folded "magical",
        folded "bulletproof",
        withEnding "effortless" "ly",
        folded "unmatched",
        sequence [folded "supercharge", optional (foldedAmong "ds")] ])

/-- The words "production ready". -/
def productionReady : Pattern :=
  joined [folded "production", folded "ready"]

/-- Claims of completeness. -/
def claim : Pattern :=
  choice
    [ sequence
        [.edge, exactly "100", blanks, exactly "%", blanks,
          foldedChoice ["complete", "done", "tested", "coverage", "working", "reliable"]],
      atEdges
        (sequence
          [folded "fully", gap,
            choice
              [foldedChoice ["implemented", "complete", "tested", "functional"],
                productionReady]]),
      atEdges productionReady,
      atEdges
        (sequence
          [foldedChoice ["all", "every"], gap, withEnding "test" "s", gap, folded "pass",
            optional (foldedChoice ["es", "ing"])]),
      atEdges (sequence [folded "zero", gap, folded "bugs"]),
      atEdges (joined [folded "bug", folded "free"]),
      atEdges (sequence [foldedChoice ["feature", "implementation"], gap, folded "complete"]) ]

/-- Evidence for a claim: a link, an issue, or a reference to code. -/
def evidence : Pattern :=
  choice
    [ sequence [exactly "http", optional (exactly "s"), exactly "://"],
      exactly "](",
      sequence [exactly "#", several Text.isDigit],
      sequence [.edge, exactly "see", gap, exactly "`"] ]

/-- Two digits. -/
def twoDigits : Pattern :=
  sequence [.one Text.isDigit, .one Text.isDigit]

/-- A day of this century in a name, not next to a digit. -/
def date : Pattern :=
  sequence
    [ .either .start (.one fun character => !character.isDigit),
      exactly "20", twoDigits, optional (exactly "-"), twoDigits, optional (exactly "-"),
      twoDigits,
      .either (.one fun character => !character.isDigit) .finish ]

end Patterns

/-- Emoji and pictographs. -/
def isDecorative (character : Char) : Bool :=
  let code := character.toNat
  (0x1F300 ≤ code && code ≤ 0x1FAFF) || (0x2600 ≤ code && code ≤ 0x27BF) ||
    (0x2B50 ≤ code && code ≤ 0x2B55) || (0x1F000 ≤ code && code ≤ 0x1F02F) ||
    (0x1F100 ≤ code && code ≤ 0x1F1FF)

/-! ## Documents -/

/-- The path is that of a document. -/
def isDocument (settings : DocumentationSettings) (path : String) : Bool :=
  (Location.extension? path).any fun extension =>
    settings.extensions.any fun allowed => Text.equalIgnoringCase allowed extension

/-- The file lies in the archive. -/
def inArchive (settings : DocumentationSettings) (file : String) : Bool :=
  let archive := Text.dropEnd (· == '/') (Text.dropStart (· == '/') settings.archiveDir.toList)
  !archive.isEmpty &&
    match archive.isPrefixOf? file.toList with
    | some rest => rest.head? == some '/'
    | none => false

/-- Words in a name that tell of a state of affairs. -/
def statusWords : List String :=
  ["status", "progress", "completion", "complete", "completed", "done", "wip", "handoff",
    "session", "sprint", "phase", "retro", "standup"]

/-- Parts of a name that tell of a state of affairs. -/
def statusParts : List String :=
  ["implementation_summary", "final_report", "work_log"]

/-- The name of a document tells of a date or a state of affairs. -/
def isStatusDocument (path : String) : Bool :=
  match Location.stem? path with
  | none => false
  | some stem =>
    let name := Text.lower stem
    (Text.splitWhere ['_', '-', '.', ' '].contains name).any statusWords.contains ||
      statusParts.any (Text.contains (Text.replace '-' '_' name)) || date.occursIn name

/-- A finding of this gate. -/
def finding (rule message file : String) : Finding :=
  (Finding.ofFile .documentation rule message file).withSeverity .error

/-- The finding about a document that belongs into the archive. -/
def checkPlace (settings : DocumentationSettings) (source : Source) : List Finding :=
  if isStatusDocument source.path && !inArchive settings source.display then
    [(finding "MISPLACED_STATUS_DOC" "Temporal/status document outside the archive"
      source.display).withSuggestion
        ("Move it under " ++
          Text.onCharacters (Text.dropEnd (· == '/')) settings.archiveDir ++
          "/ or fold the durable parts into permanent docs")]
  else []

/-- The findings about the text of a line. -/
def checkLine (file : String) (line : Nat) (text : String) : List Finding :=
  let advertising :=
    match marketing.findText? text with
    | none => []
    | some words =>
      [(finding "MARKETING_LANGUAGE" ("Marketing language: \"" ++ words ++ "\"")
        file).withSuggestion "State what it does and measured results instead"]
  let unfounded :=
    match claim.findText? text with
    | none => []
    | some words =>
      if evidence.occursIn text then []
      else
        [(finding "UNFOUNDED_CLAIM" ("Unfounded claim: \"" ++ words ++ "\"") file).withSuggestion
          "Link the evidence (CI run, coverage report, issue) or drop the claim"]
  let decorated :=
    match text.toList.filter isDecorative with
    | [] => []
    | first :: others =>
      [finding "DECORATIVE_SYMBOL"
        ("Decorative symbol '" ++ String.singleton first ++ "'" ++
          (if others.isEmpty then "" else " and " ++ Text.decimal others.length ++ " more"))
        file]
  (advertising ++ unfounded ++ decorated).map fun found => found.atLine line

/-- The line opens or closes a fenced block. -/
def isFence (text : String) : Bool :=
  let trimmed := Text.trimStart text
  Text.startsWith trimmed "```" || Text.startsWith trimmed "~~~"

/-- The findings about lines, the first of which has the given number and lies inside or outside of
a fenced block. -/
def checkLinesFrom (file : String) : Nat → Bool → List String → List Finding
  | _, _, [] => []
  | line, fenced, text :: rest =>
    if isFence text then checkLinesFrom file (line + 1) (!fenced) rest
    else if fenced then checkLinesFrom file (line + 1) fenced rest
    else checkLine file line text ++ checkLinesFrom file (line + 1) fenced rest

/-- The findings about a document. -/
def checkDocument (settings : DocumentationSettings) (source : Source) : List Finding :=
  checkPlace settings source ++ checkLinesFrom source.display 1 false source.lines

/-- Scan a set of files. -/
def scan (settings : DocumentationSettings) (tree : Tree) (files : FileSet) : ScanResult :=
  ⟨(Source.load tree files (isDocument settings)).flatMap (checkDocument settings), []⟩

end Documentation
end QualityGate
