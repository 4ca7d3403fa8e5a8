import QualityGate.Detector.HiddenTodo.Rule
import QualityGate.Detector.HiddenTodo.Score
import QualityGate.Detector.HiddenTodo.Template
import QualityGate.Detector.Placeholder.Declaration
import QualityGate.FileSet
import QualityGate.Finding

/-!
# The hidden-work gate

A line is a hit if a rule that makes findings matches it and no declared placeholder governs it.
Runs of consecutive hits are weighed as one group, and a group makes one finding if its confidence
reaches the threshold.  Groups with a broad keyword may pass without that.
-/

namespace QualityGate
namespace HiddenTodo

/-- A line that a rule matched. -/
structure Hit where
  line : Nat
  rules : List Rule
  comment : String
  code : String
  docComment : Bool

namespace Hit

/-- A rule of the category matched. -/
def has (hit : Hit) (category : Category) : Bool :=
  hit.rules.any fun rule => rule.category = category

/-- The strongest category that makes findings among the matched rules. -/
def topCategory? (hit : Hit) : Option Category :=
  Category.strongest? ((hit.rules.map Rule.category).filter Category.isSignal)

/-- The line has code. -/
def hasCode (hit : Hit) : Bool :=
  !Text.isBlankText hit.code

end Hit

/-- A stub that is spread over a line and the next one begins on the first of them. -/
def beginsOnFirst (pattern : Pattern) (code next : String) : Bool :=
  let first := Text.trimEnd code
  match pattern.find? (first ++ "\n" ++ Text.trim next) with
  | some found => found.first < first.length
  | none => false

/-- The stub rules that match a line, alone or together with the next one. -/
def stubMatches (stubs : List Rule) (code : String) (next? : Option LineParts) : List Rule :=
  stubs.filter fun rule =>
    rule.pattern.occursIn code ||
      next?.any fun next =>
        !Text.isBlankText next.code && beginsOnFirst rule.pattern code next.code

/-- The rules that match a line: those about its comment, about its code, and about stubs. -/
def matchedRules
    (text stubs : List Rule)
    (parts : LineParts)
    (next? : Option LineParts) : List Rule :=
  let inComment :=
    if parts.hasComment then
      text.filter fun rule => rule.appliesToComment && rule.pattern.occursIn parts.comment
    else []
  let inCode :=
    if Text.isBlankText parts.code then []
    else
      (text.filter fun rule => rule.appliesToCode && rule.pattern.occursIn parts.code) ++
        stubMatches stubs parts.code next?
  inComment ++ inCode

/-- The hit of a line, if a rule that makes findings matches it. -/
def hitOf?
    (text stubs : List Rule)
    (line : Nat)
    (parts : LineParts)
    (next? : Option LineParts) : Option Hit :=
  let rules := matchedRules text stubs parts next?
  if rules.any fun rule => rule.category.isSignal then
    some
      { line
        rules
        comment := parts.comment
        code := parts.code
        docComment := Text.isBlankText parts.code && isDocComment parts.comment }
  else none

/-- The hits among lines, the first of which has the given number. -/
def hitsFrom
    (text stubs : List Rule)
    (coverage : Placeholder.Coverage) : Nat → List LineParts → List Hit
  | _, [] => []
  | line, parts :: rest =>
    let following := hitsFrom text stubs coverage (line + 1) rest
    if coverage.governs line then following
    else (hitOf? text stubs line parts rest.head?).toList ++ following

/-- Runs of hits on consecutive lines. -/
def runs : List Hit → List (List Hit)
  | [] => []
  | hit :: rest =>
    match runs rest with
    | (next :: others) :: following =>
      if next.line == hit.line + 1 then (hit :: next :: others) :: following
      else [hit] :: (next :: others) :: following
    | following => [hit] :: following

/-- No hit is lost, and their order stays. -/
theorem flatten_runs (hits : List Hit) : (runs hits).flatten = hits := by
  induction hits with
  | nil => rfl
  | cons hit rest ih => grind [runs]

/-- What a group is weighed with besides its rules. -/
structure Surroundings where
  kind : FileKind
  /-- Which lines have code, the first line first. -/
  hasCode : List Bool
  /-- The marker of line comments. -/
  marker : String
  file : String

/-- The signals of a group. -/
def scoreOf (surroundings : Surroundings) (group : List Hit) : Score :=
  let matched := (group.flatMap Hit.rules).foldl
    (fun score rule => score.add rule.id rule.weight) Score.empty
  let fromComment := group.any fun hit => hit.has .broadKeyword || hit.has .disguisedPhrase
  let nextHasCode := (group.getLast?.bind fun last => surroundings.hasCode[last.line]?).getD false
  let besideCode := group.any Hit.hasCode || nextHasCode
  (surroundings.kind.apply matched)
    |>.addIf (group.all Hit.docComment) "context_doc_comment" (-0.2)
    |>.addIf (fromComment && besideCode) "context_adjacent_code" 0.1

/-- The finding does not have to reach the threshold: the group has a broad keyword and does not
talk about keeping track of work. -/
def bypasses (settings : HiddenTodoSettings) (category : Category) (group : List Hit) : Bool :=
  settings.broadKeywordBypass && category = .broadKeyword &&
    !(group.any fun hit => hit.has .todoVocabulary)

/-- At most eighty characters of a text. -/
def snippet (text : String) : String :=
  Text.truncate 80 text

/-- The text that a finding of a category shows. -/
def shownText (category : Category) (lead : Hit) : String :=
  if category = .stubSignature then Text.trim lead.code
  else String.ofList (Text.strip (Text.dropStart isDocMark lead.comment.toList))

/-- The message of a finding of a category about a group. -/
def messageOf (category : Category) (lead : Hit) (count : Nat) : String :=
  let title :=
    match category with
    | .broadKeyword => "Incomplete-work marker"
    | .disguisedPhrase => "Comment describes unfinished work"
    | _ => "Stub implementation"
  title ++ ": \"" ++ snippet (shownText category lead) ++ "\"" ++
    (if 1 < count then " (+" ++ Text.decimal (count - 1) ++ " more lines)" else "")

/-- The suggestion of a finding of a category. -/
def suggestionOf (settings : HiddenTodoSettings) (marker : String) (category : Category)
    (lead : Hit) : String :=
  if category = .stubSignature then "Replace the stub with a real implementation"
  else
    let template? :=
      if settings.suggestTemplates then suggestTemplate? lead.comment marker else none
    match template? with
    | some template => "Rewrite as a tracked TODO:\n" ++ template
    | none => "Finish the work, link it to an issue, or declare it with an @placeholder comment"

/-- Findings below this confidence are only warnings. -/
def advisoryBelow : Float := 0.5

/-- The finding about a group, whatever its confidence. -/
def findingOf
    (settings : HiddenTodoSettings)
    (surroundings : Surroundings)
    (category : Category)
    (rule : String)
    (first : Hit)
    (group : List Hit) : Finding :=
  let confidence := (scoreOf surroundings group).confidence
  let lead := (group.find? fun hit => hit.topCategory? = some category).getD first
  let finding :=
    (((Finding.ofFile .hiddenTodo rule (messageOf category lead group.length)
      surroundings.file).atLine first.line).withConfidence
        (Decimal.toHundredths confidence)).withSuggestion
          (suggestionOf settings surroundings.marker category lead)
  if confidence < advisoryBelow then finding.withSeverity .warning else finding

/-- The finding about a group, if it passes. -/
def groupFinding? (settings : HiddenTodoSettings) (surroundings : Surroundings)
    (group : List Hit) : Option Finding := do
  let first ← group.head?
  let category ← Category.strongest? (group.filterMap Hit.topCategory?)
  let rule ← category.findingRule?
  if !bypasses settings category group &&
      (scoreOf surroundings group).confidence < settings.confidenceThreshold then none
  else some (findingOf settings surroundings category rule first group)

/-- The findings about a file by some rules; its declared placeholders reach `window` lines down. -/
def analyzeWith
    (rules : RuleSet)
    (settings : HiddenTodoSettings)
    (window : Nat)
    (source : Source) : List Finding :=
  let profile := Profile.ofPath source.path
  let lines := Comment.split profile.comments source.lines
  let coverage := Placeholder.Coverage.ofDeclarations (Placeholder.declarationsIn lines) window
  let hits := hitsFrom rules.text (rules.stubs profile.language?) coverage 1 lines
  let surroundings : Surroundings :=
    { kind := FileKind.ofFile source.path source.content
      hasCode := lines.map fun parts => !Text.isBlankText parts.code
      marker := profile.comments.markers.headD "//"
      file := source.display }
  (runs hits).filterMap (groupFinding? settings surroundings)

/-- The findings about a file by the rules that are built in. -/
def analyze (settings : HiddenTodoSettings) (window : Nat) (source : Source) : List Finding :=
  analyzeWith .standard settings window source

/-- Scan a set of files; prose and data are left out. -/
def scan (settings : HiddenTodoSettings) (window : Nat) (tree : Tree) (files : FileSet) :
    ScanResult :=
  let sources := Source.load tree files fun path => !Source.isProseOrData path
  ⟨sources.flatMap (analyze settings window), []⟩

end HiddenTodo
end QualityGate
