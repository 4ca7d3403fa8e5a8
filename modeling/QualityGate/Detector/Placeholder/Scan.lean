import QualityGate.Detector.Placeholder.Declaration
import QualityGate.FileSet
import QualityGate.Finding

/-!
# The placeholder gate

Declared gaps are complete, within the budget, outside the scopes that must not be degraded, and not
expired.  An artifact says that it is degraded exactly if it declares gaps.  Text that promises work
for later needs a declaration that covers it.
-/

namespace QualityGate
namespace Placeholder

open Pattern in
/-- Text that promises work for later. -/
def promise : Pattern :=
  choice
    [ atEdges (foldedChoice ["todo", "tbd", "fixme"]),
      atEdges (folded "coming soon"),
      sequence
        [.edge,
          foldedChoice
            ["do", "implement", "add", "fix", "handle", "finish", "support", "revisit", "address",
              "complete", "wire"],
          wordTail, .edge, without ".;", .edge, folded "later", .edge],
      sequence
        [.edge, foldedChoice ["will", "to"], folded " be ",
          foldedChoice ["added", "implemented", "done", "supported", "completed"], .edge],
      sequence
        [.edge, folded "in a future ", foldedChoice ["release", "version", "iteration"], .edge] ]

/-- A finding of this gate. -/
def finding (rule message file : String) : Finding :=
  (Finding.ofFile .placeholder rule message file).withSeverity .error

/-- The finding at a line, if there is one. -/
def atLine? (line? : Option Nat) (finding : Finding) : Finding :=
  match line? with
  | some line => finding.atLine line
  | none => finding

/-! ## Declarations -/

/-- The scope begins with a critical one, as a whole or up to a separator. -/
def isWithin (scope critical : String) : Bool :=
  match critical.toList.isPrefixOf? scope.toList with
  | none => false
  | some rest => rest.isEmpty || rest.head?.any ['.', '/', ':', '-', '_'].contains

/-- The scope that must not be degraded and to which the given one belongs. -/
def nonDegradable? (settings : PlaceholderSettings) (scope : String) : Option String :=
  let wanted := Text.lower (Text.trim scope)
  settings.nonDegradableScopes.find? fun critical => isWithin wanted (Text.lower critical)

/-- The findings about one declaration. -/
def checkDeclaration
    (settings : PlaceholderSettings)
    (now : Instant)
    (file : String)
    (line? : Option Nat)
    (declaration : Declaration) : List Finding :=
  let problems := declaration.problems
  let malformed :=
    if problems.isEmpty then []
    else
      [finding "PLACEHOLDER_SCHEMA"
        ("Placeholder " ++ declaration.label ++ " is malformed: " ++
          String.intercalate ", " problems)
        file]
  let critical :=
    match declaration.scope? with
    | none => []
    | some scope =>
      match nonDegradable? settings scope with
      | none => []
      | some critical =>
        [(finding "NON_DEGRADABLE_SCOPE"
          ("Placeholder " ++ declaration.label ++ " degrades '" ++ scope ++
            "', which is in the non-degradable scope '" ++ critical ++ "'")
          file).withSuggestion "Implement this scope fully; it cannot ship degraded"]
  let expired :=
    if declaration.isExpired now then
      [finding "PLACEHOLDER_EXPIRED"
        ("Placeholder " ++ declaration.label ++ " expired on " ++ declaration.expiry?.getD "")
        file]
    else []
  (malformed ++ critical ++ expired).map (atLine? line?)

/-- The debt of declarations.  It is summed in 32 bits, so a sum that does not fit starts again from
zero. -/
def debtOf (settings : PlaceholderSettings) (declarations : List Declaration) : Nat :=
  (declarations.filterMap fun declaration =>
    declaration.impactOf?.map (Impact.weight settings)).foldl
      (fun debt weight => (debt + weight) % Word.bound 32) 0

/-- The finding about declarations beyond the budget. -/
def checkBudget (settings : PlaceholderSettings) (file : String) (declarations : List Declaration) :
    List Finding :=
  let count := declarations.length
  let debt := debtOf settings declarations
  if settings.maxPlaceholders < count || settings.maxDebtScore < debt then
    [finding "DEBT_BUDGET"
      (Text.decimal count ++ " placeholders with debt score " ++ Text.decimal debt ++
        " exceed the budget (" ++ Text.decimal settings.maxPlaceholders ++
        " placeholders, debt " ++ Text.decimal settings.maxDebtScore ++ ")")
      file]
  else []

/-- The findings about the declarations of a file. -/
def checkDeclarations
    (settings : PlaceholderSettings)
    (now : Instant)
    (file : String)
    (declared : List (Option Nat × Declaration)) : List Finding :=
  (declared.flatMap fun (line?, declaration) =>
      checkDeclaration settings now file line? declaration) ++
    checkBudget settings file (declared.map Prod.snd)

/-! ## Artifacts -/

/-- A text of an artifact that promises work, with the keys on the way to it. -/
structure Promise where
  path : List String
  text : String
deriving Repr, DecidableEq

mutual

/-- The promises in a document that is reached by keys. -/
def promisesIn (path : List String) : Json → List Promise
  | .text value => if promise.occursIn value then [⟨path, value⟩] else []
  | .array items => promisesInItems path items
  | .object members => promisesInMembers path members
  | _ => []

/-- The promises in the items of an array. -/
def promisesInItems (path : List String) : List Json → List Promise
  | [] => []
  | item :: rest => promisesIn path item ++ promisesInItems path rest

/-- The promises in the members of an object. -/
def promisesInMembers (path : List String) : List (String × Json) → List Promise
  | [] => []
  | (key, value) :: rest =>
    promisesIn (path ++ [Text.lower key]) value ++ promisesInMembers path rest

end

/-- The status of an artifact that declares gaps. -/
def degradedStatus : String := "degraded"

/-- A governed scope is among the keys on the way to a promise or occurs in its text. -/
def isGoverned (scopes : List String) (found : Promise) : Bool :=
  found.path.any scopes.contains ||
    scopes.any fun scope => Text.contains (Text.lower found.text) scope

/-- The finding about a promise that nothing governs. -/
def promiseFinding (file : String) (found : Promise) : Finding :=
  (finding "DANGLING_PROMISE"
    ("'" ++ String.intercalate "." found.path ++
      "' promises future work without a declared placeholder: \"" ++
      Text.truncate 80 found.text ++ "\"")
    file).withSuggestion "Declare a placeholder for this scope or complete the work"

/-- The findings about the entries of an artifact that could not be read, and the others. -/
def readEntries (file : String) (entries : List Json) : List Finding × List Declaration :=
  let results := entries.map Declaration.decoder.fromJson
  let faulty := results.zipIdx.filterMap fun (result, index) =>
    match result with
    | .ok _ => none
    | .error cause =>
      some
        (finding "PLACEHOLDER_SCHEMA"
          ("Placeholder entry " ++ Text.decimal (index + 1) ++ " is malformed: " ++ cause.message)
          file)
  (faulty, results.filterMap Except.toOption)

/-- The finding about a status that does not fit the number of declared gaps. -/
def checkStatus (file : String) (status? : Option String) (count : Nat) : List Finding :=
  let degraded := status? == some degradedStatus
  if degraded && count == 0 then
    [finding "REGISTRY_MISMATCH" "Artifact status is 'degraded' but declares no placeholders" file]
  else if !degraded && count != 0 then
    [finding "REGISTRY_MISMATCH"
      ("Artifact declares " ++ Text.decimal count ++ " placeholder(s) but its status is '" ++
        status?.getD "<missing>" ++ "', not '" ++ degradedStatus ++ "'")
      file]
  else []

/-- The scopes that valid declarations govern. -/
def governedScopes (declarations : List Declaration) : List String :=
  (declarations.filter Declaration.isValid).filterMap fun declaration =>
    declaration.scope?.map Text.lower

/-- The findings about an artifact with the given members. -/
def checkMembers
    (settings : PlaceholderSettings)
    (now : Instant)
    (file : String)
    (members : List (String × Json)) : List Finding :=
  let status? := (members.lookup "status").bind Json.text?
  let declared? := members.lookup "placeholders"
  if declared?.isNone && status? != some degradedStatus then []
  else
    let (shape, entries) :=
      match declared? with
      | some (.array items) => ([], items)
      | some _ => ([finding "PLACEHOLDER_SCHEMA" "'placeholders' must be an array" file], [])
      | none => ([], [])
    let (faulty, declarations) := readEntries file entries
    let promises := promisesInMembers [] (members.filter fun member => member.1 != "placeholders")
    let dangling := promises.filter fun found => !isGoverned (governedScopes declarations) found
    shape ++ faulty ++ checkStatus file status? entries.length ++
      checkDeclarations settings now file
        (declarations.map fun declaration => (none, declaration)) ++
      dangling.map (promiseFinding file)

/-- The findings about an artifact; what is no JSON object is no artifact. -/
def checkArtifact (settings : PlaceholderSettings) (now : Instant) (source : Source) :
    List Finding :=
  match Json.parse source.content with
  | .ok (.object members) => checkMembers settings now source.display members
  | _ => []

/-! ## Source files -/

/-- The finding about a promise in the comment of a line. -/
def danglingFinding (file : String) (line : Nat) (text : String) : Finding :=
  ((finding "DANGLING_PROMISE"
    ("'" ++ Text.trim text ++
      "' promises future work without a covering placeholder declaration")
    file).atLine line).withSuggestion
      ("Add `" ++ inlineMarker ++ " \x7b\"id\": ..., \"scope\": ..., \"reason\": ..., " ++
        "\"impact\": ..., \"fallback\": ...\x7d` above it, or finish the work")

/-- The findings about promises in lines that nothing governs. -/
def checkPromises (file : String) (coverage : Coverage) (lines : List LineParts) : List Finding :=
  lines.zipIdx.filterMap fun (parts, index) =>
    if coverage.governs (index + 1) then none
    else (promise.findText? parts.comment).map (danglingFinding file (index + 1))

/-- The findings about declarations that could not be read. -/
def checkReadable (file : String) (declarations : List InlineDeclaration) : List Finding :=
  declarations.filterMap fun inline =>
    match inline.parsed with
    | .ok _ => none
    | .error message =>
      some
        ((finding "PLACEHOLDER_SCHEMA"
          ("Inline placeholder declaration is not valid JSON: " ++ message) file).atLine
            inline.line)

/-- The findings about a source file. -/
def checkSource (settings : PlaceholderSettings) (now : Instant) (source : Source) :
    List Finding :=
  let lines := Comment.split (Profile.ofPath source.path).comments source.lines
  let declarations := declarationsIn lines
  let coverage := Coverage.ofDeclarations declarations settings.coverageWindow
  let declared := declarations.filterMap fun inline =>
    inline.parsed.toOption.map fun declaration => (some inline.line, declaration)
  checkReadable source.display declarations ++
    checkDeclarations settings now source.display declared ++
    checkPromises source.display coverage lines

/-! ## Scan -/

/-- The path is that of an artifact. -/
def isArtifact (path : String) : Bool :=
  (Location.extension? path).any fun extension => Text.equalIgnoringCase extension "json"

/-- The findings about a file. -/
def checkFile (settings : PlaceholderSettings) (now : Instant) (source : Source) : List Finding :=
  if isArtifact source.path then checkArtifact settings now source
  else checkSource settings now source

/-- Scan a set of files. -/
def scan (settings : PlaceholderSettings) (now : Instant) (tree : Tree) (files : FileSet) :
    ScanResult :=
  let sources := Source.load tree files fun path => isArtifact path || !Source.isProseOrData path
  ⟨sources.flatMap (checkFile settings now), []⟩

end Placeholder
end QualityGate
