import QualityGate.Detector.Naming.Declaration
import QualityGate.Detector.Naming.Segment
import QualityGate.FileSet
import QualityGate.Finding
import QualityGate.Language.Profile
import QualityGate.Settings

/-!
# The naming gate

Names should tell what a thing is for.  A name of several words must not have a banned modifier
among them; functions are only held to that for their last word.  Declared symbols follow the
convention of their language.
-/

namespace QualityGate
namespace Naming

/-- The word is a banned modifier. -/
def isBanned (settings : NamingSettings) (word : String) : Bool :=
  settings.bannedModifiers.any fun banned => Text.equalIgnoringCase banned word

/-- The first banned modifier among several words. -/
def bannedAmong? (settings : NamingSettings) (words : List String) : Option String :=
  if words.length < 2 then none else words.find? (isBanned settings)

/-- The name proposed for a file without a modifier, if a word is left. -/
def proposedName? (words : List String) (modifier : String) : Option String :=
  match words.filter (· != modifier) with
  | [] => none
  | kept => some (String.intercalate "_" kept)

/-- Check the name of a file. -/
def checkFileName (settings : NamingSettings) (path : String) : Option Finding := do
  let stem ← Location.stem? path
  let words := segments stem
  let modifier ← bannedAmong? settings words
  let finding :=
    (Finding.ofFile .naming "BANNED_MODIFIER_FILENAME"
      ("File name '" ++ stem ++ "' carries the modifier '" ++ modifier ++
        "'; name files after their responsibility")
      (Location.display path)).withSeverity .error
  match proposedName? words modifier with
  | some name =>
    some (finding.withSuggestion ("Rename to describe what it does, e.g. '" ++ name ++ "'"))
  | none => some finding

/-- The banned modifier of a symbol. -/
def symbolModifier? (settings : NamingSettings) (kind : SymbolKind) (name : String) :
    Option String :=
  let words := segments name
  match kind with
  | .type => bannedAmong? settings words
  | .function => if words.length < 2 then none else words.getLast?.filter (isBanned settings)

/-- Words that may follow the keyword of a type without being its name. -/
def declarationKeywords : List String :=
  ["func", "var", "let", "fun", "val", "static"]

/-- Names that a test framework prescribes. -/
def frameworkHooks : List String :=
  ["setUp", "tearDown", "setUpClass", "tearDownClass", "setUpModule", "tearDownModule",
    "asyncSetUp", "asyncTearDown"]

/-- The findings about one declared symbol at a line of a file. -/
def checkSymbol
    (settings : NamingSettings)
    (language : Language)
    (file : String)
    (line : Nat)
    (kind : SymbolKind)
    (name : String) : List Finding :=
  if kind = .type && declarationKeywords.contains name then []
  else
    let modified :=
      match symbolModifier? settings kind name with
      | none => []
      | some modifier =>
        [((Finding.ofFile .naming "BANNED_MODIFIER_SYMBOL"
          (kind.title ++ " '" ++ name ++ "' carries the modifier '" ++ modifier ++ "'")
          file).atLine line).withSeverity .error]
    let unconventional :=
      if language = .python && frameworkHooks.contains name then []
      else
        match conventionFor? language kind with
        | none => []
        | some convention =>
          if convention.accepts name then []
          else
            [((Finding.ofFile .naming "SYMBOL_CONVENTION"
              (language.name ++ " " ++ kind.label ++ " '" ++ name ++ "' should be " ++
                convention.label)
              file).atLine line).withSeverity .warning]
    modified ++ unconventional

/-- The name a pattern finds in code. -/
def declaredName? (pattern : Pattern) (code : String) : Option String :=
  (pattern.find? code).bind fun found => found.named?.map (Pattern.stretch code)

/-- The findings about the code of one line. -/
def checkCode
    (settings : NamingSettings)
    (language : Language)
    (file : String)
    (line : Nat)
    (code : String) : List Finding :=
  if Text.isBlankText code then []
  else
    (declarations language).flatMap fun (kind, pattern) =>
      match declaredName? pattern code with
      | none => []
      | some name => checkSymbol settings language file line kind name

/-- The findings about the symbols of a file. -/
def checkSymbols (settings : NamingSettings) (source : Source) : List Finding :=
  match Language.ofPath? source.path with
  | none => []
  | some language =>
    (Comment.split language.comments source.lines).zipIdx.flatMap fun (parts, index) =>
      checkCode settings language source.display (index + 1) parts.code

/-- Scan a set of files: first all names of files, then the symbols in them. -/
def scan (settings : NamingSettings) (tree : Tree) (files : FileSet) : ScanResult :=
  let names := files.paths.filterMap (checkFileName settings)
  let symbols :=
    if settings.checkSymbols then
      (Source.load tree files fun path => (Language.ofPath? path).isSome).flatMap
        (checkSymbols settings)
    else []
  ⟨names ++ symbols, []⟩

end Naming
end QualityGate
