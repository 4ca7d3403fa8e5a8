import QualityGate.Decoder
import QualityGate.Language.Profile
import QualityGate.Settings

/-!
# Declared placeholders

A placeholder declares that something is left undone, why, and how bad that is.  It is declared in
an artifact or in a comment; a declaration in a comment governs the lines below it.
-/

namespace QualityGate
namespace Placeholder

/-- How much a declared gap hurts. -/
inductive Impact where
  | nonBlocking
  | partly
  | blocksAcceptance
deriving Repr, DecidableEq

namespace Impact

/-- The name of an impact. -/
def name : Impact → String
  | .nonBlocking => "non_blocking"
  | .partly => "partial"
  | .blocksAcceptance => "blocks_acceptance"

/-- The impact with a name between blanks. -/
def parse? (text : String) : Option Impact :=
  [nonBlocking, partly, blocksAcceptance].find? fun impact => impact.name == Text.trim text

/-- The debt an impact stands for. -/
def weight (settings : PlaceholderSettings) : Impact → Nat
  | .nonBlocking => settings.weightNonBlocking
  | .partly => settings.weightPartial
  | .blocksAcceptance => settings.weightBlocksAcceptance

end Impact

/-- A declaration as it is written; whether it is complete is checked apart from reading it. -/
structure Declaration where
  id? : Option String
  scope? : Option String
  reason? : Option String
  impact? : Option String
  fallback? : Option String
  debtNote? : Option String
  expiry? : Option String
deriving Repr, DecidableEq, Inhabited

namespace Declaration

/-- How a declaration is found in a document. -/
def decoder : Decoder Declaration :=
  Decoder.record "Placeholder" default
    [ .nullable "id" .text fun value declaration => { declaration with id? := value },
      .nullable "scope" .text fun value declaration => { declaration with scope? := value },
      .nullable "reason" .text fun value declaration => { declaration with reason? := value },
      .nullable "impact" .text fun value declaration => { declaration with impact? := value },
      .nullable "fallback" .text fun value declaration => { declaration with fallback? := value },
      { Decoder.Field.nullable "debt_note" .text fun value declaration =>
          { declaration with debtNote? := value } with aliases := ["debtNote"] },
      .nullable "expiry" .text fun value declaration => { declaration with expiry? := value } ]

/-- Nothing but blanks is given. -/
def isMissing (value? : Option String) : Bool :=
  match value? with
  | none => true
  | some value => Text.isBlankText value

/-- The fields that have to be given, with their names. -/
def needed (declaration : Declaration) : List (String × Option String) :=
  [("id", declaration.id?), ("scope", declaration.scope?), ("reason", declaration.reason?),
    ("impact", declaration.impact?), ("fallback", declaration.fallback?)]

/-- What is wrong with a declaration. -/
def problems (declaration : Declaration) : List String :=
  let missing := (declaration.needed.filter fun field => isMissing field.2).map fun field =>
    "missing '" ++ field.1 ++ "'"
  let impact :=
    match declaration.impact? with
    | none => []
    | some impact =>
      if !Text.isBlankText impact && (Impact.parse? impact).isNone then
        ["invalid impact '" ++ impact ++
          "' (expected non_blocking, partial or blocks_acceptance)"]
      else []
  let expiry :=
    match declaration.expiry? with
    | none => []
    | some expiry =>
      if (Instant.parseExpiry expiry).isNone then ["unparseable expiry '" ++ expiry ++ "'"] else []
  missing ++ impact ++ expiry

/-- Nothing is wrong with the declaration. -/
def isValid (declaration : Declaration) : Bool :=
  declaration.problems.isEmpty

/-- The impact of a declaration, if it names one. -/
def impactOf? (declaration : Declaration) : Option Impact :=
  declaration.impact?.bind Impact.parse?

/-- The name by which findings refer to a declaration. -/
def label (declaration : Declaration) : String :=
  declaration.id?.getD "<unnamed>"

/-- The declaration has run out. -/
def isExpired (declaration : Declaration) (now : Instant) : Bool :=
  (declaration.expiry?.bind Instant.parseExpiry).any fun expiry => expiry.notAfter now

end Declaration

/-! ## Declarations in comments -/

/-- What introduces a declaration in a comment. -/
def inlineMarker : String := "@placeholder"

/-- A declaration in a comment: its line, and what was read or why it could not be read. -/
structure InlineDeclaration where
  line : Nat
  parsed : Except String Declaration

namespace InlineDeclaration

/-- The declaration, if nothing is wrong with it. -/
def valid? (inline : InlineDeclaration) : Option Declaration :=
  match inline.parsed with
  | .ok declaration => if declaration.isValid then some declaration else none
  | .error _ => none

end InlineDeclaration

/-- What a declaration says, without the comment's closing marks. -/
def bodyOf (afterMarker : List Char) : String :=
  let trimmed := Text.strip afterMarker
  let withoutBlock := Text.dropEndings ['*', '/'] trimmed.length trimmed
  let withoutMarkup := Text.dropEndings ['-', '-', '>'] withoutBlock.length withoutBlock
  String.ofList (Text.strip withoutMarkup)

/-- The declaration in the comment of a line, if there is one. -/
def declarationIn? (line : Nat) (comment : String) : Option InlineDeclaration :=
  (Text.splitAt? inlineMarker.toList comment.toList).map fun (_, after) =>
    let body := bodyOf after
    { line
      parsed :=
        if body == "" then .error "declaration has no JSON body"
        else (Declaration.decoder.parse body).mapError Fault.message }

/-- The declarations in the comments of lines that were split. -/
def declarationsIn (lines : List LineParts) : List InlineDeclaration :=
  lines.zipIdx.filterMap fun (parts, index) => declarationIn? (index + 1) parts.comment

/-- The declarations in the comments of a file. -/
def inlineDeclarations (path : String) (lines : List String) : List InlineDeclaration :=
  declarationsIn (Comment.split (Profile.ofPath path).comments lines)

/-! ## Governed lines -/

/-- The largest number of a line. -/
def lineLimit : Nat := Word.bound 32 - 1

/-- The lines with a declaration, and the stretches of lines that valid ones govern.  A stretch
begins below its first number and includes its second. -/
structure Coverage where
  declarationLines : List Nat
  stretches : List (Nat × Nat)
deriving Repr, DecidableEq

namespace Coverage

/-- The governed lines of declarations that each reach `window` lines down.  A window has 32 bits,
and no stretch reaches beyond the largest number of a line. -/
def ofDeclarations (declarations : List InlineDeclaration) (window : Nat) : Coverage :=
  { declarationLines := declarations.map InlineDeclaration.line
    stretches := (declarations.filter fun inline => inline.valid?.isSome).map fun inline =>
      (inline.line, min lineLimit (inline.line + window % Word.bound 32)) }

/-- A declaration, valid or not, stands on the line. -/
def isDeclaration (coverage : Coverage) (line : Nat) : Bool :=
  coverage.declarationLines.contains line

/-- A valid declaration above governs the line. -/
def covers (coverage : Coverage) (line : Nat) : Bool :=
  coverage.stretches.any fun (first, last) => first < line && line ≤ last

/-- The line declares a placeholder or is governed by one. -/
def governs (coverage : Coverage) (line : Nat) : Bool :=
  coverage.isDeclaration line || coverage.covers line

end Coverage
end Placeholder
end QualityGate
