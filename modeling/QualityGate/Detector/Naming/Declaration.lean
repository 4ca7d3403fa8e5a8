import QualityGate.Language.Basic
import QualityGate.Pattern

/-!
# Declarations

How the languages declare functions and types, and in which case their names are written.
-/

namespace QualityGate
namespace Naming

/-- The kind of a declared symbol. -/
inductive SymbolKind where
  | function
  | type
deriving Repr, DecidableEq

namespace SymbolKind

/-- The kind in words. -/
def label : SymbolKind → String
  | .function => "function"
  | .type => "type"

/-- The kind in words, at the start of a sentence. -/
def title : SymbolKind → String
  | .function => "Function"
  | .type => "Type"

end SymbolKind

/-- A convention for the case of names. -/
inductive LetterCase where
  | snake
  | pascal
  | camelOrPascal
deriving Repr, DecidableEq

namespace LetterCase

/-- A name without underscores at the front and marks at the back. -/
def core (name : String) : List Char :=
  Text.dropEnd (fun character => character == '?' || character == '!' || character == '=')
    (Text.dropStart (· == '_') name.toList)

/-- The name keeps the convention. -/
def accepts (convention : LetterCase) (name : String) : Bool :=
  let letters := core name
  if letters.isEmpty then true
  else
    match convention with
    | .snake =>
      letters.all fun character => character.isLower || character.isDigit || character == '_'
    | .pascal => letters.head?.any Char.isUpper && !letters.contains '_'
    | .camelOrPascal =>
      (String.ofList letters).utf8ByteSize == 1 ||
        (!letters.contains '_' && letters.any Char.isLower)

/-- The convention in words. -/
def label : LetterCase → String
  | .snake => "snake_case"
  | .pascal => "PascalCase"
  | .camelOrPascal => "camelCase"

end LetterCase

/-- The convention for the symbols of a language. -/
def conventionFor? (language : Language) : SymbolKind → Option LetterCase
  | .function =>
    if language = .shell then none
    else if language.hasSnakeCaseFunctions then some .snake
    else some .camelOrPascal
  | .type => if language = .go then some .camelOrPascal else some .pascal

open Pattern

/-- A letter of the basic alphabet or an underscore. -/
def startsIdentifier (character : Char) : Bool :=
  character.isAlpha || character == '_'

/-- An identifier, which is what a declaration names. -/
def identifier : Pattern :=
  .named (sequence [.one startsIdentifier, wordTail])

/-- An identifier that may have dollar signs. -/
def dollarIdentifier : Pattern :=
  .named
    (sequence
      [.one fun character => startsIdentifier character || character == '$',
        .repeated fun character => Text.isWordPart character || character == '$'])

/-- A word and a gap, if they are there. -/
def maybeWord (word : String) : Pattern :=
  optional (sequence [exactly word, gap])

/-- One of several words and a gap. -/
def oneWord (words : List String) : Pattern :=
  sequence [exactChoice words, gap]

/-- A visibility with an optional restriction, if it is there. -/
def maybeVisibility : Pattern :=
  optional
    (sequence
      [exactly "pub", optional (sequence [exactly "(", without ")", exactly ")"]), gap])

/-- The declarations of a language and what they declare. -/
def declarations : Language → List (SymbolKind × Pattern)
  | .rust =>
    [ (.function, sequence
        [.start, blanks, maybeVisibility, maybeWord "const", maybeWord "async", maybeWord "unsafe",
          optional
            (sequence
              [exactly "extern", gap, several (fun character => !Text.isBlank character), gap]),
          exactly "fn", gap, identifier]),
      (.type, sequence
        [.start, blanks, maybeVisibility, oneWord ["struct", "enum", "trait", "union"],
          identifier]) ]
  | .python =>
    [ (.function, sequence [.start, blanks, maybeWord "async", exactly "def", gap, identifier]),
      (.type, sequence [.start, blanks, exactly "class", gap, identifier]) ]
  | .ruby =>
    [ (.function, sequence
        [.start, blanks, exactly "def", gap, optional (exactly "self."),
          .named
            (sequence [.one startsIdentifier, wordTail, optional (among "?!=")])]),
      (.type, sequence
        [.start, blanks, oneWord ["class", "module"],
          .named (sequence [.one Char.isUpper, wordTail])]) ]
  | .javaScript => scriptDeclarations
  | .typeScript => scriptDeclarations
  | .go =>
    [ (.function, sequence
        [.start, blanks, exactly "func", gap,
          optional (sequence [exactly "(", without ")", exactly ")", blanks]), identifier]),
      (.type, sequence
        [.start, blanks, exactly "type", gap, identifier, gap,
          exactChoice ["struct", "interface"], .edge]) ]
  | .kotlin =>
    [ (.function, sequence
        [.edge, exactly "fun", gap,
          optional (sequence [exactly "<", without ">", exactly ">", blanks]), identifier]),
      (.type, sequence [.edge, oneWord ["class", "interface", "object"], identifier]) ]
  | .swift =>
    [ (.function, sequence [.edge, exactly "func", gap, identifier]),
      (.type, sequence [.edge, oneWord ["class", "struct", "enum", "protocol"], identifier]) ]
  | .java => managedDeclarations
  | .cSharp => managedDeclarations
  | .php =>
    [ (.type, sequence
        [.start, blanks, optional (oneWord ["abstract", "final"]),
          oneWord ["class", "interface", "trait"], identifier]) ]
  | .shell =>
    [ (.function, sequence
        [.start, blanks, exactly "function", gap,
          .named
            (sequence
              [.one startsIdentifier,
                .repeated fun character => Text.isWordPart character || character == '-'])]) ]
  | .c => []
  | .cpp => []
where
  /-- Declarations of scripts. -/
  scriptDeclarations : List (SymbolKind × Pattern) :=
    [ (.function, sequence
        [.edge, exactly "function", blanks, optional (exactly "*"), gap, dollarIdentifier]),
      (.type, sequence
        [.start, blanks, maybeWord "export", maybeWord "default", maybeWord "abstract",
          oneWord ["class", "interface"], dollarIdentifier]) ]
  /-- Declarations of languages whose functions have no keyword. -/
  managedDeclarations : List (SymbolKind × Pattern) :=
    [ (.type, sequence
        [.edge, oneWord ["class", "interface", "enum", "record"], identifier]) ]

end Naming
end QualityGate
