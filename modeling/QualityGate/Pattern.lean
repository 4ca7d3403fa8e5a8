import QualityGate.Text.Letter

/-!
# Patterns

A pattern describes texts by classes of characters, repetition, sequence and choice.  It is matched
from the left: the first place where it matches wins, then the first alternative, and repetitions
take as much as they can.
-/

namespace QualityGate

/-- A description of texts. -/
inductive Pattern where
  | empty
  | one (accepts : Char → Bool)
  | repeated (accepts : Char → Bool)
  | both (first second : Pattern)
  | either (first second : Pattern)
  | never
  | edge
  | start
  | finish
  | named (inner : Pattern)

namespace Pattern

/-! ## Matching -/

/-- A place in a text during a match: the character before it, the number of characters before it,
what follows, and the stretch that was named. -/
structure Spot where
  before? : Option Char
  index : Nat
  rest : List Char
  named? : Option (Nat × Nat)

namespace Spot

/-- Step over one character. -/
def step (spot : Spot) (character : Char) (rest : List Char) : Spot :=
  { spot with before? := some character, index := spot.index + 1, rest := rest }

/-- A word begins or ends here. -/
def atEdge (spot : Spot) : Bool :=
  spot.before?.any Text.isWordPart != spot.rest.head?.any Text.isWordPart

end Spot

variable {α : Type}

/-- Take accepted characters, as many as the continuation allows. -/
def matchRepeated (accepts : Char → Bool) (next : Spot → Option α) :
    List Char → Spot → Option α
  | [], spot => next spot
  | character :: rest, spot =>
    if accepts character then
      match matchRepeated accepts next rest (spot.step character rest) with
      | some result => some result
      | none => next spot
    else next spot

/-- Match a pattern at a place and hand every way to do so, best first, to the continuation until
it succeeds. -/
def matchAt : Pattern → (Spot → Option α) → Spot → Option α
  | .empty, next, spot => next spot
  | .one accepts, next, spot =>
    match spot.rest with
    | [] => none
    | character :: rest =>
      if accepts character then next (spot.step character rest) else none
  | .repeated accepts, next, spot => matchRepeated accepts next spot.rest spot
  | .both first second, next, spot =>
    matchAt first (fun middle => matchAt second next middle) spot
  | .either first second, next, spot =>
    match matchAt first next spot with
    | some result => some result
    | none => matchAt second next spot
  | .never, _, _ => none
  | .edge, next, spot => if spot.atEdge then next spot else none
  | .start, next, spot => if spot.index == 0 then next spot else none
  | .finish, next, spot => if spot.rest.isEmpty then next spot else none
  | .named inner, next, spot =>
    matchAt inner
      (fun reached => next { reached with named? := some (spot.index, reached.index) }) spot

/-- A stretch of a text that matches, as character positions, with the stretch that was named. -/
structure Match where
  first : Nat
  last : Nat
  named? : Option (Nat × Nat)
deriving Repr, DecidableEq

/-- Look for a match from a place on. -/
def searchFrom (pattern : Pattern) (before? : Option Char) (index : Nat) :
    List Char → Option Match
  | [] =>
    matchAt pattern (fun spot => some ⟨index, spot.index, spot.named?⟩) ⟨before?, index, [], none⟩
  | character :: rest =>
    match matchAt pattern (fun spot => some (Match.mk index spot.index spot.named?))
        ⟨before?, index, character :: rest, none⟩ with
    | some found => some found
    | none => searchFrom pattern (some character) (index + 1) rest

/-- The leftmost match in a text. -/
def find? (pattern : Pattern) (text : String) : Option Match :=
  searchFrom pattern none 0 text.toList

/-- The pattern matches somewhere in a text. -/
def occursIn (pattern : Pattern) (text : String) : Bool :=
  (pattern.find? text).isSome

/-- The characters of a text between two positions. -/
def stretch (text : String) (bounds : Nat × Nat) : String :=
  String.ofList ((text.toList.drop bounds.1).take (bounds.2 - bounds.1))

/-- The text of the leftmost match. -/
def findText? (pattern : Pattern) (text : String) : Option String :=
  (pattern.find? text).map fun found => stretch text (found.first, found.last)

/-! ## Building blocks -/

/-- Patterns one after the other. -/
def sequence (patterns : List Pattern) : Pattern :=
  patterns.foldr .both .empty

/-- The first of several patterns that leads to a match. -/
def choice (patterns : List Pattern) : Pattern :=
  patterns.foldr .either .never

/-- The pattern if possible, otherwise nothing. -/
def optional (pattern : Pattern) : Pattern :=
  .either pattern .empty

/-- One or more accepted characters. -/
def several (accepts : Char → Bool) : Pattern :=
  .both (.one accepts) (.repeated accepts)

/-- The given characters. -/
def exactly (text : String) : Pattern :=
  sequence (text.toList.map fun expected => .one (· == expected))

/-- The characters are the same letter, whatever their case. -/
def sameLetter (expected character : Char) : Bool :=
  expected.toLower == character.toLower ||
    (expected.toLower == 'k' && character == '\u212a') ||
    (expected.toLower == 's' && character == '\u017f')

/-- The given characters in any case. -/
def folded (text : String) : Pattern :=
  sequence (text.toList.map fun expected => .one (sameLetter expected))

/-- One of the given texts, in any case. -/
def foldedChoice (texts : List String) : Pattern :=
  choice (texts.map folded)

/-- One of the given texts. -/
def exactChoice (texts : List String) : Pattern :=
  choice (texts.map exactly)

/-- One of the given characters. -/
def among (characters : String) : Pattern :=
  .one fun character => characters.toList.contains character

/-- One of the given letters, in any case. -/
def foldedAmong (characters : String) : Pattern :=
  .one fun character => characters.toList.any fun expected => sameLetter expected character

/-- Any number of characters other than the given ones. -/
def without (characters : String) : Pattern :=
  .repeated fun character => !characters.toList.contains character

/-- Any number of blanks. -/
def blanks : Pattern :=
  .repeated Text.isBlank

/-- One or more blanks. -/
def gap : Pattern :=
  several Text.isBlank

/-- Any number of characters of words. -/
def wordTail : Pattern :=
  .repeated Text.isWordPart

/-- One or more characters of words. -/
def wordRun : Pattern :=
  several Text.isWordPart

/-- A pattern between two edges of words. -/
def atEdges (pattern : Pattern) : Pattern :=
  sequence [.edge, pattern, .edge]

end Pattern
end QualityGate
