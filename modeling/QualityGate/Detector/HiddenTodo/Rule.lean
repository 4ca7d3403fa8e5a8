import QualityGate.Language.Profile

/-!
# Signs of hidden work

Rules are patterns with a weight.  Three categories of rules make findings; the other two only shift
the confidence of what they stand near.
-/

namespace QualityGate
namespace HiddenTodo

/-- What a rule recognises, from the strongest category to the weakest. -/
inductive Category where
  | broadKeyword
  | disguisedPhrase
  | stubSignature
  | businessLogic
  | todoVocabulary
deriving Repr, DecidableEq

namespace Category

/-- The rule of the findings of a category. -/
def findingRule? : Category → Option String
  | .broadKeyword => some "BROAD_KEYWORD"
  | .disguisedPhrase => some "DISGUISED_PHRASE"
  | .stubSignature => some "STUB_SIGNATURE"
  | .businessLogic => none
  | .todoVocabulary => none

/-- The category makes findings. -/
def isSignal (category : Category) : Bool :=
  category.findingRule?.isSome

/-- The place of a category in the order of strength. -/
def rank : Category → Nat
  | .broadKeyword => 0
  | .disguisedPhrase => 1
  | .stubSignature => 2
  | .businessLogic => 3
  | .todoVocabulary => 4

/-- The stronger of two categories. -/
def stronger (first second : Category) : Category :=
  if first.rank ≤ second.rank then first else second

/-- The strongest of several categories. -/
def strongest? : List Category → Option Category
  | [] => none
  | first :: rest => some (rest.foldl stronger first)

end Category

/-- Which part of a line a rule looks at. -/
inductive Target where
  | comment
  | code
  | both
deriving Repr, DecidableEq

/-- A pattern with its weight. -/
structure Rule where
  id : String
  pattern : Pattern
  weight : Float
  category : Category
  target : Target

namespace Rule

/-- The rule looks at comments. -/
def appliesToComment (rule : Rule) : Bool :=
  rule.target = .comment || rule.target = .both

/-- The rule looks at code. -/
def appliesToCode (rule : Rule) : Bool :=
  rule.target = .code || rule.target = .both

open Pattern

/-- Phrases whose parts are separated by gaps, between edges of words. -/
def phrase (parts : List Pattern) : Pattern :=
  atEdges (sequence (parts.intersperse gap))

/-- A rule about a keyword in comments. -/
def keyword (id : String) (weight : Float) (pattern : Pattern) : Rule :=
  ⟨id, pattern, weight, .broadKeyword, .comment⟩

/-- A rule about a phrase in comments. -/
def disguised (id : String) (weight : Float) (parts : List Pattern) : Rule :=
  ⟨id, phrase parts, weight, .disguisedPhrase, .comment⟩

/-- One of the given words. -/
def word (words : List String) : Pattern :=
  foldedChoice words

/-- One of the given characters, if it is there. -/
def maybe (characters : String) : Pattern :=
  optional (foldedAmong characters)

/-- Words that say openly that work is left. -/
def broadKeywords : List Rule :=
  [ keyword "keyword_todo" 0.6
      (choice [atEdges (word ["todo", "fixme", "hack"]), atEdges (exactly "XXX")]),
    keyword "keyword_stub" 0.5
      (atEdges (sequence [folded "stub", optional (word ["s", "bed"])])),
    keyword "keyword_placeholder" 0.5 (atEdges (sequence [folded "placeholder", maybe "s"])),
    keyword "keyword_disabled" 0.4
      (atEdges (sequence [optional (sequence [folded "temporarily", gap]), folded "disabled"])),
    keyword "keyword_for_now" 0.5 (atEdges (folded "for now")) ]

/-- Phrases that describe unfinished work without saying so. -/
def disguisedPhrases : List Rule :=
  [ { disguised "phrase_not_implemented" 0.7 [] with
      pattern := atEdges StubSign.notImplemented },
    disguised "phrase_to_be_implemented" 0.6
      [word ["to", "will"], folded "be", word ["implemented", "added", "completed", "wired up"]],
    disguised "phrase_implement_later" 0.6
      [folded "implement", word ["this", "me", "later", "properly"]],
    disguised "phrase_in_a_real" 0.7
      [folded "in", folded "a", folded "real",
        word ["implementation", "system", "app", "application", "world", "scenario"]],
    disguised "phrase_temporary" 0.6
      [folded "temporary",
        word ["solution", "fix", "workaround", "implementation", "hack", "code"]],
    disguised "phrase_simplified" 0.5
      [word ["simplified", "naive", "basic"], word ["version", "implementation", "approach"]],
    disguised "phrase_would_normally" 0.4
      [word ["would", "should"], word ["normally", "typically", "usually", "eventually"]],
    disguised "phrase_hardcoded" 0.6
      [sequence [folded "hard", maybe "-", folded "coded"],
        choice
          [sequence [folded "for", gap, word ["now", "testing", "the demo"]], folded "until"]],
    disguised "phrase_quick_fix" 0.5 [word ["quick", "dirty"], word ["fix", "hack"]],
    disguised "phrase_fake_data" 0.4
      [word ["fake", "dummy", "mock"],
        sequence [word ["data", "implementation", "response", "value"], maybe "s"]],
    disguised "phrase_workaround_until" 0.5 [folded "workaround", folded "until"],
    disguised "phrase_not_handled_yet" 0.5
      [folded "not", word ["handled", "supported", "wired", "hooked up"], folded "yet"],
    disguised "phrase_coming_soon" 0.5 [folded "coming", folded "soon"],
    disguised "phrase_left_as_exercise" 0.5
      [folded "left", folded "as", folded "an", folded "exercise"] ]

/-- A word with any ending. -/
def stem (text : String) : Pattern :=
  sequence [folded text, wordTail]

/-- A word that may stand in the plural. -/
def plural (text : String) : Pattern :=
  sequence [folded text, maybe "s"]

/-- Rules about what a line is concerned with. -/
def contextRules : List Rule :=
  [ { id := "context_business_logic"
      pattern := atEdges
        (choice
          [stem "auth", folded "login", folded "logout", plural "payment", folded "billing",
            plural "invoice", folded "checkout", folded "security", plural "permission",
            stem "validat", folded "database", plural "transaction", plural "account",
            plural "password", plural "token", stem "encrypt", stem "decrypt"])
      weight := 0.2
      category := .businessLogic
      target := .both },
    { id := "context_todo_vocabulary"
      pattern := choice
        [ atEdges
            (sequence
              [folded "todo", maybe " _-",
                word ["list", "item", "app", "system", "tracker", "detector", "detection",
                  "scanner", "pattern", "comment", "keyword", "marker", "template"],
                maybe "s"]),
          atEdges (sequence [folded "hidden", maybe " _-", plural "todo"]),
          atEdges (sequence [folded "broad", among " _-", plural "keyword"]) ]
      weight := -0.9
      category := .todoVocabulary
      target := .both },
    { id := "context_rule_definition"
      pattern := choice
        [ sequence
            [.edge, word ["pattern", "keyword", "phrase", "marker"], maybe "s", blanks,
              among ":="],
          atEdges (folded "Regex::new"),
          atEdges (folded "re.compile"),
          phrase [folded "new", folded "RegExp"] ]
      weight := -0.9
      category := .todoVocabulary
      target := .code } ]

/-- The rules about the text of lines, in the order in which they are tried. -/
def textRules : List Rule :=
  broadKeywords ++ disguisedPhrases ++ contextRules

/-- The rule of a stub sign. -/
def ofStub (stub : StubSign) : Rule :=
  ⟨stub.id, stub.pattern, stub.weight, .stubSignature, .code⟩

/-- The rules about stubs in a language: its own and those of every language. -/
def stubRules (language? : Option Language) : List Rule :=
  match language? with
  | some language => (language.stubs ++ StubSign.general).map ofStub
  | none => StubSign.general.map ofStub

end Rule

/-- The rules of a scan: those about the text of lines, and those about stubs in a language. -/
structure RuleSet where
  text : List Rule
  stubs : Option Language → List Rule

namespace RuleSet

/-- The rules that are built in. -/
def standard : RuleSet :=
  ⟨Rule.textRules, Rule.stubRules⟩

end RuleSet
end HiddenTodo
end QualityGate
