import QualityGate.Pattern

/-!
# Structured markers

A marker that names an owner, an issue, a link or a checklist can be followed up.  For any other
marker a template with these parts is proposed.
-/

namespace QualityGate
namespace HiddenTodo

open Pattern

/-- An uppercase letter of the basic alphabet or a digit. -/
def isKeyPart (character : Char) : Bool :=
  character.isUpper || character.isDigit

/-- What makes a marker traceable: an owner, a mention, an issue, a link or a checklist. -/
def structured : Pattern :=
  choice
    [ sequence
        [.edge, foldedChoice ["todo", "fixme"], blanks, exactly "(", blanks,
          several fun character =>
            Text.isWordPart character || ['.', '@', '-'].contains character,
          blanks, exactly ")"],
      sequence [exactly "@", wordRun],
      sequence [exactly "#", several Text.isDigit],
      sequence
        [.edge, .one Char.isUpper, several isKeyPart, exactly "-", several Text.isDigit, .edge],
      sequence [exactly "http", optional (exactly "s"), exactly "://"],
      sequence [exactly "- [", among " x", exactly "]"] ]

/-- The comment is structured already. -/
def isStructured (comment : String) : Bool :=
  structured.occursIn comment

/-- Marks with which a documentation comment goes on. -/
def isDocMark (character : Char) : Bool :=
  ['/', '!', '*'].contains character

/-- The text of a comment without marks and blanks around it. -/
def commentText (comment : String) : List Char :=
  Text.strip (Text.dropStart isDocMark (Text.strip comment.toList))

/-- The words with which a marker begins. -/
def markerWords : List String :=
  ["TODO", "FIXME", "XXX", "HACK", "todo", "fixme", "hack"]

/-- What a marker is about. -/
def summaryOf (comment : String) : String :=
  let text := commentText comment
  let withoutWord := (markerWords.findSome? fun word => word.toList.isPrefixOf? text).getD text
  let summary := Text.strip (Text.dropStart [':', '-', ' '].contains withoutWord)
  if summary.isEmpty then "<what remains to be done>" else String.ofList summary

/-- The lines of a template with a comment marker in front. -/
def template (marker summary : String) : String :=
  String.intercalate "\n"
    [ marker ++ " TODO(<owner>): " ++ summary,
      marker ++ "   Issue: <tracker link>",
      marker ++ "   Acceptance:",
      marker ++ "   - [ ] <observable outcome>",
      marker ++ "   Depends on: <issue or none>",
      marker ++ "   Remove by: <YYYY-MM-DD>" ]

/-- A template for a comment that is not structured yet. -/
def suggestTemplate? (comment marker : String) : Option String :=
  if isStructured comment then none else some (template marker (summaryOf comment))

end HiddenTodo
end QualityGate
