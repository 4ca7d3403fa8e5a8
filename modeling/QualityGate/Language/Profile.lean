import QualityGate.Language.Basic
import QualityGate.Language.Comment
import QualityGate.Pattern

/-!
# What is known about a language

A profile holds how comments are written and which code gives away an implementation that was left
out.  Files outside the known languages have a general profile; markup, style sheets and settings
keep its stub signs but have comments of their own.
-/

namespace QualityGate

/-- A sign of an implementation that was left out. -/
structure StubSign where
  id : String
  pattern : Pattern
  weight : Float
  description : String

/-- Everything a scan needs to know about a language. -/
structure Profile where
  language? : Option Language
  comments : CommentStyle
  stubs : List StubSign

namespace CommentStyle

/-- Slashes, slash-star blocks and three kinds of quotes. -/
def slashes : CommentStyle :=
  ⟨["//"], some ("/*", "*/"), ['"', '\'', '`'], false⟩

/-- Slashes, where a single quote may also stand for a lifetime. -/
def slashesWithLifetimes : CommentStyle :=
  ⟨["//"], some ("/*", "*/"), ['"'], true⟩

/-- Hash signs only. -/
def hashes : CommentStyle :=
  ⟨["#"], none, ['"', '\''], false⟩

/-- Hash signs, and triple quotes as blocks. -/
def hashesWithDocstrings : CommentStyle :=
  ⟨["#"], some ("\"\"\"", "\"\"\""), ['"', '\''], false⟩

/-- Slashes, hash signs and slash-star blocks. -/
def slashesAndHashes : CommentStyle :=
  ⟨["//", "#"], some ("/*", "*/"), ['"', '\''], false⟩

/-- Every usual way to write a comment. -/
def general : CommentStyle :=
  ⟨["//", "#", "--"], some ("/*", "*/"), ['"'], false⟩

/-- Comments of markup. -/
def markup : CommentStyle :=
  ⟨[], some ("<!--", "-->"), ['"'], false⟩

/-- Comments of plain style sheets. -/
def plainStyleSheet : CommentStyle :=
  ⟨[], some ("/*", "*/"), ['"'], false⟩

/-- Comments of style sheets that are compiled. -/
def compiledStyleSheet : CommentStyle :=
  ⟨["//"], some ("/*", "*/"), ['"'], false⟩

/-- Comments of settings. -/
def settings : CommentStyle :=
  ⟨["#"], none, ['"'], false⟩

/-- The style of a file outside the known languages, by its extension. -/
def ofExtension (extension : String) : CommentStyle :=
  if ["html", "htm", "xml", "xhtml", "vue", "svelte", "erb", "hbs"].contains extension then markup
  else if extension == "css" then plainStyleSheet
  else if ["scss", "sass", "less"].contains extension then compiledStyleSheet
  else if ["yaml", "yml", "toml", "ini", "cfg", "conf", "properties", "env"].contains extension then
    settings
  else general

end CommentStyle

namespace StubSign

open Pattern

/-- The words "not implemented" or "not yet implemented", in any case. -/
def notImplemented : Pattern :=
  sequence
    [folded "not", gap, optional (sequence [folded "yet", gap]), folded "implemented"]

/-- Round brackets that hold no closing bracket. -/
def parameters : Pattern :=
  sequence [exactly "(", without ")", exactly ")"]

/-- A pair of braces with nothing but blanks between them. -/
def emptyBody : Pattern :=
  sequence [exactly "\x7b", blanks, exactly "\x7d"]

/-- An opening bracket and one of the given quotes, followed by a message with the words "not
implemented" before any of these quotes. -/
def quotedMessage (quotes : String) : Pattern :=
  sequence [exactly "(", blanks, among quotes, without quotes, notImplemented]

/-- A result type between an arrow and the given character. -/
def resultBefore (ending : String) : Pattern :=
  optional
    (sequence
      [exactly "->", blanks, .one fun character => !ending.toList.contains character,
        without ending])

/-- Signs of unfinished Rust. -/
def rust : List StubSign :=
  [ { id := "rust_todo_macro"
      pattern := sequence [.edge, exactly "todo!", blanks, exactly "("]
      weight := 0.7
      description := "todo!() macro" },
    { id := "rust_unimplemented_macro"
      pattern := sequence [.edge, exactly "unimplemented!", blanks, exactly "("]
      weight := 0.7
      description := "unimplemented!() macro" },
    { id := "rust_panic_not_implemented"
      pattern := sequence [.edge, exactly "panic!", blanks, quotedMessage "\""]
      weight := 0.7
      description := "panic with a not-implemented message" },
    { id := "rust_empty_fn"
      pattern := sequence
        [.edge, exactly "fn", gap, wordRun, blanks,
          optional (sequence [exactly "<", without ">", exactly ">"]), blanks, parameters, blanks,
          resultBefore "\x7b", emptyBody]
      weight := 0.3
      description := "function with an empty body" } ]

/-- Signs of unfinished Python. -/
def python : List StubSign :=
  [ { id := "python_not_implemented_error"
      pattern := sequence [.edge, exactly "raise", gap, exactly "NotImplementedError", .edge]
      weight := 0.7
      description := "raise NotImplementedError" },
    { id := "python_pass_body"
      pattern := sequence
        [.start, blanks, exactly "def", gap, wordRun, blanks, parameters, blanks, resultBefore ":",
          exactly ":", blanks, exactChoice ["pass", "..."], blanks, .finish]
      weight := 0.4
      description := "function body is only pass/..." } ]

/-- Signs of unfinished JavaScript and TypeScript. -/
def javaScript : List StubSign :=
  [ { id := "js_throw_not_implemented"
      pattern := sequence
        [.edge, exactly "throw", gap, exactly "new", gap, exactly "Error", blanks,
          quotedMessage "'\"`"]
      weight := 0.7
      description := "throw new Error('not implemented')" },
    { id := "js_empty_function"
      pattern := sequence
        [.edge, exactly "function", gap, wordRun, blanks, parameters, blanks, emptyBody]
      weight := 0.3
      description := "function with an empty body" } ]

/-- Signs of unfinished Go. -/
def go : List StubSign :=
  [ { id := "go_panic_not_implemented"
      pattern := sequence
        [.edge, exactly "panic(", blanks, exactly "\"", without "\"",
          choice [notImplemented, folded "todo"]]
      weight := 0.7
      description := "panic(\"not implemented\")" },
    { id := "go_empty_func"
      pattern := sequence
        [.start, blanks, exactly "func", gap, optional (sequence [parameters, blanks]), wordRun,
          blanks, parameters, without "\x7b", emptyBody]
      weight := 0.3
      description := "function with an empty body" } ]

/-- Signs of unfinished Java and Kotlin. -/
def jvm : List StubSign :=
  [ { id := "jvm_unsupported_operation"
      pattern := sequence
        [.edge, exactly "throw", gap, exactly "new", gap,
          exactChoice ["UnsupportedOperationException", "NotImplementedException"], .edge]
      weight := 0.7
      description := "throw UnsupportedOperationException" },
    { id := "kotlin_todo_call"
      pattern := sequence [.edge, exactly "TODO", blanks, exactly "("]
      weight := 0.7
      description := "Kotlin TODO() call" } ]

/-- Signs of unfinished C#. -/
def cSharp : List StubSign :=
  [ { id := "csharp_not_implemented"
      pattern := sequence
        [.edge, exactly "throw", gap, exactly "new", gap, exactly "NotImplementedException", .edge]
      weight := 0.7
      description := "throw new NotImplementedException()" } ]

/-- Signs of unfinished C and C++. -/
def c : List StubSign :=
  [ { id := "c_assert_not_implemented"
      pattern := sequence
        [.edge, exactly "assert", blanks, exactly "(", blanks, exactChoice ["0", "false"], blanks,
          exactly "&&", blanks, exactly "\"", without "\"", notImplemented]
      weight := 0.6
      description := "assert(0 && \"not implemented\")" } ]

/-- Signs of unfinished Ruby. -/
def ruby : List StubSign :=
  [ { id := "ruby_not_implemented_error"
      pattern := sequence [.edge, exactly "raise", gap, exactly "NotImplementedError", .edge]
      weight := 0.7
      description := "raise NotImplementedError" } ]

/-- Signs of unfinished PHP. -/
def php : List StubSign :=
  [ { id := "php_throw_not_implemented"
      pattern := sequence
        [.edge, exactly "throw", gap, exactly "new", gap, optional (exactly "\\"), wordTail,
          exactly "Exception", blanks, quotedMessage "'\""]
      weight := 0.7
      description := "throw new Exception('not implemented')" } ]

/-- Signs of unfinished Swift. -/
def swift : List StubSign :=
  [ { id := "swift_fatal_error"
      pattern := sequence [.edge, exactly "fatalError", blanks, quotedMessage "\""]
      weight := 0.7
      description := "fatalError(\"not implemented\")" } ]

/-- Signs that count in every language. -/
def general : List StubSign :=
  [ { id := "generic_not_implemented"
      pattern := notImplemented
      weight := 0.4
      description := "not-implemented marker" },
    { id := "generic_placeholder_return"
      pattern := sequence
        [.edge, folded "return", gap, among "'\"",
          foldedChoice ["placeholder", "dummy", "fake", "stub", "lorem ipsum"]]
      weight := 0.5
      description := "returns a placeholder value" } ]

end StubSign

namespace Language

/-- How comments are written in a language. -/
def comments : Language → CommentStyle
  | .rust => .slashesWithLifetimes
  | .python => .hashesWithDocstrings
  | .ruby => .hashes
  | .shell => .hashes
  | .php => .slashesAndHashes
  | _ => .slashes

/-- The stub signs of a language. -/
def stubs : Language → List StubSign
  | .rust => StubSign.rust
  | .python => StubSign.python
  | .javaScript => StubSign.javaScript
  | .typeScript => StubSign.javaScript
  | .go => StubSign.go
  | .java => StubSign.jvm
  | .kotlin => StubSign.jvm
  | .cSharp => StubSign.cSharp
  | .c => StubSign.c
  | .cpp => StubSign.c
  | .ruby => StubSign.ruby
  | .php => StubSign.php
  | .swift => StubSign.swift
  | .shell => []

end Language

namespace Profile

/-- The profile of a file outside the known languages. -/
def general : Profile :=
  ⟨none, .general, StubSign.general⟩

/-- The profile of a language, or the general one. -/
def ofLanguage : Option Language → Profile
  | some language => ⟨some language, language.comments, language.stubs⟩
  | none => general

/-- The profile of a path. -/
def ofPath (path : String) : Profile :=
  match Language.ofPath? path with
  | some language => ofLanguage (some language)
  | none =>
    { general with comments := .ofExtension ((Location.lowerExtension? path).getD "") }

end Profile
end QualityGate
