import QualityGate.Location

/-!
# Programming languages

The languages with rules of their own, and how a file's language is told from its extension.
-/

namespace QualityGate

/-- A language with scanning rules of its own. -/
inductive Language where
  | rust
  | python
  | javaScript
  | typeScript
  | go
  | java
  | kotlin
  | cSharp
  | c
  | cpp
  | ruby
  | php
  | swift
  | shell
deriving Repr, DecidableEq, Inhabited

namespace Language

/-- All languages, in the order in which extensions are looked up. -/
def all : List Language :=
  [.rust, .python, .javaScript, .typeScript, .go, .java, .kotlin, .cSharp, .c, .cpp, .ruby, .php,
    .swift, .shell]

/-- The file extensions of a language, with their dots. -/
def extensions : Language → List String
  | .rust => [".rs"]
  | .python => [".py", ".pyi", ".pyw"]
  | .javaScript => [".js", ".jsx", ".mjs", ".cjs"]
  | .typeScript => [".ts", ".tsx", ".mts", ".cts"]
  | .go => [".go"]
  | .java => [".java"]
  | .kotlin => [".kt", ".kts"]
  | .cSharp => [".cs"]
  | .c => [".c", ".h"]
  | .cpp => [".cpp", ".cc", ".cxx", ".hpp", ".hxx", ".hh"]
  | .ruby => [".rb", ".rake"]
  | .php => [".php"]
  | .swift => [".swift"]
  | .shell => [".sh", ".bash", ".zsh"]

/-- The language of a path by its extension. -/
def ofPath? (path : String) : Option Language :=
  (Location.lowerExtension? path).bind fun extension =>
    all.find? fun language => language.extensions.contains ("." ++ extension)

/-- Functions are conventionally named in snake case. -/
def hasSnakeCaseFunctions : Language → Bool
  | .rust => true
  | .python => true
  | .ruby => true
  | .shell => true
  | _ => false

/-- The name of a language. -/
def name : Language → String
  | .rust => "Rust"
  | .python => "Python"
  | .javaScript => "JavaScript"
  | .typeScript => "TypeScript"
  | .go => "Go"
  | .java => "Java"
  | .kotlin => "Kotlin"
  | .cSharp => "C#"
  | .c => "C"
  | .cpp => "C++"
  | .ruby => "Ruby"
  | .php => "PHP"
  | .swift => "Swift"
  | .shell => "Shell"

/-- The name of a language in letters only. -/
def identifier : Language → String
  | .cSharp => "CSharp"
  | .cpp => "Cpp"
  | .php => "Php"
  | language => language.name

end Language
end QualityGate
