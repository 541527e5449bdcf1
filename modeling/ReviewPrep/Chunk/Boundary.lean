import ReviewPrep.Chunk.Basic
import ReviewPrep.Pattern.Match
import ReviewPrep.Text.Case.Lower

/-!
# Declaration boundaries

The lines where a declaration starts, by language: a pattern that recognises the line at its
start, with the name of the declaration as group 1, and the kind of chunk it opens. A language
without its own patterns uses generic ones for `func`, `function`, `def`, `fn` and `class`.
-/

namespace ReviewPrep

open Pattern

/-- A pattern for the first line of a declaration, with the kind of chunk it opens. -/
structure Boundary where
  /-- Recognises the line; group 1 is the name. -/
  pattern : Pattern
  /-- The kind of chunk the declaration opens. -/
  kind : ChunkKind

namespace Boundary

/-- The start of a line, after indentation. -/
def indented : Pattern := atStart ++ spaces

/-- A keyword followed by white space, or nothing. -/
def optKeyword (w : String) : Pattern := opt (lit w ++ spaces1)

/-- The name of the declaration, as group 1. -/
def name : Pattern := group 1 ident

/-- Go functions and methods, structs and interfaces. -/
def go : List Boundary :=
  [⟨indented ++ lit "func" ++ spaces1 ++
      opt (lit "(" ++ many1 (noneOfChars ")") ++ lit ")" ++ spaces1) ++ name ++ spaces ++ lit "(",
    .function⟩,
   ⟨indented ++ lit "type" ++ spaces1 ++ name ++ spaces1 ++ lit "struct" ++ spaces ++ lit "\x7b",
    .classDecl⟩,
   ⟨indented ++ lit "type" ++ spaces1 ++ name ++ spaces1 ++ lit "interface" ++ spaces ++
      lit "\x7b", .classDecl⟩]

/-- JavaScript and TypeScript functions, function-valued bindings, classes and methods. -/
def script : List Boundary :=
  let binding := indented ++ optKeyword "export" ++ keywords ["const", "let", "var"] ++ spaces1 ++
    name ++ spaces ++ lit "=" ++ spaces ++ optKeyword "async"
  [⟨indented ++ optKeyword "export" ++ optKeyword "async" ++ lit "function" ++ spaces1 ++ name ++
      spaces ++ lit "(", .function⟩,
   ⟨binding ++ lit "(", .function⟩,
   ⟨binding ++ lit "function", .function⟩,
   ⟨indented ++ optKeyword "export" ++ lit "class" ++ spaces1 ++ name, .classDecl⟩,
   ⟨indented ++ name ++ spaces ++ lit "(" ++ many (noneOfChars ")") ++ lit ")" ++ spaces ++
      opt (lit ":" ++ spaces ++ ident) ++ spaces ++ lit "\x7b", .method⟩]

/-- Python functions and classes. -/
def python : List Boundary :=
  [⟨indented ++ optKeyword "async" ++ lit "def" ++ spaces1 ++ name ++ spaces ++ lit "(", .function⟩,
   ⟨indented ++ lit "class" ++ spaces1 ++ name, .classDecl⟩]

/-- Java and Kotlin methods and classes. -/
def java : List Boundary :=
  let access := opt (keywords ["public", "private", "protected"])
  [⟨indented ++ access ++ spaces ++ opt (lit "static") ++ spaces ++ ident ++ spaces1 ++ name ++
      spaces ++ lit "(", .method⟩,
   ⟨indented ++ access ++ spaces ++ lit "class" ++ spaces1 ++ name, .classDecl⟩]

/-- Rust functions, structs and impl blocks. -/
def rust : List Boundary :=
  [⟨indented ++ optKeyword "pub" ++ optKeyword "async" ++ lit "fn" ++ spaces1 ++ name, .function⟩,
   ⟨indented ++ optKeyword "pub" ++ lit "struct" ++ spaces1 ++ name, .classDecl⟩,
   ⟨indented ++ optKeyword "pub" ++ lit "impl" ++ spaces1 ++
      opt (lit "<" ++ many1 (noneOfChars ">") ++ lit ">" ++ spaces1) ++ name, .classDecl⟩]

/-- C and C++ functions, classes and structs. -/
def cFamily : List Boundary :=
  [⟨indented ++ many1 (ident ++ spaces1) ++ name ++ spaces ++ lit "(" ++
      many (noneOfChars ")") ++ lit ")" ++ spaces ++ lit "\x7b", .function⟩,
   ⟨indented ++ lit "class" ++ spaces1 ++ name, .classDecl⟩,
   ⟨indented ++ lit "struct" ++ spaces1 ++ name, .classDecl⟩]

/-- Keywords that open a function or a class in many languages. -/
def generic : List Boundary :=
  [⟨indented ++ keywords ["func", "function", "def", "fn"] ++ spaces1 ++ name, .function⟩,
   ⟨indented ++ lit "class" ++ spaces1 ++ name, .classDecl⟩]

/-- The boundaries of a language tag, compared in lower case; generic ones for other tags. -/
def forLanguage (language : String) : List Boundary :=
  match Text.toLowerText language with
  | "go" | "golang" => go
  | "javascript" | "typescript" | "js" | "ts" => script
  | "python" | "py" => python
  | "java" | "kotlin" => java
  | "rust" | "rs" => rust
  | "c" | "cpp" | "c++" => cFamily
  | _ => generic

end Boundary

end ReviewPrep
