import ReviewPrep.Outline.Basic
import ReviewPrep.Outline.Scan
import ReviewPrep.Pattern.Match

/-!
# Outlines of C and C++ files

Lines are read one at a time: `#include` directives, the first namespace, structs, classes and
unions with their base, and function definitions, whose qualified names give their receivers.
Qualifiers such as `static` and `inline` are dropped from return types, and `void` returns
nothing. A function is exported unless its line says `static`.
-/

namespace ReviewPrep.Outline.CFamily

open Pattern

/-- `#include <path>` or `#include "path"`. -/
def includeDirective : Pattern :=
  atStart ++ spaces ++ lit "#" ++ spaces ++ lit "include" ++ spaces ++ anyOf "<\"" ++
    group 1 (many1 (noneOfChars ">\"")) ++ anyOf ">\""

/-- `namespace name`. -/
def namespaceDecl : Pattern :=
  atStart ++ spaces ++ lit "namespace" ++ spaces1 ++ group 1 (many1 (oneOf [.word, .char ':']))

/-- A function definition header: return type words, name, parameters. -/
def funcDecl : Pattern :=
  atStart ++
    group 1 (lazyMany1 (many1 (oneOf [.word, .char ':', .char '<', .char '>', .char ',']) ++
      many1 (oneOf [.space, .char '*', .char '&']))) ++
    many (lit "*") ++ opt (lit "&") ++ group 2 (many1 (oneOf [.word, .char ':', .char '~'])) ++ spaces ++
    lit "(" ++ group 3 (lazyMany (noneOfChars ";")) ++ lit ")" ++ spaces ++
    opt (lit "const" ++ spaces) ++ opt (lit "noexcept" ++ spaces) ++ opt (lit "\x7b") ++ spaces ++ atEnd

/-- A struct, class or union header with an optional base. -/
def structDecl : Pattern :=
  atStart ++ spaces ++ opt (lit "typedef" ++ spaces1) ++ group 1 (keywords ["struct", "class", "union"]) ++
    spaces1 ++ group 2 ident ++ spaces ++
    opt (lit ":" ++ spaces ++ opt (keywords ["public", "private", "protected"]) ++ spaces ++
      group 3 (many1 (oneOf [.word, .char ':']))) ++
    spaces ++ opt (lit "\x7b") ++ spaces ++ atEnd

/-- A parameter's type and name, the name possibly followed by `[]`. -/
def paramParts : Pattern :=
  atStart ++ group 1 (lazyMany dot) ++ group 2 (many1 word) ++ opt (group 3 (lit "[]")) ++ atEnd

/-- `static` as a word. -/
def staticWord : Pattern := wordBoundary ++ lit "static" ++ wordBoundary

/-- A function is exported unless its line says `static`. -/
def isExported (line : List Char) : Bool := !occurs staticWord line

/-- Parameters: `void` skipped; a type and a name, or a type alone. -/
def parseParams (params : List Char) : List Param :=
  (splitTopLevel params).filterMap fun part =>
    if part == "void".toList then none
    else match matchPrefix? paramParts part with
      | some m =>
        let type := Text.trim (m.text 1).toList
        if type.isEmpty then some { type := String.ofList part }
        else some { name := m.text 2, type := String.ofList type ++ m.text 3 }
      | none => some { type := String.ofList part }

/-- Qualifiers left out of return types. -/
def qualifiers : List String := ["static", "inline", "extern", "virtual"]

/-- Reads line `idx`. -/
def step (lines : List (List Char)) (o : Outline) (line : List Char) (idx : Nat) : Outline :=
  let n := idx + 1
  if let some m := matchPrefix? includeDirective line then o.addImport { path := m.text 1 }
  else if let some m := (matchPrefix? namespaceDecl line).filter (fun _ => o.package.isEmpty) then
    { o with package := m.text 1 }
  else if let some m := matchPrefix? structDecl line then
    o.addClass { name := m.text 2, startLine := n, endLine := blockEnd lines idx + 1,
                 base := m.text 3, isExported := true }
  else if let some m := (matchPrefix? funcDecl line).filter (fun m => !isControlKeyword (m.text 2)) then
    let qualified := (m.text 2).toList
    let returnType := Text.joinWith [' '] ((Text.words (m.text 1).toList).filter fun t =>
      !qualifiers.contains (String.ofList t))
    o.addFunction
      { name := String.ofList (((Text.splitOnText [':', ':'] qualified).getLast?).getD []),
        receiver := match Text.breakOnLast? [':', ':'] qualified with
          | some (r, _) => String.ofList r
          | none => "",
        params := parseParams (m.text 3).toList,
        returns := if returnType.isEmpty || returnType == "void".toList then []
          else [String.ofList returnType],
        startLine := n, endLine := blockEnd lines idx + 1, isExported := isExported line,
        doc := leadingComment lines idx }
  else o

/-- The outline of a C or C++ file's lines. -/
def scan (lines : List (List Char)) (o : Outline) : Outline :=
  lines.zipIdx.foldl (fun o (line, idx) => step lines o line idx) o

end ReviewPrep.Outline.CFamily

/-! ## Outlines of files in other languages

For languages without a scanner of their own, function and class keywords common to many
languages are recognised at the start of a line: `func`, `function`, `def`, `fn` and `sub`, a
`type name(` header with optional access and `static`, and `class`, `struct` and `type`.
Blocks end where their braces close.
-/

namespace ReviewPrep.Outline.Generic

open Pattern

/-- Function headers, tried in order; the last group is the name. -/
def functionHeaders : List (Pattern × Nat) :=
  [(atStart ++ keywords ["func", "function", "def", "fn", "sub"] ++ spaces1 ++ group 1 ident, 1),
   (atStart ++ opt (keywords ["public", "private", "protected"]) ++ spaces ++
      opt (lit "static" ++ spaces1) ++ group 1 ident ++ spaces1 ++ group 2 ident ++ spaces ++ lit "(", 2)]

/-- A class header. -/
def classHeader : Pattern := atStart ++ keywords ["class", "struct", "type"] ++ spaces1 ++ group 1 ident

/-- The name of the function declared on a line: the first header that matches with no group a
control keyword. -/
def functionName? (line : List Char) : Option String :=
  functionHeaders.findSome? fun (p, groups) =>
    (matchPrefix? p line).bind fun m =>
      if (List.range groups).any (fun i => isControlKeyword (m.text (i + 1))) then none
      else some (m.text groups)

/-- Reads line `idx`. -/
def step (lines : List (List Char)) (o : Outline) (line : List Char) (idx : Nat) : Outline :=
  let n := idx + 1
  let o := match functionName? line with
    | some name => o.addFunction { name, startLine := n, endLine := blockEnd lines idx + 1 }
    | none => o
  match matchPrefix? classHeader line with
  | some m => o.addClass { name := m.text 1, startLine := n, endLine := blockEnd lines idx + 1 }
  | none => o

/-- The outline of a file's lines. -/
def scan (lines : List (List Char)) (o : Outline) : Outline :=
  lines.zipIdx.foldl (fun o (line, idx) => step lines o line idx) o

end ReviewPrep.Outline.Generic
