import ReviewPrep.Outline.Basic
import ReviewPrep.Outline.Scan
import ReviewPrep.Pattern.Match

/-!
# Outlines of JavaScript and TypeScript files

Lines are read one at a time: ES imports, side-effect imports and `require` bindings; function
declarations; arrow functions bound by `const`, `let` or `var`, whose expression bodies end on
their own line; classes with their base and interfaces; and, in TypeScript, interfaces with their
method signatures. A method line inside a class adds its name to the innermost class around it.
A declaration is exported when its line starts with `export`.
-/

namespace ReviewPrep.Outline.Script

open Pattern

/-- A quote, single or double. -/
def quote : Pattern := anyOf "'\""

/-- A quoted module path, as group `i`. -/
def quotedPath (i : Nat) : Pattern := quote ++ group i (many1 (noneOfChars "'\"")) ++ quote

/-- `import … from 'path'`, with a default binding, a namespace binding or named bindings. -/
def importFrom : Pattern :=
  atStart ++ lit "import" ++ spaces1 ++ opt (lit "type" ++ spaces1) ++
    opt (group 1 ident ++ spaces ++ opt (lit ",") ++ spaces) ++
    opt (lit "*" ++ spaces1 ++ lit "as" ++ spaces1 ++ group 2 ident ++ spaces) ++
    opt (lit "\x7b" ++ many (noneOfChars "\x7d") ++ lit "\x7d" ++ spaces) ++
    lit "from" ++ spaces1 ++ quotedPath 3

/-- `import 'path'`. -/
def importBare : Pattern := atStart ++ lit "import" ++ spaces1 ++ quotedPath 1

/-- `const name = require('path')`, the binding a name or a destructuring pattern. -/
def requireCall : Pattern :=
  atStart ++ keywords ["const", "let", "var"] ++ spaces1 ++
    group 1 (ident <|> (lit "\x7b" ++ many (noneOfChars "\x7d") ++ lit "\x7d")) ++ spaces ++
    lit "=" ++ spaces ++ lit "require(" ++ spaces ++ quotedPath 2 ++ spaces ++ lit ")"

/-- A function declaration: name, parameters and return annotation. -/
def funcDecl : Pattern :=
  atStart ++ opt (group 1 (lit "export" ++ spaces1)) ++ opt (lit "default" ++ spaces1) ++
    opt (lit "async" ++ spaces1) ++ lit "function" ++ spaces ++ opt (lit "*") ++ spaces ++
    group 2 ident ++ spaces ++ opt (lit "<" ++ many (noneOfChars ">") ++ lit ">") ++
    lit "(" ++ group 3 (many (noneOfChars ")")) ++ opt (lit ")") ++
    opt (spaces ++ lit ":" ++ spaces ++ group 4 (lazyMany1 (noneOfChars "\x7b"))) ++ spaces ++
    opt (lit "\x7b" ++ many dot) ++ atEnd

/-- An arrow function bound to a name: parameters in parentheses or one bare parameter, and a
return annotation. -/
def arrowDecl : Pattern :=
  atStart ++ opt (group 1 (lit "export" ++ spaces1)) ++ keywords ["const", "let", "var"] ++
    spaces1 ++ group 2 ident ++ spaces ++ opt (lit ":" ++ spaces ++ many1 (noneOfChars "=")) ++
    lit "=" ++ spaces ++ opt (lit "async" ++ spaces1) ++
    ((lit "(" ++ group 3 (many (noneOfChars ")")) ++ lit ")") <|> group 4 ident) ++ spaces ++
    opt (lit ":" ++ spaces ++ group 5 (lazyMany1 (noneOfChars "="))) ++ spaces ++ lit "=>"

/-- A class declaration. -/
def classDecl : Pattern :=
  atStart ++ opt (group 1 (lit "export" ++ spaces1)) ++ opt (lit "default" ++ spaces1) ++
    opt (lit "abstract" ++ spaces1) ++ lit "class" ++ spaces1 ++ group 2 ident

/-- `extends Base`, anywhere on the line. -/
def extendsClause : Pattern :=
  wordBoundary ++ lit "extends" ++ spaces1 ++ group 1 (many1 (oneOf [.word, .char '.']))

/-- `implements A, B`, anywhere on the line, up to a brace. -/
def implementsClause : Pattern :=
  wordBoundary ++ lit "implements" ++ spaces1 ++ group 1 (many1 (noneOfChars "\x7b"))

/-- A method definition inside a class body. -/
def methodDef : Pattern :=
  atStart ++ spaces1 ++
    many (keywords ["public", "private", "protected", "static", "async", "readonly", "override",
      "abstract", "get", "set"] ++ spaces1) ++
    opt (lit "*") ++ opt (lit "#") ++ group 1 ident ++ spaces ++
    opt (lit "<" ++ many (noneOfChars ">") ++ lit ">") ++ lit "(" ++ many (noneOfChars ")") ++
    lit ")" ++ spaces ++ opt (lit ":" ++ spaces ++ many1 (noneOfChars "\x7b")) ++ lit "\x7b"

/-- An interface declaration. -/
def interfaceDecl : Pattern :=
  atStart ++ opt (group 1 (lit "export" ++ spaces1)) ++ opt (lit "declare" ++ spaces1) ++
    lit "interface" ++ spaces1 ++ group 2 ident

/-- A method signature inside an interface body. -/
def interfaceMethod : Pattern :=
  atStart ++ spaces1 ++ group 1 ident ++ opt (lit "?") ++ spaces ++
    opt (lit "<" ++ many (noneOfChars ">") ++ lit ">") ++ lit "("

/-- A declaration is exported when its line starts with `export`. -/
def isExported (line : List Char) : Bool := startsWith (Text.trimLeft line) "export"

/-- Parameters: defaults dropped, `name: type` or a bare name, an optional mark removed. -/
def parseParams (params : List Char) : List Param :=
  (splitTopLevel params).filterMap fun part =>
    let part := Text.trim ((Text.splitOnText ['='] part).headD [])
    match Text.breakOn? [':'] part with
    | some (n, t) =>
      some { name := String.ofList (Text.dropRightOf ['?'] (Text.trim n)),
             type := String.ofList (Text.trim t) }
    | none => if part.isEmpty then none else some { name := String.ofList part }

/-- The imports a line declares, if it is an import. -/
def importOf? (line : List Char) : Option Import :=
  match matchPrefix? importFrom line with
  | some m =>
    some { path := m.text 3, localName := (m.str? 1).getD ((m.str? 2).getD "") }
  | none =>
    match matchPrefix? importBare line with
    | some m => some { path := m.text 1 }
    | none =>
      match matchPrefix? requireCall line with
      | some m =>
        some { path := m.text 2, localName := if startsWith (m.text 1).toList "\x7b" then "" else m.text 1 }
      | none => none

/-- The function declared on line `idx`, ending on line `stop?` or where its block closes. -/
def function (lines : List (List Char)) (idx : Nat) (name params : String) (returns : Option String)
    (stop? : Option Nat) : FunctionDecl :=
  let line := lines.getD idx []
  let returns := returns.getD ""
  { name, startLine := idx + 1, endLine := stop?.getD (blockEnd lines idx) + 1,
    params := parseParams params.toList,
    returns := if returns.isEmpty then [] else [String.ofList (Text.trim returns.toList)],
    isExported := isExported line, doc := leadingComment lines idx }

/-- The position of the class that most tightly encloses line `n`. -/
def enclosingClass? (classes : List ClassDecl) (n : Nat) : Option Nat :=
  (innermostScope (classes.zipIdx.map fun (c, i) => ⟨c.startLine, c.endLine, i⟩) n).map (·.item)

/-- Reads line `idx`; `typed` reads TypeScript interfaces too. -/
def step (typed : Bool) (lines : List (List Char)) (o : Outline) (line : List Char) (idx : Nat) :
    Outline :=
  let n := idx + 1
  if let some i := importOf? line then o.addImport i
  else if let some m := matchPrefix? funcDecl line then
    o.addFunction (function lines idx (m.text 2) (m.text 3) (m.str? 4) none)
  else if let some m := matchPrefix? arrowDecl line then
    let params := (m.str? 3).getD (m.text 4)
    let body := Text.trim m.after
    let stop? := if !body.isEmpty && !startsWith body "\x7b" then some idx else none
    o.addFunction (function lines idx (m.text 2) params (m.str? 5) stop?)
  else if let some m := matchPrefix? classDecl line then
    o.addClass { name := m.text 2, startLine := n, endLine := blockEnd lines idx + 1,
                 isExported := isExported line,
                 base := ((search? extendsClause line).map (·.text 1)).getD "",
                 implements := ((search? implementsClause line).map fun m =>
                   splitTopLevelStr (m.text 1)).getD [] }
  else if let some m := (if typed then matchPrefix? interfaceDecl line else none) then
    let stop := blockEnd lines idx
    let body := (lines.drop (idx + 1)).take (stop - idx)
    o.addInterface { name := m.text 2, startLine := n, endLine := stop + 1,
                     methods := body.filterMap fun l => (matchPrefix? interfaceMethod l).map (·.text 1),
                     isExported := isExported line }
  else if let some m := matchPrefix? methodDef line then
    if isControlKeyword (m.text 1) then o
    else match enclosingClass? o.classes n with
      | some i => o.modifyClass i fun c => { c with methods := c.methods ++ [m.text 1] }
      | none => o
  else o

/-- The outline of a JavaScript file's lines, or of a TypeScript file's when `typed`. -/
def scan (typed : Bool) (lines : List (List Char)) (o : Outline) : Outline :=
  lines.zipIdx.foldl (fun o (line, idx) => step typed lines o line idx) o

end ReviewPrep.Outline.Script
