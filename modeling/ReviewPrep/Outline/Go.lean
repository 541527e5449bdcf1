import ReviewPrep.Outline.Basic
import ReviewPrep.Outline.Scan
import ReviewPrep.Pattern.Match

/-!
# Outlines of Go files

Go files are read line by line with a small state machine: the package clause, single imports
and import blocks, `var` and `const` blocks, `type` blocks of structs and interfaces with their
fields and methods, functions with their receivers, and top-level variables. A method is listed
on the last struct of its receiver's name. A name is exported when it starts with an ASCII
capital letter.
-/

namespace ReviewPrep.Outline.Go

open Pattern

/-- A run of word characters, dots, stars and square brackets: a Go type. -/
def typeText : Pattern := many1 (oneOf [.word, .char '.', .char '*', .char '[', .char ']'])

/-- `package name`. -/
def packageClause : Pattern := atStart ++ lit "package" ++ spaces1 ++ group 1 ident

/-- An import spec: an optional `import`, an optional alias, a quoted path. -/
def importSpec : Pattern :=
  atStart ++ spaces ++ opt (lit "import" ++ spaces1) ++
    opt (group 1 (many1 (oneOf [.word, .char '.'])) ++ spaces1) ++
    lit "\"" ++ group 2 (many1 (noneOfChars "\"")) ++ lit "\""

/-- `import (`. -/
def importBlockStart : Pattern := atStart ++ lit "import" ++ spaces ++ lit "("

/-- A function or method header: receiver type, name, parameters and results. -/
def funcHeader : Pattern :=
  atStart ++ lit "func" ++ spaces1 ++
    opt (lit "(" ++ spaces ++ opt (ident ++ spaces1) ++ opt (lit "*") ++ group 1 ident ++
      many (noneOfChars ")") ++ lit ")" ++ spaces) ++
    group 2 ident ++ spaces ++ opt (lit "[" ++ many (noneOfChars "]") ++ lit "]") ++
    lit "(" ++ group 3 (many (noneOfChars ")")) ++ lit ")" ++ spaces ++
    opt ((lit "(" ++ group 4 (many (noneOfChars ")")) ++ lit ")") <|> group 5 typeText)

/-- `type Name struct` or `type Name interface`. -/
def typeHeader : Pattern :=
  atStart ++ lit "type" ++ spaces1 ++ group 1 ident ++
    opt (lit "[" ++ many (noneOfChars "]") ++ lit "]") ++ spaces1 ++
    group 2 (keywords ["struct", "interface"]) ++ wordBoundary

/-- A single `var` or `const` declaration. -/
def varDecl : Pattern :=
  atStart ++ group 1 (keywords ["var", "const"]) ++ spaces1 ++ group 2 ident ++
    opt (spaces1 ++ group 3 typeText) ++ opt (spaces ++ lit "=" ++ spaces ++ group 4 (many1 dot))

/-- `var (` or `const (`. -/
def varBlockStart : Pattern := atStart ++ group 1 (keywords ["var", "const"]) ++ spaces ++ lit "("

/-- An entry of a `var` or `const` block. -/
def varBlockEntry : Pattern :=
  atStart ++ spaces1 ++ group 1 ident ++ opt (spaces1 ++ group 2 typeText) ++
    opt (spaces ++ lit "=" ++ spaces ++ group 3 (many1 dot))

/-- A struct field line: names, type and an optional tag in backquotes. -/
def structField : Pattern :=
  atStart ++ spaces1 ++ group 1 (ident ++ many (spaces ++ lit "," ++ spaces ++ ident)) ++ spaces1 ++
    group 2 (many1 (noneOf [.space, .char '\x60', .char '/'])) ++ spaces ++
    opt (group 3 (lit "\x60" ++ many (noneOfChars "\x60") ++ lit "\x60"))

/-- An embedded type in a struct. -/
def embeddedField : Pattern :=
  atStart ++ spaces1 ++ opt (lit "*") ++ many1 (oneOf [.word, .char '.']) ++ spaces ++ atEnd

/-- An interface method line. -/
def interfaceMethod : Pattern := atStart ++ spaces1 ++ group 1 ident ++ spaces ++ lit "("

/-- Exported names start with an ASCII capital letter. -/
def isExported (name : String) : Bool :=
  match name.toList with
  | c :: _ => 'A' ≤ c && c ≤ 'Z'
  | [] => false

/-- Parameters: each comma-separated part is a name and a type, or a type alone. -/
def parseParams (params : List Char) : List Param :=
  (Text.splitOnText [','] params).filterMap fun part =>
    match Text.words part with
    | [] => none
    | [t] => some { type := String.ofList t }
    | n :: ts => some { name := String.ofList n, type := String.ofList (Text.joinWith [' '] ts) }

/-- Results: the type of each comma-separated part, named or not. -/
def parseReturns (returns : List Char) : List String :=
  (Text.splitOnText [','] returns).filterMap fun part =>
    (Text.words part).getLast?.map String.ofList

/-- The function declared on line `idx`. -/
def function (lines : List (List Char)) (idx : Nat) (m : Match) : FunctionDecl :=
  let name := m.text 2
  let params := m.text 3
  let parenReturns := m.text 4
  let bareReturn := m.text 5
  { name, startLine := idx + 1, endLine := blockEnd lines idx + 1, receiver := m.text 1,
    params := if params.isEmpty then [] else parseParams params.toList,
    returns := if !parenReturns.isEmpty then parseReturns parenReturns.toList
      else if !bareReturn.isEmpty then [bareReturn] else [],
    isExported := isExported name, doc := leadingComment lines idx ["//"] }

/-- A variable or constant from its kind and its name, type and value. -/
def addVariable (o : Outline) (kind : String) (name type value : String) (line : Nat) : Outline :=
  let v : VariableDecl := { name, line, type, value := String.ofList (Text.trim value.toList),
                            isExported := isExported name }
  if kind == "const" then o.addConstant v else o.addVariable v

/-- An open `type` block: its name, kind, first line, members and brace balance. -/
structure TypeBlock where
  /-- The type's name. -/
  name : String
  /-- `struct` or `interface`. -/
  kind : String
  /-- The first line. -/
  start : Nat
  /-- The struct fields so far. -/
  fields : List FieldDecl
  /-- The interface methods so far. -/
  methods : List String
  /-- Opening minus closing braces so far. -/
  depth : Int

/-- The members of a type block after one more body line. -/
def TypeBlock.collect (t : TypeBlock) (line : List Char) : TypeBlock :=
  let s := Text.trim line
  if s.isEmpty || startsWith s "//" then t
  else if t.kind == "interface" then
    match matchPrefix? interfaceMethod line with
    | some m => { t with methods := t.methods ++ [m.text 1] }
    | none => t
  else
    match matchPrefix? structField line with
    | some m =>
      let tags := String.ofList (Text.dropBothOf ['\x60'] (m.text 3).toList)
      let names := Text.splitOnText [','] (m.text 1).toList
      { t with fields := t.fields ++ names.map fun n =>
          { name := String.ofList (Text.trim n), type := m.text 2, tags } }
    | none =>
      if startsText embeddedField line then
        let embedded := Text.dropLeftOf ['*'] s
        let last := ((Text.splitOnText ['.'] embedded).getLast?).getD []
        { t with fields := t.fields ++ [{ name := String.ofList last, type := String.ofList s }] }
      else t

/-- The declaration a closed type block adds, ending on line `stop`. -/
def TypeBlock.close (t : TypeBlock) (o : Outline) (stop : Nat) : Outline :=
  if t.kind == "interface" then
    o.addInterface { name := t.name, startLine := t.start, endLine := stop, methods := t.methods,
                     isExported := isExported t.name }
  else
    o.addClass { name := t.name, startLine := t.start, endLine := stop, fields := t.fields,
                 isExported := isExported t.name }

/-- The state of reading a Go file. -/
structure State where
  /-- The outline so far. -/
  outline : Outline
  /-- Whether an import block is open. -/
  inImports : Bool := false
  /-- The kind of the open `var` or `const` block, or empty. -/
  varBlock : String := ""
  /-- The open `type` block. -/
  typeBlock : Option TypeBlock := none

/-- Reads line `idx`. -/
def step (lines : List (List Char)) (s : State) (line : List Char) (idx : Nat) : State :=
  let o := s.outline
  let n := idx + 1
  let trimmed := Text.trim line
  let addImport (o : Outline) : Outline :=
    match matchPrefix? importSpec line with
    | some m => o.addImport { path := m.text 2, localName := m.text 1 }
    | none => o
  if let some m := matchPrefix? packageClause line then
    { s with outline := { o with package := m.text 1 } }
  else if startsText importBlockStart line then { s with inImports := true }
  else if s.inImports then
    if trimmed == [')'] then { s with inImports := false } else { s with outline := addImport o }
  else if startsWith trimmed "import " && !line.contains '(' then { s with outline := addImport o }
  else if let some m := matchPrefix? varBlockStart line then { s with varBlock := m.text 1 }
  else if !s.varBlock.isEmpty then
    if trimmed == [')'] then { s with varBlock := "" }
    else match matchPrefix? varBlockEntry line with
      | some m => { s with outline := addVariable o s.varBlock (m.text 1) (m.text 2) (m.text 3) n }
      | none => s
  else if let some m := matchPrefix? typeHeader line then
    let t : TypeBlock := ⟨m.text 1, m.text 2, n, [], [], braceBalance line⟩
    if t.depth ≤ 0 && line.contains '\x7b' then { s with outline := t.close o n, typeBlock := none }
    else { s with typeBlock := some t }
  else if let some t := s.typeBlock then
    let t := { t with depth := t.depth + braceBalance line }
    if t.depth ≤ 0 then { s with outline := t.close o n, typeBlock := none }
    else if t.depth == 1 then { s with typeBlock := some (t.collect line) }
    else { s with typeBlock := some t }
  else if let some m := matchPrefix? funcHeader line then
    { s with outline := o.addFunction (function lines idx m) }
  else if let some m := matchPrefix? varDecl line then
    { s with outline := addVariable o (m.text 1) (m.text 2) (m.text 3) (m.text 4) n }
  else s

/-- Lists each method on the last struct named as its receiver. -/
def bindMethods (o : Outline) : Outline :=
  let names := o.classes.map (·.name)
  { o with classes := o.classes.zipIdx.map fun (c, i) =>
      -- only the last class of a name receives methods
      if (names.drop (i + 1)).contains c.name then c
      else { c with methods := c.methods ++
        (o.functions.filter (·.receiver == c.name)).map (·.name) } }

/-- The outline of a Go file's lines. -/
def scan (lines : List (List Char)) (o : Outline) : Outline :=
  let s := lines.zipIdx.foldl (fun s (line, idx) => step lines s line idx) { outline := o }
  bindMethods s.outline

end ReviewPrep.Outline.Go
