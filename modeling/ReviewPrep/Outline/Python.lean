import ReviewPrep.Outline.Basic
import ReviewPrep.Outline.Scan
import ReviewPrep.Pattern.Match
import ReviewPrep.Text.Case.Upper

/-!
# Outlines of Python files

Python declarations are delimited by indentation. A `def` or `class` line opens a block that ends
before the next line indented no deeper; its signature may run over several lines until its
brackets balance. Functions nested in functions are not listed; functions inside a class are its
methods, their `self` or `cls` parameter dropped. Top-level assignments are variables, or
constants when their name is upper case. A name is exported unless it starts with `_`.

The module path comes from the file path: directories and the file name without its extension,
joined by dots, with `__init__` left out.
-/

namespace ReviewPrep.Outline.Python

open Pattern

/-- `import a, b` or `from m import …`. -/
def importStmt : Pattern :=
  atStart ++ opt (lit "from" ++ spaces1 ++ group 1 (many1 nonSpace) ++ spaces1) ++ lit "import" ++
    spaces1 ++ group 2 (many1 dot)

/-- A `def` line. -/
def defLine : Pattern :=
  atStart ++ group 1 spaces ++ opt (lit "async" ++ spaces1) ++ lit "def" ++ spaces1 ++ group 2 ident ++
    spaces ++ lit "("

/-- A `class` line. -/
def classLine : Pattern := atStart ++ group 1 spaces ++ lit "class" ++ spaces1 ++ group 2 ident

/-- The parameters and return annotation of a joined `def` signature. -/
def signature : Pattern :=
  lit "def" ++ spaces1 ++ ident ++ spaces ++ lit "(" ++ group 1 (many dot) ++ lit ")" ++ spaces ++
    opt (lit "->" ++ spaces ++ group 2 (lazyMany1 dot)) ++ spaces ++ lit ":" ++ spaces ++
    opt (lit "#" ++ many dot) ++ atEnd

/-- The bases of a joined `class` signature. -/
def classBases : Pattern :=
  lit "class" ++ spaces1 ++ ident ++ spaces ++ opt (lit "[" ++ many (noneOfChars "]") ++ lit "]") ++
    spaces ++ lit "(" ++ group 1 (many dot) ++ lit ")" ++ spaces ++ lit ":"

/-- A top-level assignment, perhaps annotated; `==` is no assignment. -/
def assignment : Pattern :=
  atStart ++ group 1 (oneOf [.range 'A' 'Z', .range 'a' 'z', .char '_'] ++ many word) ++ spaces ++
    opt (lit ":" ++ spaces ++ group 2 (lazyMany1 (noneOfChars "="))) ++ spaces ++ lit "=" ++
    notAhead (lit "=") ++ spaces ++ group 3 (many1 dot)

/-- A name is exported unless it starts with an underscore. -/
def isExported (name : String) : Bool := !startsWith name.toList "_"

/-- The most lines a signature may span. -/
def maxSignatureLines : Nat := 30

/-- Open brackets minus closed brackets in a text. -/
def bracketBalance (t : List Char) : Int :=
  (t.countP ("([\x7b".toList.contains ·) : Int) - (t.countP (")]\x7d".toList.contains ·) : Int)

/-- The last line of the signature that starts on line `idx`, and the signature's lines joined:
lines are added until the brackets balance, at most `maxSignatureLines` of them; if they never
do, the signature is line `idx` alone. -/
def signatureOf (lines : List (List Char)) (idx : Nat) : Nat × List Char :=
  let window := (lines.drop idx).take maxSignatureLines
  go window idx 0 []
where
  /-- Adds line `i`, with the balance and the trimmed lines so far, reversed. -/
  go : List (List Char) → Nat → Int → List (List Char) → Nat × List Char
    | [], _, _, _ => (idx, Text.trim (lines.getD idx []))
    | l :: rest, i, depth, parts =>
      let t := Text.trim l
      let depth := depth + bracketBalance t
      if depth ≤ 0 then (i, Text.joinWith [' '] (t :: parts).reverse) else go rest (i + 1) depth (t :: parts)

/-- Parameters: `*` and `/` skipped, defaults dropped, `name: type` or a bare name. -/
def parseParams (params : List Char) : List Param :=
  (splitTopLevel params).filterMap fun part =>
    if part == ['*'] || part == ['/'] then none
    else
      let part := Text.trim ((Text.splitOnText ['='] part).headD [])
      match Text.breakOn? [':'] part with
      | some (n, t) => some { name := String.ofList (Text.trim n), type := String.ofList (Text.trim t) }
      | none => some { name := String.ofList part }

/-- The summary of a docstring that opens a line. -/
def docstringAt (lines : List (List Char)) (i : Nat) (stripped : List Char) : String :=
  let q? := ["\"\"\"", "'''"].find? (startsWith stripped)
  match q? with
  | none => ""
  | some q =>
    let text := stripped.drop 3
    let text := match Text.breakOn? q.toList text with
      | some (before, _) => before
      | none => text
    if !(Text.trim text).isEmpty then String.ofList (Text.trim text)
    else match lines[i + 1]? with
      | some next => String.ofList (Text.trim (Text.dropRightOf q.toList (Text.trim next)))
      | none => ""

/-- The docstring of a block whose signature ends on line `sigEnd` and whose body ends on line
`stop`: decided by the first non-blank line of the body. -/
def docstring (lines : List (List Char)) (sigEnd stop : Nat) : String :=
  let last := min stop (lines.length - 1)
  go ((lines.drop (sigEnd + 1)).take (last + 1 - (sigEnd + 1))) (sigEnd + 1)
where
  /-- Looks for the first non-blank line among `body`, the first of which is line `i`. -/
  go : List (List Char) → Nat → String
    | [], _ => ""
    | l :: rest, i =>
      let t := Text.trim l
      if t.isEmpty then go rest (i + 1) else docstringAt lines i t

/-- The function declared on line `idx`. -/
def function (lines : List (List Char)) (idx : Nat) (name : String) (sig : List Char)
    (sigEnd stop : Nat) : FunctionDecl :=
  let base : FunctionDecl :=
    { name, startLine := idx + 1, endLine := stop + 1, isExported := isExported name,
      doc := docstring lines sigEnd stop }
  match search? signature sig with
  | some m =>
    { base with params := parseParams (m.text 1).toList,
                returns := match m.str? 2 with
                  | some r => if r.isEmpty then [] else [String.ofList (Text.trim r.toList)]
                  | none => [] }
  | none => base

/-- The class declared on line `idx`. -/
def classDecl (name : String) (sig : List Char) (idx stop : Nat) : ClassDecl :=
  let base : ClassDecl := { name, startLine := idx + 1, endLine := stop + 1, isExported := isExported name }
  match search? classBases sig with
  | some m =>
    match (splitTopLevel (m.text 1).toList).filter (!·.contains '=') with
    | b :: bs => { base with base := String.ofList b, implements := bs.map String.ofList }
    | [] => base
  | none => base

/-- The imports of an import statement. -/
def imports (fromPath? : Option String) (names : String) : List Import :=
  match fromPath? with
  | some p => if p.isEmpty then namesImports else [{ path := p }]
  | none => namesImports
where
  /-- `a as b, c`, up to a `#` comment. -/
  namesImports : List Import :=
    (splitTopLevel ((Text.splitOnText ['#'] names.toList).headD [])).map fun item =>
      match Text.breakOn? " as ".toList item with
      | some (p, a) => { path := String.ofList (Text.trim p), localName := String.ofList (Text.trim a) }
      | none => { path := String.ofList (Text.trim item) }

/-- The variable or constant a top-level line assigns, if any. -/
def assignmentOf? (line : List Char) (n : Nat) : Option (Bool × VariableDecl) :=
  (matchPrefix? assignment line).map fun m =>
    let name := m.text 1
    (Text.isUpperText name.toList,
     { name, line := n, type := String.ofList (Text.trim (m.text 2).toList),
       value := String.ofList (Text.trim (m.text 3).toList), isExported := isExported name })

/-- What a recorded block is: a function, or the class at a position of the outline. -/
inductive Block where
  | function
  | classAt (i : Nat)

/-- The state of reading a Python file: the outline and the blocks recorded so far. -/
structure State where
  /-- The outline so far. -/
  outline : Outline
  /-- The functions and classes recorded, with their ranges. -/
  scopes : List (Scope Block)

/-- Reads line `idx`. -/
def step (lines : List (List Char)) (s : State) (line : List Char) (idx : Nat) : State :=
  let o := s.outline
  let n := idx + 1
  if let some m := matchPrefix? importStmt line then
    { s with outline := { o with imports := o.imports ++ imports (m.str? 1) (m.text 2) } }
  else
    let defM := matchPrefix? defLine line
    let classM := if defM.isSome then none else matchPrefix? classLine line
    if defM.isNone && classM.isNone then
      if (line.head?.map Text.isBlank).getD false then s
      else match assignmentOf? line n with
        | some (true, v) => { s with outline := o.addConstant v }
        | some (false, v) => { s with outline := o.addVariable v }
        | none => s
    else
      let scope := innermostScope s.scopes n
      match scope.map (·.item) with
      | some Block.function => s
      | owner =>
        let (sigEnd, sig) := signatureOf lines idx
        let stop := findIndentBlockEnd lines idx (some sigEnd)
        match defM with
        | some m =>
          let fn := function lines idx (m.text 2) sig sigEnd stop
          let (fn, o) := match owner with
            | some (.classAt i) =>
              let params := match fn.params with
                | p :: ps => if p.name == "self" || p.name == "cls" then ps else p :: ps
                | [] => []
              let owner := (o.classes.getD i default).name
              ({ fn with receiver := owner, params },
               o.modifyClass i fun c => { c with methods := c.methods ++ [fn.name] })
            | _ => (fn, o)
          ⟨o.addFunction fn, s.scopes ++ [⟨n, stop + 1, .function⟩]⟩
        | none =>
          let name := (classM.map (·.text 2)).getD ""
          ⟨o.addClass (classDecl name sig idx stop),
           s.scopes ++ [⟨n, stop + 1, .classAt o.classes.length⟩]⟩

/-- The parts of a path as a POSIX path reads them: an optional root (`//` when the path starts
with exactly two slashes, `/` otherwise) and the names between slashes, without empty names and
`.`. -/
def pathParts (path : List Char) : Option (List Char) × List (List Char) :=
  let lead := (path.takeWhile (· == '/')).length
  let root := if lead == 0 then none else if lead == 2 then some ['/', '/'] else some ['/']
  (root, (Text.splitOnText ['/'] path).filter fun p => !p.isEmpty && p != ['.'])

/-- A file name without its extension: the text from its last dot on, when that dot is neither
the first nor the last character. -/
def dropSuffix (name : List Char) : List Char :=
  match Text.breakOnLast? ['.'] name with
  | some (stem, ext) => if !stem.isEmpty && !ext.isEmpty then stem else name
  | none => name

/-- The module path of a file, `none` when the path names no file (such as `.` or `/`). Both `/`
and `\` separate directories. -/
def moduleName? (filePath : String) : Option String :=
  if filePath.isEmpty then some ""
  else
    let path := filePath.toList.map fun c => if c == '\\' then '/' else c
    let (root, names) := pathParts path
    match names.reverse with
    | [] => none
    | last :: dirs =>
      let parts := (root.toList ++ (dirs.reverse ++ [dropSuffix last])).filter fun p =>
        p != ['/'] && p != ['.'] && p != ['.', '.']
      let parts := if parts.getLast? == some "__init__".toList then parts.dropLast else parts
      some (String.ofList (Text.joinWith ['.'] parts))

/-- The outline of a Python file's lines. -/
def scan (lines : List (List Char)) (o : Outline) : Outline :=
  (lines.zipIdx.foldl (fun s (line, idx) => step lines s line idx) ⟨o, []⟩).outline

end ReviewPrep.Outline.Python
