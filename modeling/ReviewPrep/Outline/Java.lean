import ReviewPrep.Outline.Basic
import ReviewPrep.Outline.Scan
import ReviewPrep.Pattern.Match

/-!
# Outlines of Java files

Lines are read one at a time: the package, imports, classes (also enums and records) with their
base and interfaces, interfaces, and methods. A method is listed on the innermost class or
interface around it; methods nested in methods are skipped, and abstract or native methods
(ending in `;`) are listed on their class but not as functions. A constructor is a method named
as its class. A declaration is exported when its line says `public`.
-/

namespace ReviewPrep.Outline.Java

open Pattern

/-- `package a.b;`. -/
def packageDecl : Pattern :=
  atStart ++ lit "package" ++ spaces1 ++ group 1 (many1 (oneOf [.word, .char '.'])) ++ spaces ++ lit ";"

/-- `import a.b.C;` or `import static …;`. -/
def importDecl : Pattern :=
  atStart ++ lit "import" ++ spaces1 ++ opt (lit "static" ++ spaces1) ++
    group 1 (many1 (oneOf [.word, .char '.', .char '*'])) ++ spaces ++ lit ";"

/-- Type modifiers, as group 1. -/
def modifiers : Pattern :=
  group 1 (many (keywords ["public", "protected", "private", "abstract", "final", "static",
    "sealed", "non-sealed", "strictfp"] ++ spaces1))

/-- A class, enum or record declaration. -/
def classDecl : Pattern :=
  atStart ++ spaces ++ modifiers ++ keywords ["class", "enum", "record"] ++ spaces1 ++ group 2 ident

/-- An interface or annotation type declaration. -/
def interfaceDecl : Pattern :=
  atStart ++ spaces ++ modifiers ++ opt (lit "@") ++ lit "interface" ++ spaces1 ++ group 2 ident

/-- `extends Base`, anywhere on the line. -/
def extendsClause : Pattern :=
  wordBoundary ++ lit "extends" ++ spaces1 ++ group 1 (many1 (oneOf [.word, .char '.']))

/-- `implements A, B`, anywhere on the line, up to a brace. -/
def implementsClause : Pattern :=
  wordBoundary ++ lit "implements" ++ spaces1 ++ group 1 (many1 (noneOfChars "\x7b"))

/-- Method modifiers. -/
def modifierWords : List String :=
  ["public", "private", "protected", "static", "final", "abstract", "synchronized", "native",
   "default"]

/-- A method header: modifiers, type parameters, return type, name and parameters. -/
def methodDecl : Pattern :=
  atStart ++ spaces ++ group 1 (many (keywords modifierWords ++ spaces1)) ++
    opt (lit "<" ++ many1 (noneOfChars ">") ++ lit ">" ++ spaces1) ++
    group 2 (many1 (oneOf [.word, .char '.']) ++ opt (lit "<" ++ many (noneOfChars ">") ++ lit ">") ++
      many (lit "[]")) ++
    spaces1 ++ group 3 ident ++ spaces ++ lit "(" ++ group 4 (many (noneOfChars ")")) ++ opt (lit ")")

/-- A constructor header: an access modifier, the name and parameters. -/
def constructorDecl : Pattern :=
  atStart ++ spaces ++ keywords ["public", "private", "protected"] ++ spaces1 ++ group 1 ident ++
    spaces ++ lit "(" ++ group 2 (many (noneOfChars ")")) ++ opt (lit ")")

/-- `public` as a word. -/
def publicWord : Pattern := wordBoundary ++ lit "public" ++ wordBoundary

/-- A declaration is exported when its line says `public`. -/
def isExported (line : List Char) : Bool := occurs publicWord line

/-- Parameters: annotations and `final` dropped; the last word is the name, the rest the type. -/
def parseParams (params : List Char) : List Param :=
  (splitTopLevel params).filterMap fun part =>
    match ((Text.words part).filter fun t => t != "final".toList && !startsWith t "@").reverse with
    | [] => none
    | [t] => some { type := String.ofList t }
    | n :: ts => some { name := String.ofList n, type := String.ofList (Text.joinWith [' '] ts.reverse) }

/-- What a recorded scope is. -/
inductive Owner where
  | classAt (i : Nat)
  | interfaceAt (i : Nat)
  | function

/-- The state of reading a Java file: the outline and the scopes recorded so far. -/
structure State where
  /-- The outline so far. -/
  outline : Outline
  /-- The classes, interfaces and functions recorded, with their ranges. -/
  scopes : List (Scope Owner)

/-- A method's name, return type and parameters, if line `idx` declares one. -/
def methodOf? (o : Outline) (owner : Option Owner) (line : List Char) :
    Option (String × Option String × String) :=
  let asMethod := (matchPrefix? methodDecl line).bind fun m =>
    if isControlKeyword (m.text 2) || modifierWords.contains (m.text 2) || isControlKeyword (m.text 3)
    then none else some (m.text 3, some (m.text 2), m.text 4)
  asMethod.orElse fun _ =>
    (matchPrefix? constructorDecl line).bind fun m =>
      match owner with
      | some (.classAt i) =>
        if m.text 1 == (o.classes.getD i default).name then some (m.text 1, none, m.text 2) else none
      | _ => none

/-- Reads a line that declares no type. -/
def methodStep (lines : List (List Char)) (s : State) (line : List Char) (idx : Nat) : State :=
  let o := s.outline
  let n := idx + 1
  let owner := (innermostScope s.scopes n).map (·.item)
  match methodOf? o owner line with
  | none => s
  | some (name, returns, params) =>
    let addMethod (o : Outline) : Outline := match owner with
      | some (.classAt i) => o.modifyClass i fun c => { c with methods := c.methods ++ [name] }
      | _ => o
    match owner with
    | some (.interfaceAt i) =>
      { s with outline := o.modifyInterface i fun c => { c with methods := c.methods ++ [name] } }
    | some .function => s
    | _ =>
      if Text.endsWith (Text.trimRight line) [';'] then { s with outline := addMethod o }
      else
        let receiver := match owner with
          | some (.classAt i) => (o.classes.getD i default).name
          | _ => ""
        let fn : FunctionDecl :=
          { name, startLine := n, endLine := blockEnd lines idx + 1, receiver,
            params := parseParams params.toList,
            returns := match returns with
              | some r => if r.isEmpty then [] else [r]
              | none => [],
            isExported := isExported line, doc := leadingComment lines idx }
        ⟨(addMethod o).addFunction fn, s.scopes ++ [⟨n, fn.endLine, .function⟩]⟩

/-- Reads line `idx`. -/
def step (lines : List (List Char)) (s : State) (line : List Char) (idx : Nat) : State :=
  let o := s.outline
  let n := idx + 1
  if let some m := matchPrefix? packageDecl line then
    { s with outline := { o with package := m.text 1 } }
  else if let some m := matchPrefix? importDecl line then
    { s with outline := o.addImport { path := m.text 1 } }
  else if let some m := matchPrefix? classDecl line then
    let c : ClassDecl :=
      { name := m.text 2, startLine := n, endLine := blockEnd lines idx + 1,
        isExported := isExported line,
        base := ((search? extendsClause line).map (·.text 1)).getD "",
        implements := ((search? implementsClause line).map fun m => splitTopLevelStr (m.text 1)).getD [] }
    ⟨o.addClass c, s.scopes ++ [⟨n, c.endLine, .classAt o.classes.length⟩]⟩
  else if let some m := matchPrefix? interfaceDecl line then
    let i : InterfaceDecl :=
      { name := m.text 2, startLine := n, endLine := blockEnd lines idx + 1,
        isExported := isExported line }
    ⟨o.addInterface i, s.scopes ++ [⟨n, i.endLine, .interfaceAt o.interfaces.length⟩]⟩
  else methodStep lines s line idx

/-- The outline of a Java file's lines. -/
def scan (lines : List (List Char)) (o : Outline) : Outline :=
  (lines.zipIdx.foldl (fun s (line, idx) => step lines s line idx) ⟨o, []⟩).outline

end ReviewPrep.Outline.Java
