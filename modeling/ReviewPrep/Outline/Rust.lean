import ReviewPrep.Outline.Basic
import ReviewPrep.Outline.Scan
import ReviewPrep.Pattern.Match

/-!
# Outlines of Rust files

Lines are read one at a time: `use` declarations, functions, structs, enums and unions with the
fields of their bodies, `impl` blocks (listed as classes named `Type (impl)`) and traits (listed
as interfaces). A function inside a trait is one of its methods; inside an `impl` block it is a
method of the type; inside a function or a struct it is skipped. A declaration ending in `;`, or
a tuple struct, ends on its own line. A declaration is exported when its line starts with `pub`.
-/

namespace ReviewPrep.Outline.Rust

open Pattern

/-- A visibility, as group 1. -/
def visibility : Pattern := opt (group 1 (lit "pub" ++ opt (lit "(" ++ many (noneOfChars ")") ++ lit ")") ++ spaces1))

/-- `use path as alias;`. -/
def useDecl : Pattern :=
  atStart ++ spaces ++ visibility ++ lit "use" ++ spaces1 ++ group 2 (lazyMany1 (noneOfChars ";")) ++
    opt (spaces1 ++ lit "as" ++ spaces1 ++ group 3 ident) ++ spaces ++ lit ";"

/-- A function header: qualifiers, name and parameters. -/
def fnDecl : Pattern :=
  atStart ++ spaces ++ visibility ++ opt (lit "default" ++ spaces1) ++ opt (lit "const" ++ spaces1) ++
    opt (lit "async" ++ spaces1) ++ opt (lit "unsafe" ++ spaces1) ++
    opt (lit "extern" ++ spaces1 ++ lit "\"" ++ many (noneOfChars "\"") ++ lit "\"" ++ spaces1) ++
    lit "fn" ++ spaces1 ++ group 2 ident ++ spaces ++ opt (lit "<" ++ many (noneOfChars ">") ++ lit ">") ++
    lit "(" ++ group 3 (many (noneOfChars ")")) ++ opt (lit ")")

/-- The return type after `->`, up to `where`, a brace, a `;` or the end. -/
def returnType : Pattern :=
  lit "->" ++ spaces ++ group 1 (lazyMany1 (noneOfChars "\x7b;")) ++ spaces ++
    choice [lit "where" ++ wordBoundary, lit "\x7b", lit ";", atEnd]

/-- A struct, enum or union declaration. -/
def structDecl : Pattern :=
  atStart ++ spaces ++ visibility ++ keywords ["struct", "enum", "union"] ++ spaces1 ++ group 2 ident

/-- An `impl` block: the trait, if any, and the type. -/
def implDecl : Pattern :=
  atStart ++ spaces ++ opt (lit "unsafe" ++ spaces1) ++ lit "impl" ++
    opt (lit "<" ++ many (noneOfChars ">") ++ lit ">") ++ spaces1 ++
    opt (group 1 (many1 (oneOf [.word, .char ':'])) ++ opt (lit "<" ++ many (noneOfChars ">") ++ lit ">") ++
      spaces1 ++ lit "for" ++ spaces1) ++
    group 2 (many1 (oneOf [.word, .char ':']))

/-- A trait declaration. -/
def traitDecl : Pattern :=
  atStart ++ spaces ++ visibility ++ opt (lit "unsafe" ++ spaces1) ++ lit "trait" ++ spaces1 ++ group 2 ident

/-- A field line of a struct body. -/
def fieldDecl : Pattern :=
  atStart ++ spaces ++ opt (lit "pub" ++ opt (lit "(" ++ many (noneOfChars ")") ++ lit ")") ++ spaces1) ++
    group 1 ident ++ spaces ++ lit ":" ++ spaces ++ group 2 (lazyMany1 (noneOfChars ",")) ++
    opt (lit ",") ++ spaces ++ opt (lit "//" ++ many dot) ++ atEnd

/-- A declaration is exported when its line starts with `pub`. -/
def isExported (line : List Char) : Bool := startsWith (Text.trimLeft line) "pub"

/-- Parameters: `name: type` with `mut ` removed from the name, or a receiver such as `&self`. -/
def parseParams (params : List Char) : List Param :=
  (splitTopLevel params).map fun part =>
    match Text.breakOn? [':'] part with
    | some (n, t) =>
      { name := String.ofList (Text.trim (Text.replaceAll "mut ".toList [] n)),
        type := String.ofList (Text.trim t) }
    | none => { name := String.ofList part }

/-- What a recorded scope is. -/
inductive Owner where
  | function
  | struct (i : Nat)
  | impl (i : Nat)
  | trait (i : Nat)

/-- The state of reading a Rust file: the outline and the scopes recorded so far. -/
structure State where
  /-- The outline so far. -/
  outline : Outline
  /-- The items recorded, with their ranges. -/
  scopes : List (Scope Owner)

/-- The name of an `impl` block's type with the block's mark removed. -/
def implTarget (name : String) : String :=
  let cs := name.toList
  let mark := " (impl)".toList
  if Text.endsWith cs mark then String.ofList (cs.take (cs.length - mark.length)) else name

/-- Reads line `idx`. -/
def step (lines : List (List Char)) (s : State) (line : List Char) (idx : Nat) : State :=
  let o := s.outline
  let n := idx + 1
  let endsWithSemicolon := Text.endsWith (Text.trimRight line) [';']
  if let some m := matchPrefix? useDecl line then
    { s with outline := o.addImport { path := String.ofList (Text.trim (m.text 2).toList),
                                      localName := m.text 3 } }
  else
    let owner : Option Owner := (innermostScope s.scopes n).map (·.item)
    if let some m := matchPrefix? fnDecl line then
      let name := m.text 2
      match owner with
      | some (.trait i) =>
        { s with outline := o.modifyInterface i fun t => { t with methods := t.methods ++ [name] } }
      | some .function => s
      | some (.struct _) => s
      | _ =>
        let stop := if endsWithSemicolon then n else blockEnd lines idx + 1
        let fn : FunctionDecl :=
          { name, startLine := n, endLine := stop, params := parseParams (m.text 3).toList,
            isExported := isExported line, doc := leadingComment lines idx ["///", "//!", "//"],
            returns := ((search? returnType line).map fun r => [r.text 1]).getD [] }
        let (fn, o) := match owner with
          | some (.impl i) =>
            ({ fn with receiver := implTarget (o.classes.getD i default).name },
             o.modifyClass i fun c => { c with methods := c.methods ++ [name] })
          | _ => (fn, o)
        ⟨o.addFunction fn, s.scopes ++ [⟨n, stop, .function⟩]⟩
    else if let some (.struct i) := owner then
      match matchPrefix? fieldDecl line with
      | some m =>
        { s with outline := o.modifyClass i fun c =>
            { c with fields := c.fields ++ [{ name := m.text 1,
                                              type := String.ofList (Text.trim (m.text 2).toList) }] } }
      | none => s
    else if let some m := matchPrefix? structDecl line then
      let balanced := endsWithSemicolon || (!line.contains '\x7b' && line.contains '(')
      let c : ClassDecl := { name := m.text 2, startLine := n,
                             endLine := if balanced then n else blockEnd lines idx + 1,
                             isExported := isExported line }
      ⟨o.addClass c, s.scopes ++ [⟨n, c.endLine, .struct o.classes.length⟩]⟩
    else if let some m := matchPrefix? implDecl line then
      let target := ((Text.splitOnText [':', ':'] (m.text 2).toList).getLast?).getD []
      let c : ClassDecl := { name := String.ofList target ++ " (impl)", startLine := n,
                             endLine := blockEnd lines idx + 1, isExported := true,
                             implements := match m.str? 1 with
                               | some t => if t.isEmpty then [] else [t]
                               | none => [] }
      ⟨o.addClass c, s.scopes ++ [⟨n, c.endLine, .impl o.classes.length⟩]⟩
    else if let some m := matchPrefix? traitDecl line then
      let t : InterfaceDecl := { name := m.text 2, startLine := n, endLine := blockEnd lines idx + 1,
                                 isExported := isExported line }
      ⟨o.addInterface t, s.scopes ++ [⟨n, t.endLine, .trait o.interfaces.length⟩]⟩
    else s

/-- The outline of a Rust file's lines. -/
def scan (lines : List (List Char)) (o : Outline) : Outline :=
  (lines.zipIdx.foldl (fun s (line, idx) => step lines s line idx) ⟨o, []⟩).outline

end ReviewPrep.Outline.Rust
