import ReviewPrep.Outline.Go
import ReviewPrep.Outline.Script
import ReviewPrep.Outline.Python
import ReviewPrep.Outline.Java
import ReviewPrep.Outline.Rust
import ReviewPrep.Outline.CFamily
import ReviewPrep.Diff.Scan
import ReviewPrep.Text.Utf8

/-!
# Reading source files into outlines

A language tag, trimmed and lower-cased, selects a grammar through a table of tags and aliases;
any other tag selects the generic grammar. An empty tag is replaced by the language of the
file's extension. Source text is cut into lines at line feeds, trailing carriage returns
removed, and handed to the grammar. Bytes are read as strict UTF-8.
-/

namespace ReviewPrep

/-- The scanners of source files. -/
inductive Grammar where
  | go | javascript | typescript | python | java | rust | c | generic
  deriving DecidableEq, Repr, Inhabited

namespace Grammar

/-- The name of a grammar. -/
def tag : Grammar → String
  | go => "go"
  | javascript => "javascript"
  | typescript => "typescript"
  | python => "python"
  | java => "java"
  | rust => "rust"
  | c => "c"
  | generic => "generic"

/-- The tags that select a grammar, aliases included. -/
def registry : List (String × Grammar) :=
  [("go", go), ("golang", go), ("javascript", javascript), ("js", javascript),
   ("jsx", javascript), ("mjs", javascript), ("cjs", javascript), ("typescript", typescript),
   ("ts", typescript), ("tsx", typescript), ("python", python), ("py", python),
   ("python3", python), ("java", java), ("rust", rust), ("rs", rust), ("c", c), ("cpp", c),
   ("c++", c), ("cc", c), ("h", c), ("hpp", c), ("objc", c), ("generic", generic)]

/-- The registered tags, in code point order. -/
def registeredTags : List String :=
  (registry.map (·.1)).mergeSort fun a b => !(b < a)

/-- A language tag in the form the table uses: trimmed and lower-cased. -/
def normalizeTag (language : String) : String :=
  String.ofList (Text.toLowerChars (Text.trim language.toList))

/-- The grammar of a language tag, the generic one for a tag outside the table. -/
def ofTag (language : String) : Grammar :=
  match registry.find? (·.1 == normalizeTag language) with
  | some (_, g) => g
  | none => generic

/-- Whether a declaration named `name` on line `line` is visible outside its module. -/
def isExported (g : Grammar) (name line : String) : Bool :=
  match g with
  | go => Outline.Go.isExported name
  | javascript | typescript => Outline.Script.isExported line.toList
  | python => Outline.Python.isExported name
  | java => Outline.Java.isExported line.toList
  | rust => Outline.Rust.isExported line.toList
  | c => Outline.CFamily.isExported line.toList
  | generic => false

/-- The outline of lines, starting from an outline with the language and path set; `none` when
a Python file's path names no file, so that no module path exists. -/
def scan (g : Grammar) (lines : List (List Char)) (o : Outline) : Option Outline :=
  match g with
  | go => some (Outline.Go.scan lines o)
  | javascript => some (Outline.Script.scan false lines o)
  | typescript => some (Outline.Script.scan true lines o)
  | python =>
    (Outline.Python.moduleName? o.filePath).map fun m => Outline.Python.scan lines { o with module := m }
  | java => some (Outline.Java.scan lines o)
  | rust => some (Outline.Rust.scan lines o)
  | c => some (Outline.CFamily.scan lines o)
  | generic => some (Outline.Generic.scan lines o)

end Grammar

/-- Why a source file gives no outline. -/
inductive SourceError where
  /-- The source is neither text nor bytes. -/
  | notText (path kind : String)
  /-- The bytes are not UTF-8. -/
  | invalidUtf8 (path : String) (e : Text.Utf8Error)
  /-- The path names no file, so a module path cannot be formed. -/
  | noFileName (path : String)
  deriving DecidableEq, Repr

/-- How a path is named in messages: as given, or `<source>` when empty. -/
def sourceName (path : String) : String := if path.isEmpty then "<source>" else path

/-- The text of a source error. -/
def SourceError.message : SourceError → String
  | .notText path kind => "source for " ++ sourceName path ++ " must be str or bytes, got " ++ kind
  | .invalidUtf8 path e => sourceName path ++ " is not valid UTF-8: " ++ e.message
  | .noFileName path => sourceName path ++ " has an empty name"

/-- The language a file is read as: the tag given, trimmed and lower-cased, or else the language
of its extension. -/
def sourceLanguage (language filePath : String) : String :=
  let tag := Grammar.normalizeTag language
  if tag.isEmpty then (detectLanguage filePath).tag else tag

/-- Reads a source file: the grammar chosen and the outline. -/
def Outline.read (language : String) (code : Payload) (filePath : String) :
    Except SourceError (Grammar × Outline) := do
  let text ← match code.strictText with
    | .ok t => pure t
    | .error (.notText k) => throw (.notText filePath k)
    | .error (.invalidUtf8 e) => throw (.invalidUtf8 filePath e)
  let lang := sourceLanguage language filePath
  let g := Grammar.ofTag lang
  match g.scan (Diff.textLines text) { language := lang, filePath } with
  | some o => return (g, o)
  | none => throw (.noFileName filePath)

/-! ## Declarations a diff touches

A diff marks each of its hunks by the first line of the hunk on the new side. A function or class
of a file is touched when its line range holds one of the marks.
-/

/-- An outline narrowed to what a diff touched. -/
structure ChangeView where
  /-- The whole outline. -/
  outline : Outline
  /-- The functions whose range holds a mark. -/
  changedFunctions : List FunctionDecl
  /-- The classes whose range holds a mark. -/
  changedClasses : List ClassDecl
  /-- The marks: the new start of every hunk. -/
  changedLines : List Nat
  deriving Inhabited

/-- Whether a range holds one of the marks. -/
def touches (marks : List Nat) (start stop : Nat) : Bool := marks.any fun l => start ≤ l && l ≤ stop

/-- The view of an outline through marks. -/
def Outline.viewAt (o : Outline) (marks : List Nat) : ChangeView :=
  ⟨o, o.functions.filter (fun f => touches marks f.startLine f.endLine),
   o.classes.filter (fun c => touches marks c.startLine c.endLine), marks⟩

/-- The view of an outline through the marks of a diff; fails when a mark is too long to read. -/
def Outline.changes (o : Outline) (diff : String) : Except Diff.DiffError ChangeView :=
  (Diff.changedLines diff).map o.viewAt

/-- One line naming what changed: `Modified functions: …; Modified classes: …`. -/
def ChangeView.summary (v : ChangeView) : String :=
  let parts :=
    (if v.changedFunctions.isEmpty then []
     else ["Modified functions: " ++ ", ".intercalate (v.changedFunctions.map (·.name))]) ++
    (if v.changedClasses.isEmpty then []
     else ["Modified classes: " ++ ", ".intercalate (v.changedClasses.map (·.name))])
  "; ".intercalate parts

end ReviewPrep
