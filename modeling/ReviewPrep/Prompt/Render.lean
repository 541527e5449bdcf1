import ReviewPrep.Outline.Grammar
import ReviewPrep.Quantity

/-!
# Prompt context

An outline is written as prompt text: the file, its language and package, up to ten imports,
then either every function, class and interface, or, through the view of a diff, the changed
functions and classes. Each declaration takes one line with its visibility, signature and line
range; classes add a count of fields and their methods. Text longer than the limit is cut at the
limit, counted in characters, and marked as truncated; a limit that is not a whole number names
no place to cut, so text longer than it has no prompt context.
-/

namespace ReviewPrep.Prompt

/-- The most imports listed by name. -/
def maxListedImports : Nat := 10

/-- The limit of a prompt context when none is given. -/
def defaultMaxLength : Int := 2000

/-- The mark that ends a cut text. -/
def truncationMark : String := "\n... (truncated)"

/-- `public` or `private`. -/
def visibility (exported : Bool) : String := if exported then "public" else "private"

/-- `- (visibility) Receiver.name(params) -> returns [lines a-b]`. -/
def formatFunction (f : FunctionDecl) : String :=
  let name := if f.receiver.isEmpty then f.name else f.receiver ++ "." ++ f.name
  let params := ", ".intercalate (f.params.map fun p =>
    if p.name.isEmpty then p.type else String.ofList (Text.trim (p.name ++ " " ++ p.type).toList))
  let line := "- (" ++ visibility f.isExported ++ ") " ++ name ++ "(" ++ params ++ ")"
  let line := if f.returns.isEmpty then line else line ++ " -> " ++ ", ".intercalate f.returns
  line ++ " [lines " ++ toString f.startLine ++ "-" ++ toString f.endLine ++ "]\n"

/-- A class's line, with its fields counted and its methods listed below it. -/
def formatClass (c : ClassDecl) : String :=
  let line := "- (" ++ visibility c.isExported ++ ") " ++ c.name
  let line := if c.base.isEmpty then line else line ++ " extends " ++ c.base
  let line := if c.implements.isEmpty then line else line ++ " implements " ++ ", ".intercalate c.implements
  let line := line ++ " [lines " ++ toString c.startLine ++ "-" ++ toString c.endLine ++ "]\n"
  let line := if c.fields.isEmpty then line else line ++ "  Fields: " ++ toString c.fields.length ++ "\n"
  if c.methods.isEmpty then line else line ++ "  Methods: " ++ ", ".intercalate c.methods ++ "\n"

/-- An interface's line, with its methods listed below it. -/
def formatInterface (i : InterfaceDecl) : String :=
  let line := "- (" ++ visibility i.isExported ++ ") " ++ i.name ++ " [lines " ++
    toString i.startLine ++ "-" ++ toString i.endLine ++ "]\n"
  if i.methods.isEmpty then line else line ++ "  Methods: " ++ ", ".intercalate i.methods ++ "\n"

/-- The import section: up to ten imports and a count of the rest. -/
def importSection (imports : List Import) : String :=
  if imports.isEmpty then ""
  else
    let listed := (imports.take maxListedImports).map fun i =>
      if i.localName.isEmpty then "- " ++ i.path ++ "\n" else "- " ++ i.path ++ " as " ++ i.localName ++ "\n"
    let more := if imports.length > maxListedImports then
        ["... and " ++ toString (imports.length - maxListedImports) ++ " more imports\n"]
      else []
    "### Dependencies:\n" ++ String.join (listed ++ more) ++ "\n"

/-- A section of declarations, empty when there are none. -/
def listing {α : Type} (title : String) (items : List α) (fmt : α → String) : String :=
  if items.isEmpty then "" else title ++ String.join (items.map fmt) ++ "\n"

/-- The prompt text of an outline before cutting, through the view of a diff if given. -/
def contextText (o : Outline) (view? : Option ChangeView) : String :=
  let head := "## File: " ++ o.filePath ++ "\n" ++ "Language: " ++ o.language ++ "\n" ++
    (if o.package.isEmpty then "" else "Package: " ++ o.package ++ "\n") ++ "\n"
  let body := match view? with
    | some v =>
      "### Changed Functions:\n" ++ String.join (v.changedFunctions.map formatFunction) ++
        (if v.changedClasses.isEmpty then ""
         else "\n### Changed Classes/Structs:\n" ++ String.join (v.changedClasses.map formatClass))
    | none =>
      listing "### Functions:\n" o.functions formatFunction ++
        listing "### Classes/Structs:\n" o.classes formatClass ++
        listing "### Interfaces:\n" o.interfaces formatInterface
  head ++ importSection o.imports ++ body

/-- A text cut to the limit, marked when cut; `none` when it must be cut at a limit that is not
a whole number, which names no position. -/
def truncate? (limit : Quantity) (text : String) : Option String :=
  if limit.exceededBy text.length then
    match limit with
    | .whole n => some (String.ofList (text.toList.take n.toNat) ++ truncationMark)
    | .real _ => none
  else some text

/-- The prompt context of an outline, cut to the limit; a limit at most zero takes the default.
`none` when the text must be cut at a limit that is not a whole number. -/
def render? (maxLength : Quantity) (o : Outline) (view? : Option ChangeView) : Option String :=
  truncate? (maxLength.positiveOr defaultMaxLength) (contextText o view?)

/-- The other functions of a file, listed as call context for one of them. -/
def callGraph (o : Outline) (target : String) : String :=
  if !o.functions.any (·.name == target) then "Function " ++ target ++ " not found in context\n"
  else
    "### Call context for " ++ target ++ ":\n" ++ "Other functions in file:\n" ++
      String.join ((o.functions.filter (·.name != target)).map fun f =>
        "  - " ++ f.name ++ " [lines " ++ toString f.startLine ++ "-" ++ toString f.endLine ++ "]\n")

end ReviewPrep.Prompt
