import ReviewPrep.Json
import ReviewPrep.Chunk.Split
import ReviewPrep.Tokens.Budget
import ReviewPrep.Config
import ReviewPrep.Priority
import ReviewPrep.Prompt.Request

/-!
# Reports

The JSON documents of the library's results. Members stand in a fixed order per record.
-/

namespace ReviewPrep

open JsonValue

/-- A chunk: kind, name, line range, token count and content. -/
def Chunk.toJson (c : Chunk) : JsonValue :=
  obj [("type", str c.kind.tag), ("name", str c.name), ("start_line", int c.startLine),
       ("end_line", int c.endLine), ("token_count", int c.tokenCount),
       ("content", str (String.ofList c.content))]

/-- A quantity: an integer or a binary64 value. -/
def Quantity.toJson : Quantity → JsonValue
  | .whole n => int n
  | .real x => float x

/-- A budget state: window, reserve, use and what is available. -/
def Tokens.Budget.toJson (b : Tokens.Budget) : Except QuantityError JsonValue := do
  let available ← b.available
  return obj [("max_tokens", b.maxTokens.toJson), ("response_reserve", b.responseReserve.toJson),
       ("used", b.used.toJson), ("available", available.toJson)]

/-- The answer of a budget operation: null, a truth value or a quantity. -/
def Tokens.Budget.Reply.toJson : Tokens.Budget.Reply → JsonValue
  | .nothing => null
  | .fits b => bool b
  | .available q => q.toJson

/-- A budget's window, reserve and what is available. -/
def Tokens.Budget.summaryJson (b : Tokens.Budget) : Except QuantityError JsonValue := do
  let available ← b.available
  return obj [("max_tokens", b.maxTokens.toJson), ("response_reserve", b.responseReserve.toJson),
       ("available", available.toJson)]

/-- Settings, with the budget they give. -/
def Settings.toJson (s : Settings) : Except QuantityError JsonValue := do
  let budget ← s.budget.summaryJson
  return obj [("model", str s.model), ("max_context_length", int s.maxContextLength),
       ("max_chunk_tokens", int s.maxChunkTokens), ("strict_chunk_budget", bool s.strictChunkBudget),
       ("response_reserve", int s.responseReserve), ("log_format", str s.logFormat),
       ("log_level", str s.logLevel), ("budget", budget)]

/-- A diff line: kind, content and numbers. -/
def DiffLine.toJson (l : DiffLine) : JsonValue :=
  obj [("type", str l.kind.tag), ("content", str l.content),
       ("old_number", optInt (l.oldNumber.map Int.ofNat)),
       ("new_number", optInt (l.newNumber.map Int.ofNat))]

/-- A hunk with all its fields. -/
def Hunk.toJson (h : Hunk) : JsonValue :=
  obj [("old_start", int h.oldStart), ("old_lines", int h.oldLines), ("new_start", int h.newStart),
       ("new_lines", int h.newLines), ("lines", arr (h.lines.map DiffLine.toJson)),
       ("header", str h.header), ("section", str h.scope)]

/-- A hunk in the compact form: header first, no section. -/
def Hunk.toCompactJson (h : Hunk) : JsonValue :=
  obj [("header", str h.header), ("old_start", int h.oldStart), ("old_lines", int h.oldLines),
       ("new_start", int h.newStart), ("new_lines", int h.newLines),
       ("lines", arr (h.lines.map DiffLine.toJson))]

/-- A file change with all its fields. -/
def FileChange.toJson (f : FileChange) : JsonValue :=
  obj [("path", str f.path), ("old_path", optStr f.oldPath), ("status", str f.status.tag),
       ("language", str f.language.tag), ("is_binary", bool f.isBinary),
       ("hunks", arr (f.hunks.map Hunk.toJson)), ("additions", int f.additions),
       ("deletions", int f.deletions), ("total_lines_changed", int f.linesChanged)]

/-- A file change in the compact form: counts before hunks, no total. -/
def FileChange.toCompactJson (f : FileChange) : JsonValue :=
  obj [("path", str f.path), ("old_path", optStr f.oldPath), ("status", str f.status.tag),
       ("language", str f.language.tag), ("is_binary", bool f.isBinary),
       ("additions", int f.additions), ("deletions", int f.deletions),
       ("hunks", arr (f.hunks.map Hunk.toCompactJson))]

/-- The totals of a diff. -/
def DiffStats.toJson (s : DiffStats) : JsonValue :=
  obj [("files_changed", int s.filesChanged), ("additions", int s.additions),
       ("deletions", int s.deletions)]

/-- A diff with all fields: totals and files. -/
def Diff.toJson (d : Diff) : JsonValue :=
  obj [("stats", d.stats.toJson), ("files", arr (d.files.map FileChange.toJson))]

/-- A diff in the compact form. -/
def Diff.toCompactJson (d : Diff) : JsonValue :=
  obj [("stats", d.stats.toJson), ("files", arr (d.files.map FileChange.toCompactJson))]

/-- A review queue entry. -/
def FileInfo.toJson (f : FileInfo) : JsonValue :=
  obj [("path", str f.path), ("language", str f.language), ("token_count", int f.tokenCount),
       ("is_test", bool f.isTest)]

/-- A function declaration. -/
def FunctionDecl.toJson (f : FunctionDecl) : JsonValue :=
  obj [("name", str f.name), ("start_line", int f.startLine), ("end_line", int f.endLine),
       ("receiver", str f.receiver),
       ("parameters", arr (f.params.map fun p => obj [("name", str p.name), ("type", str p.type)])),
       ("returns", strs f.returns), ("is_exported", bool f.isExported), ("doc_comment", str f.doc)]

/-- A class declaration. -/
def ClassDecl.toJson (c : ClassDecl) : JsonValue :=
  obj [("name", str c.name), ("start_line", int c.startLine), ("end_line", int c.endLine),
       ("fields", arr (c.fields.map fun f =>
         obj [("name", str f.name), ("type", str f.type), ("tags", str f.tags)])),
       ("methods", strs c.methods), ("extends", str c.base), ("implements", strs c.implements),
       ("is_exported", bool c.isExported)]

/-- An interface declaration. -/
def InterfaceDecl.toJson (i : InterfaceDecl) : JsonValue :=
  obj [("name", str i.name), ("start_line", int i.startLine), ("end_line", int i.endLine),
       ("methods", strs i.methods), ("is_exported", bool i.isExported)]

/-- A variable declaration. -/
def VariableDecl.toJson (v : VariableDecl) : JsonValue :=
  obj [("name", str v.name), ("line", int v.line), ("type", str v.type), ("value", str v.value),
       ("is_exported", bool v.isExported)]

/-- The members of an outline. -/
def Outline.members (o : Outline) : List (String × JsonValue) :=
  [("language", str o.language), ("file_path", str o.filePath), ("package", str o.package),
   ("module", str o.module),
   ("imports", arr (o.imports.map fun i => obj [("path", str i.path), ("alias", str i.localName)])),
   ("functions", arr (o.functions.map FunctionDecl.toJson)),
   ("classes", arr (o.classes.map ClassDecl.toJson)),
   ("interfaces", arr (o.interfaces.map InterfaceDecl.toJson)),
   ("variables", arr (o.vars.map VariableDecl.toJson)),
   ("constants", arr (o.constants.map VariableDecl.toJson))]

/-- An outline. -/
def Outline.toJson (o : Outline) : JsonValue := obj o.members

/-- An outline with the grammar that read it. -/
def Outline.toJsonWith (o : Outline) (g : Grammar) : JsonValue := obj (o.members ++ [("grammar", str g.tag)])

/-- An outline narrowed to a diff. -/
def ChangeView.toJson (v : ChangeView) : JsonValue :=
  obj [("changed_lines", arr (v.changedLines.map fun n => int (Int.ofNat n))),
       ("changed_functions", arr (v.changedFunctions.map FunctionDecl.toJson)),
       ("changed_classes", arr (v.changedClasses.map ClassDecl.toJson)),
       ("changed_symbols", str v.summary), ("full_context", v.outline.toJson)]

/-- An enriched review request. -/
def Prompt.Request.toJson (r : Prompt.Request) : JsonValue :=
  obj [("diff", str r.diff), ("language", str r.language), ("file_path", str r.filePath),
       ("structural_context", str r.context), ("changed_symbols", str r.changedSymbols)]

end ReviewPrep
