import ReviewPrep.Diff.Scan
import Mathlib.Data.List.Infix

/-!
# Diffs as git writes them

File changes as git writes them in unified format: a `diff --git` header, the lines that give
the change, optional `index`, `---`, `+++` and `Binary files` lines, and the hunks, each a
`@@ -a,b +c,d @@` header and its marked lines, all joined with line feeds. `FileText.toFileChange`
is what reading should give back, and `FileText.Valid` is what the layout needs for it.
-/

namespace ReviewPrep

open scoped List

/-- The character that marks a hunk line of a kind. -/
def LineKind.mark : LineKind → Char
  | .context => ' '
  | .addition => '+'
  | .deletion => '-'

namespace Diff

/-- A line of a hunk as written: its kind and its text. -/
structure LineText where
  /-- Context, addition or deletion. -/
  kind : LineKind
  /-- The text after the mark. -/
  text : List Char
  deriving DecidableEq, Repr

/-- A hunk line as written: its mark, then its text. -/
def LineText.render (l : LineText) : List Char := l.kind.mark :: l.text

/-- A hunk as written: the ranges of its header, its section and its lines. -/
structure HunkText where
  /-- The first line on the old side. -/
  oldStart : Nat
  /-- The length on the old side. -/
  oldLines : Nat
  /-- The first line on the new side. -/
  newStart : Nat
  /-- The length on the new side. -/
  newLines : Nat
  /-- The section after the header's closing `@@`, often the enclosing scope. -/
  scope : List Char
  /-- The lines. -/
  lines : List LineText
  deriving DecidableEq, Repr

/-- The header line of a hunk, with both counts written. -/
def HunkText.header (h : HunkText) : List Char :=
  "@@ -".toList ++ Nat.toDigits 10 h.oldStart ++ ',' :: Nat.toDigits 10 h.oldLines ++
    " +".toList ++ Nat.toDigits 10 h.newStart ++ ',' :: Nat.toDigits 10 h.newLines ++
    " @@".toList ++ (if h.scope = [] then [] else ' ' :: h.scope)

/-- A hunk as written: its header, then its lines. -/
def HunkText.render (h : HunkText) : List (List Char) := h.header :: h.lines.map LineText.render

/-- What happened to a file, with the old path of a renamed or copied one. -/
inductive Change where
  | modified
  | added
  | deleted
  | renamed (old : List Char)
  | copied (old : List Char)
  deriving DecidableEq, Repr

/-- The status of a change. -/
def Change.status : Change → FileStatus
  | .modified => .modified
  | .added => .added
  | .deleted => .deleted
  | .renamed _ => .renamed
  | .copied _ => .copied

/-- The old path of a renamed or copied file. -/
def Change.oldPath? : Change → Option (List Char)
  | .renamed old => some old
  | .copied old => some old
  | _ => none

/-- The lines that state a change to the file at `new`. -/
def Change.markers (new : List Char) : Change → List (List Char)
  | .modified => []
  | .added => ["new file mode 100644".toList]
  | .deleted => ["deleted file mode 100644".toList]
  | .renamed old => ["rename from ".toList ++ old, "rename to ".toList ++ new]
  | .copied old => ["copy from ".toList ++ old, "copy to ".toList ++ new]

/-- A file change as written. -/
structure FileText where
  /-- The new path. -/
  path : List Char
  /-- What happened to the file. -/
  change : Change
  /-- The text of an `index` line, if there is one. -/
  index : Option (List Char)
  /-- The text of a `---` line, if there is one. -/
  oldName : Option (List Char)
  /-- The text of a `+++` line, if there is one. -/
  newName : Option (List Char)
  /-- For a binary file, the text between `Binary files ` and ` differ`. -/
  binary : Option (List Char)
  /-- The hunks. -/
  hunks : List HunkText
  deriving DecidableEq, Repr

/-- The header line of a file change; the old path is the new one unless the file was renamed
or copied. -/
def FileText.header (f : FileText) : List Char :=
  "diff --git a/".toList ++ f.change.oldPath?.getD f.path ++ " b/".toList ++ f.path

/-- The lines between the header and the hunks. -/
def FileText.preamble (f : FileText) : List (List Char) :=
  f.change.markers f.path ++ (f.index.map ("index ".toList ++ ·)).toList ++
    (f.oldName.map ("--- ".toList ++ ·)).toList ++ (f.newName.map ("+++ ".toList ++ ·)).toList ++
    (f.binary.map fun x => "Binary files ".toList ++ x ++ " differ".toList).toList

/-- A file change as written: its header, its preamble, then its hunks. -/
def FileText.render (f : FileText) : List (List Char) :=
  f.header :: (f.preamble ++ f.hunks.flatMap HunkText.render)

/-- A diff as written: the lines of its file changes joined with line feeds. -/
def render (fs : List FileText) : String :=
  String.ofList (['\n'].intercalate (fs.flatMap FileText.render))

/-- The lines of a hunk as read, numbered from the starts of each side: a context line takes
the next number of both sides, an added line the next new one, a deleted line the next old
one. -/
def numberLines : Nat → Nat → List LineText → List DiffLine
  | _, _, [] => []
  | o, n, l :: ls =>
    match l.kind with
    | .context => ⟨.context, String.ofList l.text, some o, some n⟩ :: numberLines (o + 1) (n + 1) ls
    | .addition => ⟨.addition, String.ofList l.text, none, some n⟩ :: numberLines o (n + 1) ls
    | .deletion => ⟨.deletion, String.ofList l.text, some o, none⟩ :: numberLines (o + 1) n ls

/-- The hunk that reading a written hunk gives. -/
def HunkText.toHunk (h : HunkText) : Hunk :=
  ⟨h.oldStart, h.oldLines, h.newStart, h.newLines, numberLines h.oldStart h.newStart h.lines,
    String.ofList h.header, String.ofList h.scope⟩

/-- The number of lines of a kind in a hunk. -/
def HunkText.count (k : LineKind) (h : HunkText) : Nat := h.lines.countP (·.kind == k)

/-- The file change that reading a written file change gives. -/
def FileText.toFileChange (f : FileText) : FileChange :=
  { FileChange.ofPath (String.ofList f.path) with
    oldPath := f.change.oldPath?.map String.ofList
    status := f.change.status
    isBinary := f.binary.isSome
    hunks := f.hunks.map HunkText.toHunk
    additions := (f.hunks.map (HunkText.count .addition)).foldr (· + ·) 0
    deletions := (f.hunks.map (HunkText.count .deletion)).foldr (· + ·) 0 }

/-- A text that a diff line can carry whole: no line feed, and no carriage return at the end,
which reading strips. -/
def OneLine (cs : List Char) : Prop := '\n' ∉ cs ∧ cs.getLast? ≠ some '\r'

instance (cs : List Char) : Decidable (OneLine cs) := inferInstanceAs (Decidable (_ ∧ _))

/-- What a written hunk needs to be read back: numbers of at most `Text.maxDigits` digits, a
section without surrounding white space or line feeds, and lines of one line each. -/
structure HunkText.Valid (h : HunkText) : Prop where
  /-- The old start has at most `Text.maxDigits` digits. -/
  oldStart_lt : h.oldStart < Nat.pow 10 Text.maxDigits
  /-- The old count has at most `Text.maxDigits` digits. -/
  oldLines_lt : h.oldLines < Nat.pow 10 Text.maxDigits
  /-- The new start has at most `Text.maxDigits` digits. -/
  newStart_lt : h.newStart < Nat.pow 10 Text.maxDigits
  /-- The new count has at most `Text.maxDigits` digits. -/
  newLines_lt : h.newLines < Nat.pow 10 Text.maxDigits
  /-- The section is its own trimmed form. -/
  scope_trim : Text.trim h.scope = h.scope
  /-- The section holds no line feed. -/
  scope_oneLine : '\n' ∉ h.scope
  /-- Each line's text is one line. -/
  lines_oneLine : ∀ l ∈ h.lines, OneLine l.text

/-- What a written file change needs to be read back: non-empty paths of one line, a new path
in which no ` b/` could end the old one, one-line texts in the preamble, and valid hunks. -/
structure FileText.Valid (f : FileText) : Prop where
  /-- The new path is not empty. -/
  path_ne_nil : f.path ≠ []
  /-- The new path is one line. -/
  path_oneLine : OneLine f.path
  /-- The header cannot be split at a ` b/` inside the new path. -/
  path_sep : ¬ " b/".toList <:+: f.path
  /-- The old path of a renamed or copied file is not empty. -/
  old_ne_nil : ∀ o ∈ f.change.oldPath?, o ≠ []
  /-- The old path is one line. -/
  old_oneLine : ∀ o ∈ f.change.oldPath?, OneLine o
  /-- The `index` text has no line feed. -/
  index_oneLine : ∀ x ∈ f.index, '\n' ∉ x
  /-- The `---` text has no line feed. -/
  oldName_oneLine : ∀ x ∈ f.oldName, '\n' ∉ x
  /-- The `+++` text has no line feed. -/
  newName_oneLine : ∀ x ∈ f.newName, '\n' ∉ x
  /-- The binary note has no line feed. -/
  binary_oneLine : ∀ x ∈ f.binary, '\n' ∉ x
  /-- The hunks are valid. -/
  hunks_valid : ∀ h ∈ f.hunks, h.Valid

end Diff

end ReviewPrep
