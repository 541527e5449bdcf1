import ReviewPrep.Language

/-!
# Unified diffs

A diff is a list of file changes. A file change has a new path, perhaps an old path, a status,
the language of the new path, a binary flag, its hunks and its counts of added and deleted lines.
A hunk is a run of numbered lines, headed by the start and length of the region on each side.
-/

namespace ReviewPrep

/-- What happened to a file. -/
inductive FileStatus where
  | added | modified | deleted | renamed | copied
  deriving DecidableEq, Repr, Inhabited

/-- The tag of a status, as written in reports. -/
def FileStatus.tag : FileStatus → String
  | .added => "added"
  | .modified => "modified"
  | .deleted => "deleted"
  | .renamed => "renamed"
  | .copied => "copied"

/-- The kind of a line inside a hunk. -/
inductive LineKind where
  | context | addition | deletion
  deriving DecidableEq, Repr, Inhabited

/-- The tag of a line kind, as written in reports. -/
def LineKind.tag : LineKind → String
  | .context => "context"
  | .addition => "addition"
  | .deletion => "deletion"

/-- A line of a hunk, its prefix character removed, with its numbers on the old and new side. -/
structure DiffLine where
  /-- The kind of line. -/
  kind : LineKind
  /-- The text of the line. -/
  content : String
  /-- The line's number in the old file, for context and deleted lines. -/
  oldNumber : Option Nat
  /-- The line's number in the new file, for context and added lines. -/
  newNumber : Option Nat
  deriving DecidableEq, Repr, Inhabited

/-- A contiguous changed region, headed by an `@@` line. -/
structure Hunk where
  /-- The first line of the region in the old file. -/
  oldStart : Nat
  /-- The length of the region in the old file. -/
  oldLines : Nat
  /-- The first line of the region in the new file. -/
  newStart : Nat
  /-- The length of the region in the new file. -/
  newLines : Nat
  /-- The lines of the region. -/
  lines : List DiffLine
  /-- The header line as written. -/
  header : String
  /-- The text after the header's closing `@@`, trimmed: usually the enclosing scope. -/
  scope : String
  deriving DecidableEq, Repr, Inhabited

/-- The changes of one file. -/
structure FileChange where
  /-- The new path. -/
  path : String
  /-- The old path of a renamed or copied file. -/
  oldPath : Option String
  /-- What happened to the file. -/
  status : FileStatus
  /-- The language of the new path. -/
  language : Language
  /-- Whether the file is binary. -/
  isBinary : Bool
  /-- The hunks, in order. -/
  hunks : List Hunk
  /-- The number of added lines. -/
  additions : Nat
  /-- The number of deleted lines. -/
  deletions : Nat
  deriving DecidableEq, Repr, Inhabited

/-- A fresh file change for a new path: modified, no hunks yet. -/
def FileChange.ofPath (path : String) : FileChange :=
  ⟨path, none, .modified, detectLanguage path, false, [], 0, 0⟩

/-- The number of lines the file change adds or deletes. -/
def FileChange.linesChanged (f : FileChange) : Nat := f.additions + f.deletions

/-- A diff over any number of files. -/
structure Diff where
  /-- The file changes, in order. -/
  files : List FileChange
  deriving DecidableEq, Repr, Inhabited

/-- Totals over the files of a diff. -/
structure DiffStats where
  /-- The number of files. -/
  filesChanged : Nat
  /-- The added lines of all files. -/
  additions : Nat
  /-- The deleted lines of all files. -/
  deletions : Nat
  deriving DecidableEq, Repr

/-- The totals of a diff. -/
def Diff.stats (d : Diff) : DiffStats :=
  ⟨d.files.length, (d.files.map (·.additions)).foldr (· + ·) 0,
    (d.files.map (·.deletions)).foldr (· + ·) 0⟩

end ReviewPrep
