import ReviewPrep.Diff.Basic
import ReviewPrep.Diff.Header
import ReviewPrep.Text.Utf8

/-!
# Reading a diff

A diff is read line by line, each line cut at line feeds and stripped of trailing carriage
returns; empty lines are skipped. A file header opens a file change; lines before the first one
are ignored. A hunk header opens a hunk and sets the running line numbers of both sides to its
starts. Before a file's first hunk, marker lines set its status, binary flag and old path. Inside
a hunk a line is an addition after `+`, a deletion after `-`, skipped after `\`, and context
otherwise (a leading space dropped). Each addition and deletion is counted on its file.

Reading is best-effort: no line is refused, so every text is a diff.
-/

namespace ReviewPrep.Diff

/-- Why a payload gives no diff. -/
inductive DiffError where
  /-- The payload is neither text nor bytes. -/
  | notText (kind : String)
  /-- A numeral of this many digits, more than `Text.maxDigits`, is the first one refused. -/
  | overlongNumeral (width : Nat)
  deriving DecidableEq, Repr

/-- The text of a diff error. -/
def DiffError.message : DiffError → String
  | .notText kind => "diff must be str or bytes, got " ++ kind
  | .overlongNumeral width =>
    "Exceeds the limit (" ++ toString Text.maxDigits ++
      " digits) for integer string conversion: value has " ++ toString width ++
      " digits; use sys.set_int_max_str_digits() to increase the limit"

/-- The state of reading a diff, after some lines. -/
structure Scan where
  /-- The file changes closed so far, latest first. -/
  done : List FileChange
  /-- The open file change. -/
  file : Option FileChange
  /-- The open hunk. -/
  hunk : Option Hunk
  /-- The number of the next old-side line. -/
  oldNo : Nat
  /-- The number of the next new-side line. -/
  newNo : Nat
  deriving Inhabited

namespace Scan

/-- The state before any line. -/
def init : Scan := ⟨[], none, none, 0, 0⟩

/-- A file change with a hunk appended, if there is one. -/
def attach (f : FileChange) : Option Hunk → FileChange
  | some h => { f with hunks := f.hunks ++ [h] }
  | none => f

/-- The file changes read so far, the open one included. -/
def files (s : Scan) : List FileChange :=
  match s.file with
  | some f => (attach f s.hunk :: s.done).reverse
  | none => s.done.reverse

/-- A marker applied to a file change. -/
def applyMarker (f : FileChange) : Marker → FileChange
  | .newFile => { f with status := .added }
  | .deletedFile => { f with status := .deleted }
  | .binary => { f with isBinary := true }
  | .renameFrom old => { f with status := .renamed, oldPath := some (String.ofList old) }
  | .copyFrom old => { f with status := .copied, oldPath := some (String.ofList old) }

/-- A hunk line read into the open hunk `h` of file `f`. -/
def hunkLine (s : Scan) (f : FileChange) (h : Hunk) (line : List Char) : Scan :=
  let add (l : DiffLine) := { h with lines := h.lines ++ [l] }
  match line with
  | '\\' :: _ => s
  | '+' :: rest =>
    { s with file := some { f with additions := f.additions + 1 },
             hunk := some (add ⟨.addition, String.ofList rest, none, some s.newNo⟩),
             newNo := s.newNo + 1 }
  | '-' :: rest =>
    { s with file := some { f with deletions := f.deletions + 1 },
             hunk := some (add ⟨.deletion, String.ofList rest, some s.oldNo, none⟩),
             oldNo := s.oldNo + 1 }
  | c :: rest =>
    let content := if c == ' ' then rest else c :: rest
    { s with hunk := some (add ⟨.context, String.ofList content, some s.oldNo, some s.newNo⟩),
             oldNo := s.oldNo + 1, newNo := s.newNo + 1 }
  | [] => s

/-- Reads one line, already stripped of trailing carriage returns. -/
def step (s : Scan) (line : List Char) : Scan :=
  if line.isEmpty then s
  else match fileHeader? line with
  | some (_, new) =>
    let path := String.ofList new
    { s with done := s.files.reverse, file := some (FileChange.ofPath path), hunk := none }
  | none =>
    match s.file with
    | none => s
    | some f =>
      match hunkHeader? line with
      | some hh =>
        let h : Hunk := ⟨hh.oldStart, hh.oldLines, hh.newStart, hh.newLines, [],
          String.ofList line, String.ofList hh.scope⟩
        { s with file := some (attach f s.hunk), hunk := some h,
                 oldNo := hh.oldStart, newNo := hh.newStart }
      | none =>
        match s.hunk with
        | none =>
          match marker? line with
          | some m => { s with file := some (applyMarker f m) }
          | none => s
        | some h => s.hunkLine f h line

end Scan

/-- The lines of a text as read by diff and source readers: cut at line feeds, each stripped of
its trailing carriage returns. -/
def textLines (text : String) : List (List Char) :=
  (Text.splitOnText ['\n'] text.toList).map (Text.dropRightOf ['\r'])

/-- Reads a diff from text, numerals of any length included. -/
def ofText (text : String) : Diff := ⟨((textLines text).foldl Scan.step Scan.init).files⟩

/-- The width of the first numeral longer than `Text.maxDigits` in a hunk header that follows a
file header: the headers that reading turns into numbers. -/
def overlongNumeral? (lines : List (List Char)) : Option Nat :=
  go false lines
where
  /-- Scans the lines, knowing whether a file header was seen. -/
  go (inFile : Bool) : List (List Char) → Option Nat
    | [] => none
    | l :: rest =>
      if (fileHeader? l).isSome then go true rest
      else match (if inFile then hunkHeader? l else none) with
        | some hh => hh.overlong.or (go inFile rest)
        | none => go inFile rest

/-- Reads a diff from text; a hunk header with a numeral too long to read makes it fail. -/
def read (text : String) : Except DiffError Diff :=
  match overlongNumeral? (textLines text) with
  | some w => .error (.overlongNumeral w)
  | none => .ok (ofText text)

/-- Reads a diff from a payload; bytes are read leniently as UTF-8. -/
def ofPayload (p : Payload) : Except DiffError Diff :=
  match p.lenientText with
  | .ok text => read text
  | .error kind => .error (.notText kind)

/-- The new start of every hunk header of a text, read loosely, line by line as written, with its
number of digits. -/
def hunkMarks (text : String) : List Numeral :=
  (Text.splitOnText ['\n'] text.toList).filterMap fun line => (hunkNewStart? line).map (·.1)

/-- The new start of every hunk header of a text; fails on one of more than `Text.maxDigits`
digits. -/
def changedLines (text : String) : Except DiffError (List Nat) :=
  let marks := hunkMarks text
  match marks.find? (·.width > Text.maxDigits) with
  | some m => .error (.overlongNumeral m.width)
  | none => .ok (marks.map (·.value))

end ReviewPrep.Diff
