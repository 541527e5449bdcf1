import ReviewPrep.Text.Basic
import ReviewPrep.Text.Integer

/-!
# Header lines of a diff

The lines that open a file or a hunk, and the lines that mark a file's change. Each recogniser
reads one line, which holds no line feed.

* A file header is `diff --git a/OLD b/NEW`; the new path is what follows the last ` b/` that
  has text on both sides.
* A hunk header is `@@ -a,b +c,d @@ section`, each `,count` optional (a count defaults to 1),
  single spaces exactly where shown, the numbers in decimal digits of any script.
* Numerals keep their number of digits, so that a reader can refuse one longer than
  `Text.maxDigits`.
* The loose hunk start accepts any white space around the ranges and reads only the new start
  and count; it needs nothing after the closing `@@`.
-/

namespace ReviewPrep.Diff

/-- The maximal run of decimal digits at the start of `cs`, its value, and the rest. -/
def digitRun (cs : List Char) : List Char × List Char :=
  (cs.takeWhile Text.isDecimal, cs.dropWhile Text.isDecimal)

/-- The value of a run of decimal digits. -/
def digitsValue (ds : List Char) : Nat :=
  ds.foldl (fun acc d => 10 * acc + (Text.digitValue? d).getD 0) 0

/-- A numeral: its value and its number of digits. -/
structure Numeral where
  /-- The value. -/
  value : Nat
  /-- The number of digits written. -/
  width : Nat
  deriving DecidableEq, Repr

/-- The number of digits of the first of `ns` longer than `Text.maxDigits`: read in order as
numbers, the first one refused. -/
def firstOverlong (ns : List Numeral) : Option Nat :=
  (ns.find? (·.width > Text.maxDigits)).map (·.width)

/-- A numeral at the start of `cs`: at least one digit, all of them taken. -/
def number? (cs : List Char) : Option (Numeral × List Char) :=
  match digitRun cs with
  | ([], _) => none
  | (ds, rest) => some (⟨digitsValue ds, ds.length⟩, rest)

/-- An optional `,count` at the start of `cs`. -/
def count? (cs : List Char) : Option Numeral × List Char :=
  match cs with
  | ',' :: rest =>
    match number? rest with
    | some (n, rest') => (some n, rest')
    | none => (none, cs)
  | _ => (none, cs)

/-- The parts of a file header: the old and new path, split at the last ` b/` that has text on
both sides. -/
def fileHeader? (line : List Char) : Option (List Char × List Char) :=
  if "diff --git a/".toList.isPrefixOf line then
    ((Text.splitsAt " b/".toList (line.drop "diff --git a/".length)).reverse.find? fun (old, new) =>
      !old.isEmpty && !new.isEmpty)
  else none

/-- The numbers and section of a hunk header. -/
structure HunkHeader where
  /-- The first line on the old side. -/
  oldStart : Nat
  /-- The length on the old side. -/
  oldLines : Nat
  /-- The first line on the new side. -/
  newStart : Nat
  /-- The length on the new side. -/
  newLines : Nat
  /-- The trimmed text after the closing `@@`. -/
  scope : List Char
  /-- The digits of the first numeral too long to read, of the old start, old count, new start and
  new count in that order. -/
  overlong : Option Nat
  deriving DecidableEq, Repr

/-- Reads a hunk header. -/
def hunkHeader? (line : List Char) : Option HunkHeader := do
  let rest ← if "@@ -".toList.isPrefixOf line then some (line.drop 4) else none
  let (a, rest) ← number? rest
  let (b, rest) := count? rest
  let rest ← if " +".toList.isPrefixOf rest then some (rest.drop 2) else none
  let (c, rest) ← number? rest
  let (d, rest) := count? rest
  let rest ← if " @@".toList.isPrefixOf rest then some (rest.drop 3) else none
  return ⟨a.value, (b.map (·.value)).getD 1, c.value, (d.map (·.value)).getD 1, Text.trim rest,
    firstOverlong (a :: b.toList ++ c :: d.toList)⟩

/-- Reads the start of a hunk header loosely: white space may stand around the ranges, and
nothing after the closing `@@` is read. Gives the new start and the new count if written. -/
def hunkNewStart? (line : List Char) : Option (Numeral × Option Nat) := do
  let rest ← if "@@".toList.isPrefixOf line then some (line.drop 2) else none
  let rest := rest.dropWhile Text.isBlank
  let rest ← if rest.head? == some '-' then some rest.tail else none
  let (_, rest) ← number? rest
  let (_, rest) := count? rest
  let rest := rest.dropWhile Text.isBlank
  let rest ← if rest.head? == some '+' then some rest.tail else none
  let (c, rest) ← number? rest
  let (d, rest) := count? rest
  let rest := rest.dropWhile Text.isBlank
  if "@@".toList.isPrefixOf rest then some (c, d.map (·.value)) else none

/-- A line that marks a file's change, before its first hunk. -/
inductive Marker where
  | newFile
  | deletedFile
  | binary
  | renameFrom (old : List Char)
  | copyFrom (old : List Char)
  deriving DecidableEq, Repr

/-- Reads a marker line; the first kind that fits wins. -/
def marker? (line : List Char) : Option Marker :=
  if "new file mode".toList.isPrefixOf line then some .newFile
  else if "deleted file mode".toList.isPrefixOf line then some .deletedFile
  else if "Binary files ".toList.isPrefixOf line &&
      Text.occursIn " differ".toList (line.drop "Binary files ".length) then some .binary
  else if "rename from ".toList.isPrefixOf line && line.length > "rename from ".length then
    some (.renameFrom (line.drop "rename from ".length))
  else if "copy from ".toList.isPrefixOf line && line.length > "copy from ".length then
    some (.copyFrom (line.drop "copy from ".length))
  else none

end ReviewPrep.Diff
