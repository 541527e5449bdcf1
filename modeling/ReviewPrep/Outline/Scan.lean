import ReviewPrep.Text.Basic
import ReviewPrep.Quantity

/-!
# Scanning source lines

The measures that the outline scanners share. A brace block opened on a line ends on the first
line, from there on, where some `{` has been seen and the braces opened so far are all closed;
an unclosed block runs to the last line. An indented block ends before the first later line that
is neither blank nor a `#` comment and is indented no deeper than its first line. The comment
above a declaration is the run of comment lines directly above it, annotations skipped. Splitting
at top level ignores separators inside brackets.
-/

namespace ReviewPrep.Outline

/-- Words that look like names in `type name(` but are statements or operators. -/
def controlKeywords : List String :=
  ["if", "else", "for", "foreach", "while", "do", "switch", "case", "catch", "return", "new",
   "throw", "throws", "sizeof", "typeof", "delete", "await", "yield", "import", "package",
   "function", "super", "this"]

/-- Whether a name is a control keyword. -/
def isControlKeyword (name : String) : Bool := controlKeywords.contains name

/-- Whether the text starts with `p`. -/
def startsWith (cs : List Char) (p : String) : Bool := p.toList.isPrefixOf cs

/-- Opening braces minus closing braces on a line. -/
def braceBalance (line : List Char) : Int := (line.count '\x7b' : Int) - (line.count '\x7d' : Int)

/-- The index of the line where the brace block opened on line `start` (or later) closes, or of
the last line when it never does. -/
def blockEnd (lines : List (List Char)) (start : Nat) : Nat :=
  go (lines.drop start) start 0 false
where
  /-- Scans the lines from index `i` with the balance and whether a brace was seen. -/
  go : List (List Char) → Nat → Int → Bool → Nat
    | [], _, _, _ => lines.length - 1
    | l :: rest, i, depth, started =>
      let depth := depth + braceBalance l
      let started := started || l.contains '\x7b'
      if started && depth ≤ 0 then i else go rest (i + 1) depth started

/-- The index where a brace block closes, `-1` for no lines at all. -/
def findBlockEnd (lines : List (List Char)) (start : Nat) : Int :=
  if lines.isEmpty then -1 else blockEnd lines start

/-- The width of a line's indentation in spaces and tabs. -/
def indentWidth (line : List Char) : Nat := (line.takeWhile fun c => c == ' ' || c == '\t').length

/-- Whether a line neither is blank nor holds only a `#` comment. -/
def isCodeLine (line : List Char) : Bool :=
  let t := Text.trim line
  !t.isEmpty && !startsWith t "#"

/-- The index of the last line of the indented block opened on line `start`; its body is looked
for after line `bodyFrom` (the end of a signature), by default after `start` itself. -/
def findIndentBlockEnd (lines : List (List Char)) (start : Nat) (bodyFrom : Option Nat := none) :
    Nat :=
  match lines[start]? with
  | none => start
  | some first =>
    let depth := indentWidth first
    let from_ := bodyFrom.getD start + 1
    go depth (lines.drop from_) from_
where
  /-- Scans the lines from index `i`. -/
  go (depth : Nat) : List (List Char) → Nat → Nat
    | [], _ => lines.length - 1
    | l :: rest, i => if isCodeLine l && indentWidth l ≤ depth then i - 1 else go depth rest (i + 1)

/-- The line at position `i`, where a negative position counts back from the end (`-1` is the
last line); `none` outside the lines. -/
def lineAt? (lines : List (List Char)) (i : Int) : Option (List Char) :=
  let j := if i < 0 then (lines.length : Int) + i else i
  if j < 0 then none else lines[j.toNat]?

/-- `blockEnd` from a position that may count back from the end: positions run from `start` up to
the last index, each read through `lineAt?`, and the position where the block closes is returned
as counted; `none` when a position lies outside the lines. -/
def findBlockEndFrom (lines : List (List Char)) (start : Int) : Option Int :=
  go ((lines.length : Int) - start).toNat start 0 false
where
  /-- Scans `n` more positions from `i` with the balance and whether a brace was seen. -/
  go : Nat → Int → Int → Bool → Option Int
    | 0, _, _, _ => some ((lines.length : Int) - 1)
    | n + 1, i, depth, started => (lineAt? lines i).bind fun l =>
      let depth := depth + braceBalance l
      let started := started || l.contains '\x7b'
      if started && depth ≤ 0 then some i else go n (i + 1) depth started

/-- `findIndentBlockEnd` from positions that may count back from the end, read through
`lineAt?`: a start at or past the end is returned as it is; `none` when a position read lies
outside the lines. -/
def findIndentBlockEndFrom (lines : List (List Char)) (start : Int) (bodyFrom : Option Int) :
    Option Int :=
  if (lines.length : Int) ≤ start then some start
  else (lineAt? lines start).bind fun first =>
    let from_ := bodyFrom.getD start + 1
    go (indentWidth first) ((lines.length : Int) - from_).toNat from_
where
  /-- Scans `n` more positions from `i`. -/
  go (depth : Nat) : Nat → Int → Option Int
    | 0, _ => some ((lines.length : Int) - 1)
    | n + 1, i => (lineAt? lines i).bind fun l =>
      if isCodeLine l && indentWidth l ≤ depth then some (i - 1) else go depth n (i + 1)

/-- The text of a comment line without its markers and surrounding space. -/
def commentText (line : List Char) : List Char :=
  Text.trim (Text.dropRightOf ['*', '/'] (Text.dropLeftOf ['/', '*', '!', '#'] line))

/-- The comment lines directly above, nearest first, collected until a line that is no comment;
annotation and attribute lines are skipped and empty comments dropped. -/
def collectComment (markers : List String) : List (List Char) → List (List Char) → List (List Char)
  | [], acc => acc
  | l :: above, acc =>
    let s := Text.trim l
    if startsWith s "@" || startsWith s "#[" then collectComment markers above acc
    else if s.isEmpty || !markers.any (startsWith s) then acc
    else
      let t := commentText s
      collectComment markers above (if t.isEmpty then acc else t :: acc)

/-- The comment block directly above line `idx`, its lines joined by spaces. -/
def leadingComment (lines : List (List Char)) (idx : Nat)
    (markers : List String := ["//", "/*", "*"]) : String :=
  String.ofList (Text.joinWith [' '] (collectComment markers ((lines.take idx).reverse) []))

/-- The comment block above line `idx`, which may stand one past the last line; `none` past that.
A line before the first has nothing above it. -/
def leadingComment? (lines : List (List Char)) (idx : Int) (markers : List String) : Option String :=
  if (lines.length : Int) < idx then none
  else some (leadingComment lines idx.toNat markers)

/-- The state of a split at top level: depth, the current part reversed, the parts so far. -/
structure TopSplit where
  /-- Brackets open. -/
  depth : Nat
  /-- The current part, reversed. -/
  current : List Char
  /-- The parts closed so far, latest first. -/
  parts : List (List Char)

/-- Takes one character into a split at `sep`. -/
def TopSplit.step (sep : List Char) (s : TopSplit) (c : Char) : TopSplit :=
  let depth :=
    if "([\x7b<".toList.contains c then s.depth + 1
    else if ")]\x7d>".toList.contains c && s.depth > 0 then s.depth - 1
    else s.depth
  if sep == [c] && depth == 0 then ⟨depth, [], Text.trim s.current.reverse :: s.parts⟩
  else ⟨depth, c :: s.current, s.parts⟩

/-- The text cut at every `sep` outside brackets; each part trimmed, empty parts dropped. A
separator of other than one character cuts nowhere. -/
def splitTopLevel (text : List Char) (sep : List Char := [',']) : List (List Char) :=
  let s := text.foldl (TopSplit.step sep) ⟨0, [], []⟩
  let tail := Text.trim s.current.reverse
  let parts := if tail.isEmpty then s.parts.reverse else s.parts.reverse ++ [tail]
  parts.filter (!·.isEmpty)

/-- The texts of `splitTopLevel` as strings. -/
def splitTopLevelStr (text : String) (sep : String := ",") : List String :=
  (splitTopLevel text.toList sep.toList).map String.ofList

/-- A declaration's range and what it is, for finding the one that encloses a line. -/
structure Scope (α : Type) where
  /-- The first line. -/
  start : Nat
  /-- The last line. -/
  stop : Nat
  /-- What the scope is. -/
  item : α

/-- The scope that most tightly encloses a line: starting before it and ending at or after it,
with the latest start; of equal starts the first. -/
def innermostScope {α : Type} (scopes : List (Scope α)) (line : Nat) : Option (Scope α) :=
  scopes.foldl (fun best s =>
    if s.start < line && line ≤ s.stop && (best.all fun b => s.start > b.start) then some s
    else best) none

/-! ## Scans from positions given as quantities

The scans of source lines take whole positions, which may count back from the end. A position
may also come as a binary64 value, which indexes no line: a scan then fails with `notWhole` as
soon as it would read a line or count from it. Until then it runs as usual, so a start at or past
the end is returned as it is, whatever its kind, and a comment above a position below one reads
no line and is empty.
-/

/-- Why a scan from a position has no value. -/
inductive PositionError where
  /-- A line read lies outside the lines. -/
  | outside
  /-- A position is not a whole number. -/
  | notWhole
  deriving DecidableEq, Repr

/-- A scan's result, with `outside` for no result. -/
def withinLines {α : Type} : Option α → Except PositionError α
  | some a => .ok a
  | none => .error .outside

/-- `findBlockEndFrom` from a start given as a quantity. -/
def blockEndAt (lines : List (List Char)) : Quantity → Except PositionError Int
  | .whole s => withinLines (findBlockEndFrom lines s)
  | .real _ => .error .notWhole

/-- `findIndentBlockEndFrom` from a start and body start given as quantities. A start at or past
the end is returned first; then the start's line is read, then the body start counted from. -/
def indentBlockEndAt (lines : List (List Char)) (start : Quantity) (bodyFrom : Option Quantity) :
    Except PositionError Quantity :=
  if (Quantity.whole lines.length).le start then .ok start
  else
    match start, bodyFrom with
    | .real _, _ => .error .notWhole
    | .whole s, some (.real _) =>
      if (lineAt? lines s).isSome then .error .notWhole else .error .outside
    | .whole s, some (.whole b) => .whole <$> withinLines (findIndentBlockEndFrom lines s (some b))
    | .whole s, none => .whole <$> withinLines (findIndentBlockEndFrom lines s none)

/-- `leadingComment?` above a position given as a quantity: the scan reads the line before it
while that line's position is not negative. -/
def commentAboveAt (lines : List (List Char)) (idx : Quantity) (markers : List String) :
    Except PositionError String :=
  match idx with
  | .whole i => withinLines (leadingComment? lines i markers)
  | .real x => if x - 1 ≥ 0 then .error .notWhole else .ok ""

/-- A whole start is scanned as `findBlockEndFrom` scans it. -/
theorem blockEndAt_whole (lines : List (List Char)) (s : Int) :
    blockEndAt lines (.whole s) = withinLines (findBlockEndFrom lines s) := rfl

end ReviewPrep.Outline
