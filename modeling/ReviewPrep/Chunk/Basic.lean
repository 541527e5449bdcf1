import ReviewPrep.Text.Basic

/-!
# Chunks of text

A chunk is a run of whole lines of a text, with the kind of declaration it holds, its name, its
first and last line (counted from 1), its estimated token count and its content. Lines keep their
line feeds, so the contents of consecutive chunks concatenate to the text they came from. The
preferred cut in a buffer of lines is after the last closing brace that ends a line, else after
the last blank line, else after the last line feed in the second half of the buffer.
-/

namespace ReviewPrep

/-- What a chunk holds. -/
inductive ChunkKind where
  | unknown | function | classDecl | method | block | imports | raw
  deriving DecidableEq, Repr, Inhabited

/-- The tag of a chunk kind, as written in reports. -/
def ChunkKind.tag : ChunkKind → String
  | .unknown => "unknown"
  | .function => "function"
  | .classDecl => "class"
  | .method => "method"
  | .block => "block"
  | .imports => "imports"
  | .raw => "raw"

/-- A run of whole lines of a text. -/
structure Chunk where
  /-- What the chunk holds. -/
  kind : ChunkKind
  /-- The name of the declaration, or empty. -/
  name : String
  /-- The first line, counted from 1. -/
  startLine : Nat
  /-- The last line. -/
  endLine : Nat
  /-- The estimated token count of the content. -/
  tokenCount : Int
  /-- The lines, line feeds included. -/
  content : List Char
  deriving DecidableEq, Repr, Inhabited

/-- The lines of a text, each with its line feed; a last line without one is kept unless it is
empty. -/
def splitKeepEnds (text : List Char) : List (List Char) :=
  match (Text.splitOnText ['\n'] text).reverse with
  | [] => []
  | last :: pieces =>
    (pieces.reverse.map (· ++ ['\n'])) ++ (if last.isEmpty then [] else [last])

/-- The position where the last occurrence of `p` in `cs` starts. -/
def lastIndexOf? (p cs : List Char) : Option Nat :=
  go 0 cs none
where
  /-- Scans from position `i`, remembering the last hit. -/
  go (i : Nat) : List Char → Option Nat → Option Nat
    | [], best => if p.isEmpty then some i else best
    | c :: rest, best => go (i + 1) rest (if p.isPrefixOf (c :: rest) then some i else best)

/-- Where to cut a buffer of lines: after the last `}` that ends a line, else after the last
blank line, else after the last line feed past the middle; `0` when there is no such place. -/
def findBreakPoint (content : List Char) : Nat :=
  match lastIndexOf? ['\x7d', '\n'] content with
  | some i => if 0 < i then i + 2 else fallback
  | none => fallback
where
  /-- The blank line, else the line feed past the middle. -/
  fallback : Nat :=
    match lastIndexOf? ['\n', '\n'] content with
    | some i => if 0 < i then i + 2 else lastNewline
    | none => lastNewline
  /-- The last line feed past the middle. -/
  lastNewline : Nat :=
    match lastIndexOf? ['\n'] content with
    | some i => if content.length / 2 < i then i + 1 else 0
    | none => 0

/-- The number of line feeds. -/
def lineFeeds (cs : List Char) : Nat := cs.count '\n'

end ReviewPrep
