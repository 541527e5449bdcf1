import ReviewPrep.Chunk.Boundary
import ReviewPrep.Tokens.Estimate
import ReviewPrep.Quantity

/-!
# Splitting text into chunks

A text is split into chunks of whole lines in one of two ways. Along declarations: a line that
starts a declaration closes the chunk of the declaration before it, lines between declarations
join the chunk of the next one, and a declaration ends at the first line containing `}` where
the braces of the text so far balance. By size: lines are gathered until the next would pass the
token budget, and the gathered text is cut at its preferred break point, the rest carried on.

Splitting along declarations is preferred. It falls back to splitting by size when it finds
nothing, or only one chunk and that over budget. A strict chunker also splits by size every
declaration chunk over budget, keeping its name.
-/

namespace ReviewPrep

open Tokens

/-- The state of the split along declarations, after some lines. -/
structure DeclSplit where
  /-- The chunks closed so far, latest first. -/
  done : List Chunk
  /-- The lines of the open chunk, latest first. -/
  buffer : List (List Char)
  /-- The first line of the open chunk. -/
  start : Nat
  /-- The name of the current declaration. -/
  name : String
  /-- The kind of the current declaration. -/
  kind : ChunkKind
  /-- Whether a declaration is open. -/
  inDecl : Bool
  /-- Opening braces minus closing braces so far. -/
  depth : Int

namespace DeclSplit

/-- The state before any line. -/
def init : DeclSplit := ⟨[], [], 1, "", .raw, false, 0⟩

/-- Closes the open chunk at line `stop` with kind `kind`. -/
def flush (s : DeclSplit) (stop : Nat) (kind : ChunkKind) : DeclSplit :=
  { s with done := ⟨kind, s.name, s.start, stop, 0, s.buffer.reverse.flatten⟩ :: s.done,
           buffer := [] }

/-- The first boundary that recognises the line, with its match. -/
def boundaryAt? (bs : List Boundary) (line : List Char) : Option (Boundary × Pattern.Match) :=
  bs.findSome? fun b => (Pattern.matchPrefix? b.pattern line).map (b, ·)

/-- Takes line number `n`. -/
def step (bs : List Boundary) (s : DeclSplit) (n : Nat) (line : List Char) : DeclSplit :=
  -- a declaration line closes the declaration before it
  let s := match boundaryAt? bs line with
    | some (b, m) =>
      let s := if !s.buffer.isEmpty && s.inDecl then s.flush (n - 1) s.kind else s
      { s with inDecl := true, kind := b.kind, name := m.text 1 }
    | none => s
  let s := { s with depth := s.depth + (line.count '\x7b' : Int) - (line.count '\x7d' : Int) }
  let s := if s.buffer.isEmpty then { s with start := n } else s
  let s := { s with buffer := line :: s.buffer }
  if s.inDecl && s.depth == 0 && line.contains '\x7d' then
    { s.flush n .function with inDecl := false, name := "" }
  else s

/-- The chunks of lines `first`, `first + 1`, … along declarations. -/
def run (bs : List Boundary) (lines : List (List Char)) : List Chunk :=
  let s := (lines.zipIdx 1).foldl (fun s (line, n) => step bs s n line) init
  let s := if s.buffer.isEmpty then s
    else s.flush lines.length (if s.inDecl then .function else .raw)
  s.done.reverse

end DeclSplit

/-- The state of the split by size, after some lines. -/
structure SizeSplit where
  /-- The chunks closed so far, latest first. -/
  done : List Chunk
  /-- The gathered text. -/
  buffer : List Char
  /-- The first line of the gathered text. -/
  start : Nat
  /-- The estimated tokens of the gathered text, line by line. -/
  tokens : Int

/-- Splits text into token-bounded chunks. -/
structure Chunker where
  /-- The token budget of a chunk. -/
  maxTokens : Quantity
  /-- The declaration boundaries. -/
  boundaries : List Boundary
  /-- The estimator of token counts. -/
  estimator : Estimator
  /-- Whether every declaration chunk over budget is split by size. -/
  strict : Bool

namespace Chunker

/-- The budget of a chunk when none is given. -/
def defaultMaxTokens : Int := 2000

/-- A chunker for a language tag; a budget at most zero takes the default. -/
def make (maxTokens : Quantity) (language : String) (estimator : Estimator) (strict : Bool) : Chunker :=
  ⟨maxTokens.positiveOr defaultMaxTokens, Boundary.forLanguage language, estimator, strict⟩

/-- The estimated token count of a text. -/
def estimate (c : Chunker) (text : List Char) : Except TokenFault Int := c.estimator.estimate text

/-- Whether a text is over the budget of one chunk. -/
def needsChunking (c : Chunker) (text : List Char) : Except TokenFault Bool := do
  return c.maxTokens.exceededBy (← c.estimate text)

/-- Takes line number `n` into the split by size. -/
def sizeStep (c : Chunker) (s : SizeSplit) (n : Nat) (line : List Char) :
    Except TokenFault SizeSplit := do
  let lineTokens ← c.estimate (Text.dropRightOf ['\n'] line)
  let s ← if c.maxTokens.exceededBy (s.tokens + lineTokens) && !s.buffer.isEmpty then do
      let cut := findBreakPoint s.buffer
      let cut := if cut == 0 then s.buffer.length else cut
      let emitted := s.buffer.take cut
      let rest := s.buffer.drop cut
      let k := lineFeeds emitted
      let chunk : Chunk := ⟨.block, "", s.start, s.start + k - 1, 0, emitted⟩
      pure (⟨chunk :: s.done, rest, s.start + k, ← c.estimate rest⟩ : SizeSplit)
    else pure s
  let start := if s.buffer.isEmpty then n else s.start
  return ⟨s.done, s.buffer ++ line, start, s.tokens + lineTokens⟩

/-- The chunks of lines numbered from `first`, split by size. -/
def splitBySize (c : Chunker) (lines : List (List Char)) (first : Nat) :
    Except TokenFault (List Chunk) := do
  let s ← (lines.zipIdx first).foldlM (fun s (line, n) => c.sizeStep s n line) ⟨[], [], first, 0⟩
  let done := if s.buffer.isEmpty then s.done
    else ⟨.block, "", s.start, first + lines.length - 1, 0, s.buffer⟩ :: s.done
  return done.reverse

/-- Splits by size every chunk over budget, the pieces keeping the chunk's name. -/
def enforceBudget (c : Chunker) (chunks : List Chunk) : Except TokenFault (List Chunk) :=
  chunks.flatMapM fun ch => do
    if c.maxTokens.fits (← c.estimate ch.content) then return [ch]
    let pieces ← c.splitBySize (splitKeepEnds ch.content) ch.startLine
    return pieces.map ({ · with name := ch.name })

/-- The chunks of a text, before their token counts are set. -/
def split (c : Chunker) (text : List Char) : Except TokenFault (List Chunk) := do
  let lines := splitKeepEnds text
  let chunks := DeclSplit.run c.boundaries lines
  match chunks with
  | [] => c.splitBySize lines 1
  | [only] =>
    if c.maxTokens.exceededBy (← c.estimate only.content) then c.splitBySize lines 1
    else if c.strict then c.enforceBudget chunks
    else return chunks
  | _ => if c.strict then c.enforceBudget chunks else return chunks

/-- The chunks of a text, each with its estimated token count. -/
def chunk (c : Chunker) (text : List Char) : Except TokenFault (List Chunk) := do
  let chunks ← c.split text
  chunks.mapM fun ch => do return { ch with tokenCount := ← c.estimate ch.content }

end Chunker

end ReviewPrep
