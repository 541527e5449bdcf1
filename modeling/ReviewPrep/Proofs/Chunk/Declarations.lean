import ReviewPrep.Proofs.Chunk.Strict

/-!
# The shape of declaration chunks

Splitting along declarations gives chunks of a fixed shape: a raw chunk is the last one, with no
name and no declaration line; every other chunk holds exactly one declaration line, named and
typed by the first boundary that matches it, or a function when it is last or balances the
braces (`DeclSplit.run_shapes`). The chunker returns these chunks with their counts unless it
falls back to size or re-splits (`decl_chunks_shape`). The proof carries one invariant of the
split over the lines read (`DeclSplit.Shaped`).
-/

namespace ReviewPrep

open Tokens

/-- The lines of a chunk, read off the lines of its text by its line range. -/
def Chunk.linesIn (c : Chunk) (lines : List (List Char)) : List (List Char) :=
  (lines.drop (c.startLine - 1)).take (c.endLine + 1 - c.startLine)

namespace DeclSplit

variable {bs : List Boundary}

/-- No line of the run opens a declaration. -/
def NoDecl (bs : List Boundary) (run : List (List Char)) : Prop :=
  ∀ l ∈ run, boundaryAt? bs l = none

/-- Exactly one line of the run opens a declaration, and the first boundary that recognises it
is `b`, with match `m`. -/
def OneDecl (bs : List Boundary) (run : List (List Char)) (b : Boundary) (m : Pattern.Match) :
    Prop :=
  ∃ pre l post, run = pre ++ l :: post ∧ NoDecl bs (pre ++ post) ∧ boundaryAt? bs l = some (b, m)

theorem noDecl_nil : NoDecl bs [] := nofun

/-- A line that opens no declaration keeps a run free of declaration lines. -/
theorem NoDecl.snoc {run : List (List Char)} (h : NoDecl bs run) {l : List Char}
    (hl : boundaryAt? bs l = none) : NoDecl bs (run ++ [l]) := by
  intro x hx
  rcases List.mem_append.mp hx with hx | hx
  · exact h x hx
  · rw [List.mem_singleton.mp hx]
    exact hl

/-- A line that opens no declaration keeps the one declaration line of a run. -/
theorem OneDecl.snoc {run : List (List Char)} {b : Boundary} {m : Pattern.Match}
    (h : OneDecl bs run b m) {l : List Char} (hl : boundaryAt? bs l = none) :
    OneDecl bs (run ++ [l]) b m := by
  obtain ⟨pre, x, post, rfl, hno, hx⟩ := h
  refine ⟨pre, x, post ++ [l], by simp, ?_, hx⟩
  rw [← List.append_assoc]
  exact hno.snoc hl

/-- A declaration line after a run free of them is the run's one declaration line. -/
theorem NoDecl.oneDecl_snoc {run : List (List Char)} (h : NoDecl bs run) {l : List Char}
    {b : Boundary} {m : Pattern.Match} (hl : boundaryAt? bs l = some (b, m)) :
    OneDecl bs (run ++ [l]) b m :=
  ⟨run, l, [], rfl, by simpa using h, hl⟩

/-- The boundary that recognises a line is one of the boundaries. -/
theorem mem_of_boundaryAt? {l : List Char} {b : Boundary} {m : Pattern.Match}
    (h : boundaryAt? bs l = some (b, m)) : b ∈ bs := by
  obtain ⟨b', hb', hm⟩ := List.exists_of_findSome?_eq_some h
  obtain ⟨m', -, hbm⟩ := Option.map_eq_some_iff.mp hm
  cases hbm
  exact hb'

/-- The braces opened minus the braces closed over some lines. -/
def braceDepth (ls : List (List Char)) : Int :=
  ls.foldl (fun d l => d + (l.count '\x7b' : Int) - (l.count '\x7d' : Int)) 0

theorem braceDepth_snoc (pre : List (List Char)) (l : List Char) :
    braceDepth (pre ++ [l]) = braceDepth pre + (l.count '\x7b' : Int) - (l.count '\x7d' : Int) := by
  simp [braceDepth, List.foldl_append]

/-- Whether line `e`, counted from 1, holds a `}` and closes every brace opened on lines 1 to
`e`. -/
def closesBraces (lines : List (List Char)) (e : Nat) : Bool :=
  (lines[e - 1]?.any fun l => l.contains '\x7d') && braceDepth (lines.take e) == 0

/-- The line after the lines `pre` closes the braces when it holds a `}` and the depth of the
lines up to it is zero. -/
theorem closesBraces_succ {lines pre rest : List (List Char)} {l : List Char}
    (h : lines = pre ++ l :: rest) :
    closesBraces lines (pre.length + 1) = (l.contains '\x7d' && braceDepth (pre ++ [l]) == 0) := by
  subst h
  have htake : (pre ++ l :: rest).take (pre.length + 1) = pre ++ [l] := by
    rw [List.take_append, List.take_of_length_le (by omega)]
    simp
  simp [closesBraces, htake]

/-- The shape of a chunk of the split along declarations among the lines `lines`, `last` telling
whether it is the last chunk. -/
structure DeclShape (bs : List Boundary) (lines : List (List Char)) (last : Bool) (c : Chunk) :
    Prop where
  /-- A raw chunk is the last chunk, has no name, and none of its lines opens a declaration. -/
  raw : c.kind = .raw → last = true ∧ c.name = "" ∧ NoDecl bs (c.linesIn lines)
  /-- Any other chunk has exactly one declaration line; group 1 of the match of its boundary is
  the chunk's name, and the boundary's kind is the chunk's kind unless the chunk is the last one
  or closes the braces on its last line, which make it a function. -/
  decl : c.kind ≠ .raw → ∃ b m, OneDecl bs (c.linesIn lines) b m ∧ c.name = m.text 1 ∧
    c.kind = if last || closesBraces lines c.endLine then .function else b.kind

/-- The split so far, after the lines `pre` of the lines `lines`, without the check of whether
the last line closed its declaration: the depth is that of `pre`, the closed chunks have their
shape, and the open chunk's lines hold no declaration line while no declaration is open, and
exactly the one that named the open declaration while one is. -/
structure Pushed (bs : List Boundary) (lines pre : List (List Char)) (s : DeclSplit) : Prop where
  /-- The brace depth of the lines read. -/
  depth : s.depth = braceDepth pre
  /-- Every closed chunk has its shape, as one that is not the last. -/
  closed : ∀ c ∈ s.done, DeclShape bs lines false c
  /-- Outside a declaration, no name and no declaration line. -/
  undeclared : s.inDecl = false → s.name = "" ∧ NoDecl bs s.buffer.reverse
  /-- Inside one, its line is the one declaration line, and gives the name and the kind. -/
  declared : s.inDecl = true →
    ∃ b m, OneDecl bs s.buffer.reverse b m ∧ s.name = m.text 1 ∧ s.kind = b.kind

/-- The split after the lines `pre` of the lines `lines`. -/
structure Shaped (bs : List Boundary) (lines pre : List (List Char)) (s : DeclSplit) : Prop
    extends Pushed bs lines pre s where
  /-- With nothing open, the chunk closed last has its shape even as the last chunk. -/
  lastClosed : s.buffer = [] → ∀ c ∈ s.done.head?, DeclShape bs lines true c
  /-- An open declaration did not close its braces on the last line read. -/
  unclosed : s.inDecl = true → closesBraces lines pre.length = false

/-- Before any line, nothing is open and nothing is closed. -/
theorem shaped_init (lines : List (List Char)) : Shaped bs lines [] init :=
  ⟨⟨rfl, nofun, fun _ => ⟨rfl, noDecl_nil⟩, nofun⟩, fun _ => nofun, nofun⟩

/-- The chunk that flushing the buffer after the lines `pre` closes holds the buffer's lines. -/
theorem linesIn_flush {pre rest lines : List (List Char)} {s : DeclSplit} (h : Inv pre s)
    (hb : s.buffer ≠ []) (hl : lines = pre ++ rest) (k : ChunkKind) :
    (⟨k, s.name, s.start, pre.length, 0, s.buffer.reverse.flatten⟩ : Chunk).linesIn lines =
      s.buffer.reverse := by
  obtain ⟨a, b, rfl, -, hbuf, hstart⟩ := h
  have hb' : b ≠ [] := by
    rw [← hbuf]
    simpa using hb
  have hs := hstart hb'
  subst hl
  simp only [Chunk.linesIn, hs, hbuf, List.length_append]
  rw [show 1 + a.length - 1 = a.length by omega,
    show a.length + b.length + 1 - (1 + a.length) = b.length by omega, List.append_assoc,
    List.drop_left, List.take_left]

@[simp] theorem pushAt_depth (s : DeclSplit) (n : Nat) (line : List Char) :
    (pushAt s n line).depth = s.depth + (line.count '\x7b' : Int) - (line.count '\x7d' : Int) := by
  unfold pushAt
  dsimp only
  split <;> rfl

@[simp] theorem pushAt_inDecl (s : DeclSplit) (n : Nat) (line : List Char) :
    (pushAt s n line).inDecl = s.inDecl := by
  unfold pushAt
  dsimp only
  split <;> rfl

@[simp] theorem pushAt_name (s : DeclSplit) (n : Nat) (line : List Char) :
    (pushAt s n line).name = s.name := by
  unfold pushAt
  dsimp only
  split <;> rfl

@[simp] theorem pushAt_kind (s : DeclSplit) (n : Nat) (line : List Char) :
    (pushAt s n line).kind = s.kind := by
  unfold pushAt
  dsimp only
  split <;> rfl

/-- A line that opens no declaration leaves the boundary check as it is. -/
theorem openAt_of_none {s : DeclSplit} {n : Nat} {line : List Char}
    (h : boundaryAt? bs line = none) : openAt bs s n line = s := by
  rw [openAt, h]

/-- A declaration line opens its declaration, after closing the open one if it has lines. -/
theorem openAt_of_some {s : DeclSplit} {n : Nat} {line : List Char} {b : Boundary}
    {m : Pattern.Match} (h : boundaryAt? bs line = some (b, m)) :
    openAt bs s n line =
      { (if !s.buffer.isEmpty && s.inDecl then s.flush (n - 1) s.kind else s) with
        inDecl := true, kind := b.kind, name := m.text 1 } := by
  rw [openAt, h]

/-- A line joining an open run that satisfies the split's invariant keeps it, its braces
counted. -/
theorem Pushed.push {lines pre : List (List Char)} {s : DeclSplit} (h : Pushed bs lines pre s)
    {l : List Char} (hl : boundaryAt? bs l = none) (n : Nat) :
    Pushed bs lines (pre ++ [l]) (pushAt s n l) := by
  refine ⟨by rw [pushAt_depth, h.depth, braceDepth_snoc], by simpa using h.closed, ?_, ?_⟩
  · intro hd
    obtain ⟨hname, hno⟩ := h.undeclared (by simpa using hd)
    exact ⟨by simpa using hname, by simpa using hno.snoc hl⟩
  · intro hd
    obtain ⟨b, m, hone, hname, hkind⟩ := h.declared (by simpa using hd)
    exact ⟨b, m, by simpa using hone.snoc hl, by simpa using hname, by simpa using hkind⟩

/-- The chunk of an open declaration, closed on the last line read where that line does not
close the braces, has its shape as a chunk that is not the last. -/
theorem declShape_flush {lines pre rest : List (List Char)} {s : DeclSplit}
    (hraw : ∀ b ∈ bs, b.kind ≠ .raw) (hinv : Inv pre s) (hsh : Shaped bs lines pre s)
    (hl : lines = pre ++ rest) (hd : s.inDecl = true) :
    DeclShape bs lines false ⟨s.kind, s.name, s.start, pre.length, 0, s.buffer.reverse.flatten⟩ := by
  obtain ⟨b, m, hone, hname, hkind⟩ := hsh.declared hd
  have hb : s.buffer ≠ [] := by
    obtain ⟨p, x, q, hrun, -⟩ := hone
    intro he
    simp [he] at hrun
  have hbm : b ∈ bs := by
    obtain ⟨p, x, q, -, -, hx⟩ := hone
    exact mem_of_boundaryAt? hx
  have hlines := linesIn_flush hinv hb hl s.kind
  refine ⟨fun hr => absurd (hkind ▸ hr) (hraw b hbm), fun _ => ⟨b, m, hlines ▸ hone, hname, ?_⟩⟩
  simp [hsh.unclosed hd, hkind]

/-- Reading a line, before its end check: a declaration line closes the open declaration, and
the line joins the open chunk. -/
theorem Shaped.openPush {lines pre rest : List (List Char)} {s : DeclSplit} {l : List Char}
    (hraw : ∀ b ∈ bs, b.kind ≠ .raw) (hinv : Inv pre s) (hsh : Shaped bs lines pre s)
    (hl : lines = pre ++ l :: rest) :
    Pushed bs lines (pre ++ [l]) (pushAt (openAt bs s (1 + pre.length) l) (1 + pre.length) l) := by
  cases hbl : boundaryAt? bs l with
  | none =>
    rw [openAt_of_none hbl]
    exact hsh.toPushed.push hbl _
  | some bm =>
    obtain ⟨b, m⟩ := bm
    rw [openAt_of_some hbl]
    have hopen : ∀ (s₀ : DeclSplit), s₀.depth = braceDepth pre →
        (∀ c ∈ s₀.done, DeclShape bs lines false c) → NoDecl bs s₀.buffer.reverse →
        Pushed bs lines (pre ++ [l])
          (pushAt { s₀ with inDecl := true, kind := b.kind, name := m.text 1 } (1 + pre.length) l) := by
      intro s₀ hdepth hclosed hno
      refine ⟨by rw [pushAt_depth, hdepth, braceDepth_snoc], by simpa using hclosed, ?_, ?_⟩
      · intro hd
        simp at hd
      · intro _
        exact ⟨b, m, by simpa using hno.oneDecl_snoc hbl, by simp, by simp⟩
    by_cases hc : (!s.buffer.isEmpty && s.inDecl) = true
    · obtain ⟨hne, hd⟩ := Bool.and_eq_true_iff.mp hc
      rw [if_pos hc, show 1 + pre.length - 1 = pre.length by omega]
      refine hopen _ hsh.depth ?_ (by simp [flush, noDecl_nil])
      intro c hc'
      rcases List.mem_cons.mp hc' with rfl | hc'
      · exact declShape_flush hraw hinv hsh hl hd
      · exact hsh.closed c hc'
    · rw [if_neg hc]
      refine hopen s hsh.depth hsh.closed ?_
      cases hd : s.inDecl
      · exact (hsh.undeclared hd).2
      · have he : s.buffer = [] := by simpa [hd] using hc
        simp [he, noDecl_nil]

/-- The end check of the line after `pre`: a `}` that closes the braces closes the open
declaration as a function. -/
theorem Pushed.closeAt {lines pre rest : List (List Char)} {s : DeclSplit} {l : List Char}
    (hinv : Inv (pre ++ [l]) s) (hb : s.buffer ≠ []) (hp : Pushed bs lines (pre ++ [l]) s)
    (hl : lines = pre ++ l :: rest) :
    Shaped bs lines (pre ++ [l]) (closeAt s (1 + pre.length) l) := by
  have hlen : (pre ++ [l]).length = 1 + pre.length := by simp [Nat.add_comm]
  have hcl : closesBraces lines (1 + pre.length) = (l.contains '\x7d' && s.depth == 0) := by
    rw [Nat.add_comm, closesBraces_succ hl, hp.depth]
  unfold DeclSplit.closeAt
  split
  · next hc =>
    have hd : s.inDecl = true := by simp_all
    obtain ⟨b, m, hone, hname, -⟩ := hp.declared hd
    have hlines := linesIn_flush hinv hb (show lines = (pre ++ [l]) ++ rest by simpa using hl)
      .function
    rw [hlen] at hlines
    have hclose : closesBraces lines (1 + pre.length) = true := by
      rw [hcl]
      simp_all
    have hshape : ∀ last, DeclShape bs lines last
        ⟨.function, s.name, s.start, 1 + pre.length, 0, s.buffer.reverse.flatten⟩ := fun last =>
      ⟨nofun, fun _ => ⟨b, m, hlines ▸ hone, hname, by simp [hclose]⟩⟩
    refine ⟨⟨hp.depth, ?_, fun _ => ⟨rfl, by simp [flush, noDecl_nil]⟩, nofun⟩, ?_, nofun⟩
    · intro c hc'
      rcases List.mem_cons.mp hc' with rfl | hc'
      · exact hshape false
      · exact hp.closed c hc'
    · intro _ c hc'
      obtain rfl := Option.mem_some_iff.mp hc'
      exact hshape true
  · next hc =>
    refine ⟨hp, fun he => absurd he hb, fun hd => ?_⟩
    rw [hlen, hcl]
    rw [hd, Bool.true_and] at hc
    simpa [Bool.and_comm] using hc

/-- Reading the line after `pre` keeps the tiling and the shapes. -/
theorem Shaped.step {lines pre rest : List (List Char)} {s : DeclSplit} {l : List Char}
    (hraw : ∀ b ∈ bs, b.kind ≠ .raw) (hinv : Inv pre s) (hsh : Shaped bs lines pre s)
    (hl : lines = pre ++ l :: rest) :
    Inv (pre ++ [l]) (DeclSplit.step bs s (1 + pre.length) l) ∧
      Shaped bs lines (pre ++ [l]) (DeclSplit.step bs s (1 + pre.length) l) := by
  obtain ⟨hpush, hne⟩ := (hinv.openAt bs l).pushAt l
  rw [step_eq]
  exact ⟨hpush.closeAt hne l (by simp [Nat.add_comm]),
    (hsh.openPush hraw hinv hl).closeAt hpush hne hl⟩

/-- Reading the lines `rest` after `pre` keeps the tiling and the shapes. -/
theorem Shaped.fold (hraw : ∀ b ∈ bs, b.kind ≠ .raw) (lines : List (List Char)) :
    ∀ (rest pre : List (List Char)) (s : DeclSplit), lines = pre ++ rest → Inv pre s →
      Shaped bs lines pre s →
      Inv lines
          ((rest.zipIdx (1 + pre.length)).foldl (fun s (line, n) => DeclSplit.step bs s n line) s) ∧
        Shaped bs lines lines
          ((rest.zipIdx (1 + pre.length)).foldl (fun s (line, n) => DeclSplit.step bs s n line) s)
  | [], pre, s, hl, hinv, hsh => by
    simp only [List.append_nil] at hl
    subst hl
    exact ⟨hinv, hsh⟩
  | l :: rest, pre, s, hl, hinv, hsh => by
    obtain ⟨hinv', hsh'⟩ := hsh.step hraw hinv hl
    have h := Shaped.fold hraw lines rest (pre ++ [l]) _ (by simpa using hl) hinv' hsh'
    simp only [List.length_append, List.length_singleton] at h
    simpa [Nat.add_assoc] using h

/-- Splitting lines along declarations, with boundaries of which none opens a raw chunk: every
chunk but the last has its shape as one that is not the last, and the last has its shape as the
last. -/
theorem run_shapes (hraw : ∀ b ∈ bs, b.kind ≠ .raw) (lines : List (List Char)) :
    (∀ c ∈ (run bs lines).dropLast, DeclShape bs lines false c) ∧
      ∀ c ∈ (run bs lines).getLast?, DeclShape bs lines true c := by
  obtain ⟨hinv, hsh⟩ := Shaped.fold hraw lines lines [] init (by simp)
    ⟨[], [], rfl, Tiling.nil 1, rfl, by simp⟩ (shaped_init lines)
  simp only [List.length_nil, Nat.add_zero] at hinv hsh
  unfold run
  generalize (lines.zipIdx 1).foldl (fun s (line, n) => step bs s n line) init = s at hinv hsh ⊢
  dsimp only
  split
  · next he =>
    have hbuf : s.buffer = [] := List.isEmpty_iff.mp he
    refine ⟨fun c hc => hsh.closed c ?_, fun c hc => hsh.lastClosed hbuf c ?_⟩
    · rw [List.dropLast_reverse] at hc
      exact List.mem_of_mem_tail (List.mem_reverse.mp hc)
    · simpa [List.getLast?_reverse] using hc
  · next he =>
    have hbuf : s.buffer ≠ [] := by simpa using he
    have hlines := linesIn_flush hinv hbuf (show lines = lines ++ [] by simp)
      (if s.inDecl then .function else .raw)
    simp only [flush, List.reverse_cons]
    refine ⟨fun c hc => hsh.closed c (by simpa using hc), fun c hc => ?_⟩
    simp only [List.getLast?_append, List.getLast?_singleton, Option.some_or,
      Option.mem_some_iff] at hc
    subst hc
    cases hd : s.inDecl
    · obtain ⟨hname, hno⟩ := hsh.undeclared hd
      exact ⟨fun _ => ⟨rfl, hname, by simpa using hlines ▸ hno⟩, fun h => absurd (by simp) h⟩
    · obtain ⟨b, m, hone, hname, -⟩ := hsh.declared hd
      exact ⟨fun h => absurd h (by simp), fun _ => ⟨b, m, by simpa using hlines ▸ hone, hname,
        by simp⟩⟩

end DeclSplit

/-- No boundary of any language opens a raw chunk. -/
theorem Boundary.kind_ne_raw (language : String) :
    ∀ b ∈ Boundary.forLanguage language, b.kind ≠ .raw := by
  intro b hb
  unfold Boundary.forLanguage at hb
  split at hb <;>
    simp only [Boundary.go, Boundary.script, Boundary.python, Boundary.java, Boundary.rust,
      Boundary.cFamily, Boundary.generic, List.mem_cons, List.not_mem_nil, or_false] at hb <;>
    rcases hb with rfl | rfl | rfl | rfl | rfl <;> simp

namespace Chunker

/-- Where no chunk has an estimate over budget, re-splitting in strict mode keeps every chunk:
re-splitting and then counting is counting. -/
theorem enforceBudget_of_fits (c : Chunker) : ∀ cs : List Chunk,
    (∀ ch ∈ cs, ∀ n, c.estimate ch.content = .ok n → c.maxTokens.fits n = true) →
    (c.enforceBudget cs >>= fun cs' => cs'.mapM c.counted) = cs.mapM c.counted
  | [], _ => rfl
  | ch :: cs, h => by
    rw [enforceBudget_cons, List.mapM_cons]
    cases hn : c.estimate ch.content with
    | error e => simp only [resplit, counted, hn, error_bind]
    | ok n =>
      have hres : c.resplit ch = .ok [ch] := by
        simp only [resplit, hn, ok_bind, h ch List.mem_cons_self n hn, if_true]
        rfl
      rw [hres, counted_of_estimate hn, ok_bind, ok_bind,
        ← enforceBudget_of_fits c cs fun ch' hch' => h ch' (List.mem_cons_of_mem _ hch')]
      cases c.enforceBudget cs with
      | error e => rfl
      | ok cs' => simp [List.mapM_cons, counted_of_estimate hn]

/-- Where the chunker neither falls back to splitting by size nor, being strict, has a chunk over
budget to re-split, it returns the chunks along declarations with their token counts set. -/
theorem chunk_eq_of_kept (c : Chunker) (text : List Char) (hF : ¬c.FallsBack text)
    (hS : c.strict = false ∨ ∀ ch ∈ DeclSplit.run c.boundaries (splitKeepEnds text), ∀ n,
      c.estimate ch.content = .ok n → c.maxTokens.fits n = true) :
    c.chunk text = (DeclSplit.run c.boundaries (splitKeepEnds text)).mapM c.counted := by
  rw [chunk_eq_bind]
  have hkeep : ((if c.strict then c.enforceBudget (DeclSplit.run c.boundaries (splitKeepEnds text))
      else pure (DeclSplit.run c.boundaries (splitKeepEnds text))) >>= fun cs' => cs'.mapM c.counted) =
      (DeclSplit.run c.boundaries (splitKeepEnds text)).mapM c.counted := by
    cases hst : c.strict
    · rfl
    · exact enforceBudget_of_fits c _ (hS.resolve_left (by simp [hst]))
  cases hrun : DeclSplit.run c.boundaries (splitKeepEnds text) with
  | nil => exact absurd (Or.inl hrun) hF
  | cons only rest =>
    rw [hrun] at hkeep
    cases rest with
    | nil =>
      rw [split_of_run_single c hrun]
      cases hn : c.estimate only.content with
      | error e => simp [hn, List.mapM_cons, counted]
      | ok n =>
        cases hex : c.maxTokens.exceededBy n
        · simp only [ok_bind, hex, Bool.false_eq_true, if_false]
          exact hkeep
        · exact absurd (Or.inr ⟨only, n, hrun, hn, hex⟩) hF
    | cons b rest =>
      rw [split_of_run_cons_cons c hrun]
      exact hkeep

/-- Declaration chunks have a fixed shape, whatever the budget, the language tag, the estimator
and the text. Unless the chunker falls back to splitting by size, or is strict and has a chunk
whose estimate is over budget, it returns the chunks along the language's boundaries only with
their token counts set. Of those chunks, a raw one can only be the last; it has no name and no
line of it opens a declaration. Every other one has exactly one line that opens a declaration,
is named by group 1 of the match of the first boundary that recognises that line, and has that
boundary's kind, unless it is the last chunk or its last line holds a `}` with which the braces
of all lines so far balance, which make it a function. -/
theorem decl_chunks_shape (maxTokens : Quantity) (language : String) (est : Estimator)
    (strict : Bool) (text : List Char) :
    ((make maxTokens language est strict).FallsBack text ∨
      (strict = true ∧ ∃ ch ∈ DeclSplit.run (Boundary.forLanguage language) (splitKeepEnds text),
        ∃ n, est.estimate ch.content = .ok n ∧ (maxTokens.positiveOr defaultMaxTokens).fits n = false) ∨
      (make maxTokens language est strict).chunk text =
        (DeclSplit.run (Boundary.forLanguage language) (splitKeepEnds text)).mapM
          (make maxTokens language est strict).counted) ∧
    (∀ ch ∈ (DeclSplit.run (Boundary.forLanguage language) (splitKeepEnds text)).dropLast,
      DeclSplit.DeclShape (Boundary.forLanguage language) (splitKeepEnds text) false ch) ∧
    ∀ ch ∈ (DeclSplit.run (Boundary.forLanguage language) (splitKeepEnds text)).getLast?,
      DeclSplit.DeclShape (Boundary.forLanguage language) (splitKeepEnds text) true ch := by
  refine ⟨?_, DeclSplit.run_shapes (Boundary.kind_ne_raw language) _⟩
  by_cases hF : (make maxTokens language est strict).FallsBack text
  · exact Or.inl hF
  by_cases hR : strict = true ∧ ∃ ch ∈ DeclSplit.run (Boundary.forLanguage language) (splitKeepEnds text),
      ∃ n, est.estimate ch.content = .ok n ∧ (maxTokens.positiveOr defaultMaxTokens).fits n = false
  · exact Or.inr (Or.inl hR)
  refine Or.inr (Or.inr (chunk_eq_of_kept _ text hF ?_))
  cases hs : strict
  · exact Or.inl rfl
  · refine Or.inr fun ch hch n hn => ?_
    cases hfit : (maxTokens.positiveOr defaultMaxTokens).fits n
    · exact absurd ⟨hs, ch, hch, n, hn, hfit⟩ hR
    · exact hfit

end Chunker

end ReviewPrep
