import ReviewPrep.Chunk.Split
import ReviewPrep.Proofs.Chunk.Tiling
import ReviewPrep.Proofs.Chunk.Cut

/-!
# The chunker partitions its text

Each of the three ways of splitting keeps one invariant over its run: the chunks closed so far
tile the leading lines read and the buffer holds the lines after them. Every flush and every cut
moves a non-empty run of whole lines from the buffer to the chunks. So the chunks of a text
partition its lines unless the estimator fails (`Chunker.chunk_partitions_lines`).
-/

namespace ReviewPrep

open Tokens

/-- An outcome that is a value with property `P`, or a failure that the estimator itself
raises on some text. -/
def Estimated {α : Type} (est : Estimator) (P : α → Prop) : Except TokenFault α → Prop
  | .ok a => P a
  | .error e => ∃ t, est.estimate t = .error e

namespace Estimated

variable {α β : Type} {est : Estimator}

/-- A value with the property. -/
theorem of_pure {P : α → Prop} {a : α} (h : P a) : Estimated est P (pure a) := h

/-- An estimate is an outcome of the estimator. -/
theorem estimate (t : List Char) : Estimated est (fun _ => True) (est.estimate t) := by
  cases h : est.estimate t with
  | error e => exact ⟨t, h⟩
  | ok n => trivial

/-- Outcomes compose through a bind. -/
theorem bind {P : α → Prop} {Q : β → Prop} {x : Except TokenFault α}
    {f : α → Except TokenFault β} (hx : Estimated est P x) (hf : ∀ a, P a → Estimated est Q (f a)) :
    Estimated est Q (x >>= f) := by
  cases x with
  | error e => exact hx
  | ok a => exact hf a hx

/-- A weaker property of the value. -/
theorem mono {P Q : α → Prop} {x : Except TokenFault α} (hx : Estimated est P x)
    (h : ∀ a, P a → Q a) : Estimated est Q x := by
  cases x with
  | error e => exact hx
  | ok a => exact h a hx

end Estimated

/-! ## Splitting along declarations -/

namespace DeclSplit

/-- After the lines `pre`: the closed chunks tile a leading run `a`, and the buffer holds the
rest `b` latest first, from the line after `a` on. -/
def Inv (pre : List (List Char)) (s : DeclSplit) : Prop :=
  ∃ a b, pre = a ++ b ∧ Tiling 1 a s.done.reverse ∧ s.buffer.reverse = b ∧
    (b ≠ [] → s.start = 1 + a.length)

/-- Closing a non-empty buffer on the last line read keeps the invariant. -/
theorem Inv.flush {pre : List (List Char)} {s : DeclSplit} (h : Inv pre s) (hb : s.buffer ≠ [])
    (kind : ChunkKind) : Inv pre (s.flush pre.length kind) := by
  obtain ⟨a, b, rfl, ht, hbuf, hstart⟩ := h
  have hb' : b ≠ [] := by
    rw [← hbuf]
    simpa using hb
  refine ⟨a ++ b, [], by simp, ?_, by simp [DeclSplit.flush], by simp⟩
  simp only [DeclSplit.flush, List.reverse_cons]
  refine ht.append (Tiling.single hb' ?_ ?_ ?_)
  · exact hstart hb'
  · simp
    omega
  · simp [hbuf]

/-- The invariant reads only the closed chunks, the buffer and the start of the open chunk. -/
theorem Inv.congr {pre : List (List Char)} {s s' : DeclSplit} (h : Inv pre s)
    (hd : s'.done = s.done) (hb : s'.buffer = s.buffer) (hs : s'.start = s.start) : Inv pre s' := by
  simpa only [Inv, hd, hb, hs] using h

/-- The boundary check of line `n`: a declaration line closes an open declaration's chunk on
the line before, and opens its own. -/
def openAt (bs : List Boundary) (s : DeclSplit) (n : Nat) (line : List Char) : DeclSplit :=
  match boundaryAt? bs line with
  | some (b, m) =>
    let s := if !s.buffer.isEmpty && s.inDecl then s.flush (n - 1) s.kind else s
    { s with inDecl := true, kind := b.kind, name := m.text 1 }
  | none => s

/-- Line `n` joins the buffer, its braces counted. -/
def pushAt (s : DeclSplit) (n : Nat) (line : List Char) : DeclSplit :=
  let s := { s with depth := s.depth + (line.count '\x7b' : Int) - (line.count '\x7d' : Int) }
  let s := if s.buffer.isEmpty then { s with start := n } else s
  { s with buffer := line :: s.buffer }

/-- The end check of line `n`: a closing brace that balances the braces ends the declaration. -/
def closeAt (s : DeclSplit) (n : Nat) (line : List Char) : DeclSplit :=
  if s.inDecl && s.depth == 0 && line.contains '\x7d' then
    { s.flush n .function with inDecl := false, name := "" }
  else s

/-- A step is the boundary check, the line joining the buffer, and the end check. -/
theorem step_eq (bs : List Boundary) (s : DeclSplit) (n : Nat) (line : List Char) :
    step bs s n line = closeAt (pushAt (openAt bs s n line) n line) n line := rfl

/-- The boundary check of the next line keeps the invariant. -/
theorem Inv.openAt (bs : List Boundary) {pre : List (List Char)} {s : DeclSplit} (h : Inv pre s)
    (line : List Char) : Inv pre (openAt bs s (1 + pre.length) line) := by
  unfold DeclSplit.openAt
  split
  · have hn : 1 + pre.length - 1 = pre.length := by omega
    have h₀ : Inv pre (if (!s.buffer.isEmpty && s.inDecl) = true then
        s.flush (1 + pre.length - 1) s.kind else s) := by
      split
      · next hc =>
        have hne : s.buffer ≠ [] := by simpa using (Bool.and_eq_true_iff.mp hc).1
        rw [hn]
        exact h.flush hne s.kind
      · exact h
    exact h₀.congr rfl rfl rfl
  · exact h

@[simp] theorem pushAt_done (s : DeclSplit) (n : Nat) (line : List Char) :
    (pushAt s n line).done = s.done := by
  unfold pushAt
  dsimp only
  split <;> rfl

@[simp] theorem pushAt_buffer (s : DeclSplit) (n : Nat) (line : List Char) :
    (pushAt s n line).buffer = line :: s.buffer := by
  unfold pushAt
  dsimp only
  split <;> rfl

@[simp] theorem pushAt_start (s : DeclSplit) (n : Nat) (line : List Char) :
    (pushAt s n line).start = if s.buffer = [] then n else s.start := by
  unfold pushAt
  dsimp only
  split <;> simp_all

/-- The next line joins the buffer: the invariant now covers it, and the buffer is not empty. -/
theorem Inv.pushAt {pre : List (List Char)} {s : DeclSplit} (h : Inv pre s) (line : List Char) :
    Inv (pre ++ [line]) (pushAt s (1 + pre.length) line) ∧
      (pushAt s (1 + pre.length) line).buffer ≠ [] := by
  obtain ⟨a, b, rfl, ht, hbuf, hstart⟩ := h
  have hstart' : (DeclSplit.pushAt s (1 + (a ++ b).length) line).start = 1 + a.length := by
    by_cases he : s.buffer = []
    · have hb : b = [] := by rw [← hbuf, he]; rfl
      subst hb
      simp [he]
    · have hb : b ≠ [] := by rw [← hbuf]; simpa using he
      simp [he, hstart hb]
  refine ⟨⟨a, b ++ [line], by simp, by simpa using ht, by simp [hbuf], fun _ => hstart'⟩, by simp⟩

/-- The end check keeps the invariant. -/
theorem Inv.closeAt {pre : List (List Char)} {s : DeclSplit} (h : Inv pre s) (hb : s.buffer ≠ [])
    (line : List Char) {n : Nat} (hn : n = pre.length) : Inv pre (closeAt s n line) := by
  unfold DeclSplit.closeAt
  split
  · rw [hn]
    exact (h.flush hb .function).congr rfl rfl rfl
  · exact h

/-- Reading line `1 + pre.length` keeps the invariant, whatever the boundaries. -/
theorem Inv.step (bs : List Boundary) {pre : List (List Char)} {s : DeclSplit}
    (h : Inv pre s) (line : List Char) : Inv (pre ++ [line]) (step bs s (1 + pre.length) line) := by
  obtain ⟨hpush, hne⟩ := (h.openAt bs line).pushAt line
  rw [step_eq]
  exact hpush.closeAt hne line (by simp [Nat.add_comm])

/-- Reading the lines `rest` after `pre` keeps the invariant. -/
theorem Inv.fold (bs : List Boundary) : ∀ (rest pre : List (List Char)) (s : DeclSplit),
    Inv pre s → Inv (pre ++ rest)
      ((rest.zipIdx (1 + pre.length)).foldl (fun s (line, n) => DeclSplit.step bs s n line) s)
  | [], pre, s, h => by simpa using h
  | line :: rest, pre, s, h => by
    have h' := Inv.fold bs rest (pre ++ [line]) _ (h.step bs line)
    simp only [List.length_append, List.length_singleton, List.append_assoc,
      List.singleton_append] at h'
    simpa [Nat.add_assoc] using h'

/-- Splitting along declarations tiles the lines from line 1. -/
theorem run_tiling (bs : List Boundary) (lines : List (List Char)) :
    Tiling 1 lines (run bs lines) := by
  have h := Inv.fold bs lines [] init ⟨[], [], rfl, Tiling.nil 1, rfl, by simp⟩
  simp only [List.nil_append, List.length_nil, Nat.add_zero] at h
  unfold run
  generalize (lines.zipIdx 1).foldl (fun s (line, n) => step bs s n line) init = s at h ⊢
  dsimp only
  split
  · next he =>
    obtain ⟨a, b, rfl, ht, hbuf, _⟩ := h
    have hb : b = [] := by rw [← hbuf, List.isEmpty_iff.mp he]; rfl
    subst hb
    simpa using ht
  · next he =>
    obtain ⟨a, b, hab, ht, hbuf, _⟩ :=
      h.flush (by simpa using he) (if s.inDecl then .function else .raw)
    have hb : b = [] := by rw [← hbuf]; rfl
    subst hb
    rw [List.append_nil] at hab
    subst hab
    exact ht

end DeclSplit

/-! ## Splitting by size -/

namespace SizeSplit

/-- After the lines `pre` of a run numbered from `first`: the closed chunks tile a leading
run `a`, and the buffer holds the rest `b`, from the line after `a` on. -/
def Inv (first : Nat) (pre : List (List Char)) (s : SizeSplit) : Prop :=
  ∃ a b, pre = a ++ b ∧ Tiling first a s.done.reverse ∧ s.buffer = b.flatten ∧
    (b ≠ [] → s.start = first + a.length)

/-- The state after a buffer over budget is cut at its break point: the part before becomes a
chunk, the rest stays with its estimate `t`. -/
def cutState (s : SizeSplit) (t : Int) : SizeSplit :=
  let cut := findBreakPoint s.buffer
  let cut := if cut == 0 then s.buffer.length else cut
  let emitted := s.buffer.take cut
  let k := lineFeeds emitted
  ⟨⟨.block, "", s.start, s.start + k - 1, 0, emitted⟩ :: s.done, s.buffer.drop cut, s.start + k, t⟩

/-- Line `n` joins the buffer with its estimate. -/
def push (s : SizeSplit) (n : Nat) (line : List Char) (lineTokens : Int) : SizeSplit :=
  ⟨s.done, s.buffer ++ line, if s.buffer.isEmpty then n else s.start, s.tokens + lineTokens⟩

/-- Cutting a non-empty buffer of lines that each end in a line feed keeps the invariant. -/
theorem Inv.cutState {first : Nat} {pre : List (List Char)} {s : SizeSplit}
    (h : Inv first pre s) (hpre : IsLines pre) (hterm : ∀ l ∈ pre, Terminated l)
    (hne : s.buffer ≠ []) (t : Int) : Inv first pre (cutState s t) := by
  obtain ⟨a, b, rfl, ht, hbuf, hstart⟩ := h
  have hb : b ≠ [] := by
    rintro rfl
    exact hne hbuf
  obtain ⟨E, R, rfl, hE, htake, hdrop⟩ := cut_lines (IsLines.of_append hpre).2 hb
  have hfeeds : lineFeeds E.flatten = E.length :=
    lineFeeds_flatten fun l hl => hterm l (by simp [hl])
  have hlen : 0 < E.length := List.length_pos_iff.mpr hE
  unfold SizeSplit.cutState
  dsimp only
  rw [hbuf, htake, hdrop, hfeeds]
  refine ⟨a ++ E, R, by simp, ?_, rfl, fun _ => ?_⟩
  · rw [List.reverse_cons]
    refine ht.append (Tiling.single hE (hstart hb) ?_ rfl)
    dsimp only
    rw [hstart hb]
    omega
  · rw [hstart hb, List.length_append, Nat.add_assoc]

/-- Adding line `first + pre.length` to the buffer keeps the invariant. -/
theorem Inv.push {first : Nat} {pre : List (List Char)} {s : SizeSplit} (h : Inv first pre s)
    (hpre : ∀ l ∈ pre, l ≠ []) (line : List Char) (lineTokens : Int) :
    Inv first (pre ++ [line]) (push s (first + pre.length) line lineTokens) := by
  obtain ⟨a, b, rfl, ht, hbuf, hstart⟩ := h
  refine ⟨a, b ++ [line], by simp, ht, by simp [SizeSplit.push, hbuf], fun _ => ?_⟩
  by_cases hb : b = []
  · subst hb
    simp [SizeSplit.push, hbuf]
  · have hne : s.buffer.isEmpty = false := by
      obtain ⟨l, ls, rfl⟩ := List.exists_cons_of_ne_nil hb
      have hl : l ≠ [] := hpre l (by simp)
      simp [hbuf, hl]
    simp [SizeSplit.push, hne, hstart hb]

/-- Reading line `first + pre.length`, with more lines possibly after it, keeps the invariant
unless the estimator fails. -/
theorem Inv.step {c : Chunker} {first : Nat} {pre rest : List (List Char)} {s : SizeSplit}
    {line : List Char} (h : Inv first pre s) (hlines : IsLines (pre ++ line :: rest)) :
    Estimated c.estimator (Inv first (pre ++ [line])) (c.sizeStep s (first + pre.length) line) := by
  have hterm : ∀ l ∈ pre, Terminated l := hlines.terminated_of_append (List.cons_ne_nil _ _)
  have hpre : IsLines pre := (IsLines.of_append hlines).1
  unfold Chunker.sizeStep
  refine Estimated.bind (Estimated.estimate _) fun lineTokens _ => ?_
  dsimp only
  split
  · next hc =>
    have hne : s.buffer ≠ [] := by
      simpa using (Bool.and_eq_true_iff.mp hc).2
    refine Estimated.bind (Estimated.estimate _) fun t _ => ?_
    exact Estimated.of_pure ((h.cutState hpre hterm hne t).push hpre.ne_nil line lineTokens)
  · exact Estimated.of_pure (h.push hpre.ne_nil line lineTokens)

/-- Reading the lines `rest` after `pre` keeps the invariant unless the estimator fails. -/
theorem Inv.fold (c : Chunker) (first : Nat) : ∀ (rest pre : List (List Char)) (s : SizeSplit),
    IsLines (pre ++ rest) → Inv first pre s →
      Estimated c.estimator (Inv first (pre ++ rest))
        ((rest.zipIdx (first + pre.length)).foldlM (fun s (line, n) => c.sizeStep s n line) s)
  | [], pre, s, _, h => Estimated.of_pure (by simpa using h)
  | line :: rest, pre, s, hlines, h => by
    rw [List.zipIdx_cons, List.foldlM_cons]
    refine Estimated.bind (h.step hlines) fun s' h' => ?_
    have hrest := Inv.fold c first rest (pre ++ [line]) s' (by simpa using hlines) h'
    simpa [Nat.add_assoc] using hrest

end SizeSplit

/-- Splitting lines by size tiles them from `first`, unless the estimator fails. -/
theorem Chunker.splitBySize_tiling (c : Chunker) {lines : List (List Char)} (hlines : IsLines lines)
    (first : Nat) : Estimated c.estimator (Tiling first lines) (c.splitBySize lines first) := by
  have hinit : SizeSplit.Inv first [] ⟨[], [], first, 0⟩ :=
    ⟨[], [], rfl, Tiling.nil first, rfl, by simp⟩
  have hfold := SizeSplit.Inv.fold c first lines [] _ (by simpa using hlines) hinit
  simp only [List.nil_append, List.length_nil, Nat.add_zero] at hfold
  unfold Chunker.splitBySize
  refine Estimated.bind hfold fun s h => Estimated.of_pure ?_
  obtain ⟨a, b, rfl, ht, hbuf, hstart⟩ := h
  split
  · next he =>
    have hb : b = [] := by
      rcases List.eq_nil_or_concat b with hb | ⟨b', l, rfl⟩
      · exact hb
      · have hl : l ≠ [] := (IsLines.of_append hlines).2.ne_nil l (by simp)
        simp [hbuf, hl] at he
    subst hb
    simpa using ht
  · next he =>
    have hb : b ≠ [] := by
      rintro rfl
      simp [hbuf] at he
    have hlen : 0 < b.length := List.length_pos_iff.mpr hb
    rw [List.reverse_cons]
    refine ht.append (Tiling.single hb (hstart hb) ?_ hbuf)
    dsimp only
    simp only [List.length_append]
    omega

/-! ## Re-splitting, and the whole chunker -/

/-- Re-splitting every chunk over budget keeps a tiling of lines: a chunk's lines are read back
from its content and split by size from its first line, and renaming the pieces keeps them in
place. -/
theorem Chunker.enforceBudget_tiling (c : Chunker) {first : Nat} {L : List (List Char)}
    {cs : List Chunk} (h : Tiling first L cs) (hL : IsLines L) :
    Estimated c.estimator (Tiling first L) (c.enforceBudget cs) := by
  induction h with
  | nil first => exact Estimated.of_pure (Tiling.nil first)
  | @cons first ls rest ch cs hne hs he hc hrest ih =>
    obtain ⟨hls, hrestL⟩ := IsLines.of_append hL
    have hhead : Estimated c.estimator (Tiling first ls)
        (do
          if c.maxTokens.fits (← c.estimate ch.content) then return [ch]
          let pieces ← c.splitBySize (splitKeepEnds ch.content) ch.startLine
          return pieces.map ({ · with name := ch.name })) := by
      refine Estimated.bind (Estimated.estimate _) fun t _ => ?_
      split
      · exact Estimated.of_pure (Tiling.single hne hs he hc)
      · rw [hc, splitKeepEnds_flatten hls, hs]
        refine Estimated.bind (c.splitBySize_tiling hls first) fun pieces hp => ?_
        exact Estimated.of_pure (hp.of_span (by simp [Chunk.span]))
    unfold Chunker.enforceBudget
    rw [List.flatMapM_cons]
    refine Estimated.bind hhead fun bs hbs => ?_
    refine Estimated.bind (ih hrestL) fun bs' hbs' => Estimated.of_pure ?_
    exact hbs.append hbs'

/-- The chunks of a text before their token counts tile its lines from line 1, unless the
estimator fails. -/
theorem Chunker.split_tiling (c : Chunker) (text : List Char) :
    Estimated c.estimator (Tiling 1 (splitKeepEnds text)) (c.split text) := by
  have hlines := (splitKeepEnds_spec text).1
  have hrun := DeclSplit.run_tiling c.boundaries (splitKeepEnds text)
  unfold Chunker.split
  dsimp only
  generalize DeclSplit.run c.boundaries (splitKeepEnds text) = chunks at hrun ⊢
  have hdecl : Estimated c.estimator (Tiling 1 (splitKeepEnds text))
      (if c.strict = true then c.enforceBudget chunks else pure chunks) := by
    split
    · exact c.enforceBudget_tiling hrun hlines
    · exact Estimated.of_pure hrun
  split
  · exact c.splitBySize_tiling hlines 1
  · refine Estimated.bind (Estimated.estimate _) fun t _ => ?_
    split
    · exact c.splitBySize_tiling hlines 1
    · exact hdecl
  · exact hdecl

/-- Setting token counts changes no line range and no content. -/
theorem Chunker.mapM_tokenCount_span (c : Chunker) (cs : List Chunk) :
    Estimated c.estimator (fun cs' => cs'.map Chunk.span = cs.map Chunk.span)
      (cs.mapM fun ch => do return { ch with tokenCount := ← c.estimate ch.content }) := by
  induction cs with
  | nil => exact Estimated.of_pure rfl
  | cons ch cs ih =>
    rw [List.mapM_cons]
    refine Estimated.bind (Estimated.bind (Estimated.estimate _) fun t _ =>
      Estimated.of_pure (P := fun ch' : Chunk => ch'.span = ch.span) rfl) fun ch' hch => ?_
    refine Estimated.bind ih fun cs' hcs => Estimated.of_pure ?_
    simp [hch, hcs]

/-- Whatever the budget, the language tag, the strictness and the estimator, the chunks of a
text partition its lines kept with their line feeds, unless the estimator itself fails on some
text. -/
theorem Chunker.chunk_partitions_lines (maxTokens : Quantity) (language : String) (est : Estimator)
    (strict : Bool) (text : List Char) :
    (∃ cs, (Chunker.make maxTokens language est strict).chunk text = .ok cs ∧
      LinePartition text cs) ∨
    (∃ e t, (Chunker.make maxTokens language est strict).chunk text = .error e ∧
      est.estimate t = .error e) := by
  have h : Estimated est (Tiling 1 (splitKeepEnds text))
      ((Chunker.make maxTokens language est strict).chunk text) := by
    unfold Chunker.chunk
    refine Estimated.bind (Chunker.split_tiling _ text) fun chunks ht => ?_
    exact (Chunker.mapM_tokenCount_span _ chunks).mono fun cs' hs => ht.of_span hs
  cases hr : (Chunker.make maxTokens language est strict).chunk text with
  | ok cs =>
    rw [hr] at h
    exact Or.inl ⟨cs, rfl, Tiling.linePartition h⟩
  | error e =>
    rw [hr] at h
    obtain ⟨t, ht⟩ := h
    exact Or.inr ⟨e, t, rfl, ht⟩

end ReviewPrep
