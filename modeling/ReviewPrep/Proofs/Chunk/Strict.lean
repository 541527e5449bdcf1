import ReviewPrep.Proofs.Chunk.Partition
import ReviewPrep.Proofs.Tokens.Infix
import Mathlib.Data.List.Forall2

/-!
# Strict mode refines the default mode

Strict mode differs in one place: after splitting along declarations it splits by size every
chunk over budget. So the strict chunks are the default chunks, each kept or replaced in place by
blocks under its name that hold its content and partition its lines
(`Chunker.strict_refines_default`). Both modes fail alike, since every part that re-splitting
estimates is an infix of a chunk whose estimate has a value (`Tokens.estimate_ok_mono`).
-/

namespace ReviewPrep

open Tokens

/-! ## Outcomes of two runs -/

@[simp] theorem ok_bind {ε α β : Type} (a : α) (f : α → Except ε β) :
    (Except.ok a >>= f) = f a := rfl

@[simp] theorem error_bind {ε α β : Type} (e : ε) (f : α → Except ε β) :
    (Except.error e >>= f) = Except.error e := rfl

/-- Two outcomes agree: both fail with the same fault, or both have values related by `R`. -/
def Agree {ε α β : Type} (R : α → β → Prop) : Except ε α → Except ε β → Prop
  | .error e, .error e' => e = e'
  | .ok a, .ok b => R a b
  | _, _ => False

namespace Agree

variable {ε α β γ δ : Type} {R : α → β → Prop}

/-- An outcome agrees with itself where `R` relates every value to itself. -/
theorem refl {R : α → α → Prop} (hR : ∀ a, R a a) (x : Except ε α) : Agree R x x := by
  cases x with
  | error e => rfl
  | ok a => exact hR a

/-- Agreement under a weaker relation. -/
theorem imp {R' : α → β → Prop} {x : Except ε α} {y : Except ε β} (h : Agree R x y)
    (hR : ∀ a b, R a b → R' a b) : Agree R' x y := by
  cases x with
  | error e =>
    cases y with
    | error e' => exact h
    | ok b => exact h.elim
  | ok a =>
    cases y with
    | error e' => exact h.elim
    | ok b => exact hR a b h

/-- Agreeing outcomes agree after mapping both values. -/
theorem map {R' : γ → δ → Prop} {x : Except ε α} {y : Except ε β} (h : Agree R x y)
    {f : α → γ} {g : β → δ} (hfg : ∀ a b, R a b → R' (f a) (g b)) :
    Agree R' (x >>= fun a => pure (f a)) (y >>= fun b => pure (g b)) := by
  cases x with
  | error e =>
    cases y with
    | error e' => exact h
    | ok b => exact h.elim
  | ok a =>
    cases y with
    | error e' => exact h.elim
    | ok b => exact hfg a b h

/-- Agreeing outcomes fail with one fault, or have related values. -/
theorem eq_or {x : Except ε α} {y : Except ε β} (h : Agree R x y) :
    (∃ e, x = .error e ∧ y = .error e) ∨ ∃ a b, x = .ok a ∧ y = .ok b ∧ R a b := by
  cases x with
  | error e =>
    cases y with
    | error e' => exact Or.inl ⟨e, rfl, congrArg Except.error h.symm⟩
    | ok b => exact h.elim
  | ok a =>
    cases y with
    | error e' => exact h.elim
    | ok b => exact Or.inr ⟨a, b, rfl, rfl, h⟩

end Agree

/-! ## Replacing a chunk -/

/-- A non-empty run of blocks under the name of `c` that hold its content and whose line ranges
partition those of `c`. -/
structure Replaces (c : Chunk) (run : List Chunk) : Prop where
  /-- The run is not empty. -/
  ne_nil : run ≠ []
  /-- Each piece is a block under the name of `c`. -/
  block : ∀ p ∈ run, p.kind = .block ∧ p.name = c.name
  /-- The contents concatenate to that of `c`. -/
  flatten_content : (run.map (·.content)).flatten = c.content
  /-- The first piece starts on the first line of `c`. -/
  head_start : ∀ p ∈ run.head?, p.startLine = c.startLine
  /-- Each next piece starts on the line after the previous one ends. -/
  succ_start : ∀ (i : Nat) (hi : i + 1 < run.length),
    (run.get ⟨i + 1, hi⟩).startLine = (run.get ⟨i, Nat.lt_of_succ_lt hi⟩).endLine + 1
  /-- The last piece ends on the last line of `c`. -/
  last_end : ∀ p ∈ run.getLast?, p.endLine = c.endLine
  /-- No piece ends before it starts. -/
  start_le_end : ∀ p ∈ run, p.startLine ≤ p.endLine

/-- A run that tiles the lines of a chunk from its first line, all blocks under its name,
replaces it. -/
theorem Replaces.of_tiling {c : Chunk} {ls : List (List Char)} {run : List Chunk}
    (h : Tiling c.startLine ls run) (hne : ls ≠ []) (hend : c.endLine + 1 = c.startLine + ls.length)
    (hc : c.content = ls.flatten) (hblock : ∀ p ∈ run, p.kind = .block ∧ p.name = c.name) :
    Replaces c run where
  ne_nil hr := hne (h.eq_nil_iff.mp hr)
  block := hblock
  flatten_content := by rw [h.flatten_content, hc]
  head_start := h.head_start
  succ_start i hi := h.succ_start i hi
  last_end p hp := by
    have := h.getLast?_end p hp
    omega
  start_le_end p hp := (h.mem p hp).2.1

/-- What strict mode makes of a chunk `d` of the default mode outside the fallback: `d` itself
when its estimate fits the budget, a run that replaces it when not. -/
def Resplit (est : Estimator) (budget : Quantity) (d : Chunk) (run : List Chunk) : Prop :=
  ∃ n, est.estimate d.content = .ok n ∧ (budget.fits n = true → run = [d]) ∧
    (budget.fits n = false → Replaces d run)

/-- What strict mode makes of a chunk `d` of the default mode: after the fallback, `d` itself;
otherwise what `Resplit` says. -/
def StrictRun (est : Estimator) (budget : Quantity) (fallback : Prop) (d : Chunk)
    (run : List Chunk) : Prop :=
  (fallback → run = [d]) ∧ (¬fallback → Resplit est budget d run)

/-- The chunks `s` are the chunks `ds`, each replaced in place by a run that `P` allows. -/
def InPlace (P : Chunk → List Chunk → Prop) (ds s : List Chunk) : Prop :=
  ∃ runs, s = runs.flatten ∧ List.Forall₂ P ds runs

namespace InPlace

variable {P Q : Chunk → List Chunk → Prop}

theorem nil : InPlace P [] [] := ⟨[], rfl, .nil⟩

theorem cons {d : Chunk} {run ds s : List Chunk} (h : P d run) (hs : InPlace P ds s) :
    InPlace P (d :: ds) (run ++ s) := by
  obtain ⟨runs, rfl, hf⟩ := hs
  exact ⟨run :: runs, rfl, .cons h hf⟩

theorem imp {ds s : List Chunk} (h : InPlace P ds s) (hPQ : ∀ d run, P d run → Q d run) :
    InPlace Q ds s := by
  obtain ⟨runs, rfl, hf⟩ := h
  exact ⟨runs, rfl, hf.imp fun d run => hPQ d run⟩

/-- Where `P` allows keeping every chunk, the chunks replace themselves in place. -/
theorem self (hP : ∀ d, P d [d]) : ∀ ds : List Chunk, InPlace P ds ds
  | [] => nil
  | d :: ds => cons (hP d) (self hP ds)

end InPlace

namespace Chunker

/-! ## Token counts -/

/-- A chunk with its token count set, as the chunker sets it. -/
def counted (c : Chunker) (ch : Chunk) : Except TokenFault Chunk := do
  return { ch with tokenCount := ← c.estimate ch.content }

theorem chunk_eq_bind (c : Chunker) (text : List Char) :
    c.chunk text = c.split text >>= fun chunks => chunks.mapM c.counted := rfl

theorem counted_of_estimate {c : Chunker} {ch : Chunk} {n : Int}
    (h : c.estimate ch.content = .ok n) : c.counted ch = .ok { ch with tokenCount := n } := by
  simp only [counted, h, ok_bind]
  rfl

/-- A chunk without its token count. -/
def uncounted (ch : Chunk) : Chunk := { ch with tokenCount := 0 }

/-- Setting token counts succeeds where every content has an estimate, and changes only the
counts. -/
theorem mapM_counted_ok (c : Chunker) : ∀ {cs : List Chunk},
    (∀ ch ∈ cs, ∃ n, c.estimate ch.content = .ok n) →
      ∃ cs', cs.mapM c.counted = .ok cs' ∧ cs'.map uncounted = cs.map uncounted
  | [], _ => ⟨[], rfl, rfl⟩
  | ch :: cs, h => by
    obtain ⟨n, hn⟩ := h ch (List.mem_cons_self ..)
    obtain ⟨cs', hcs, hmap⟩ := mapM_counted_ok c fun ch' hch' => h ch' (List.mem_cons_of_mem _ hch')
    refine ⟨{ ch with tokenCount := n } :: cs', ?_, ?_⟩
    · rw [List.mapM_cons, counted_of_estimate hn, ok_bind, hcs, ok_bind]
      rfl
    · simp only [List.map_cons, hmap]
      rfl

/-! ## Splitting by size -/

end Chunker

namespace SizeSplit

/-- Every chunk closed so far is a block. -/
def Blocks (s : SizeSplit) : Prop := ∀ p ∈ s.done, p.kind = .block

/-- A step of the split by size closes only blocks, unless the estimator fails. -/
theorem sizeStep_blocks (c : Chunker) {s : SizeSplit} (hb : s.Blocks) (n : Nat)
    (line : List Char) : Estimated c.estimator Blocks (c.sizeStep s n line) := by
  unfold Chunker.sizeStep
  refine Estimated.bind (Estimated.estimate _) fun k _ => ?_
  split
  · refine Estimated.bind (Estimated.estimate _) fun t _ => Estimated.of_pure (P := Blocks) ?_
    intro p hp
    rcases List.mem_cons.mp hp with rfl | hp
    · rfl
    · exact hb p hp
  · exact Estimated.of_pure (P := Blocks) hb

/-- Reading lines by size closes only blocks, unless the estimator fails. -/
theorem fold_blocks (c : Chunker) :
    ∀ (xs : List (List Char × Nat)) (s : SizeSplit), s.Blocks →
      Estimated c.estimator Blocks (xs.foldlM (fun s (line, n) => c.sizeStep s n line) s)
  | [], s, hb => Estimated.of_pure hb
  | (line, n) :: xs, s, hb => by
    rw [List.foldlM_cons]
    exact Estimated.bind (sizeStep_blocks c hb n line) fun s' hs' => fold_blocks c xs s' hs'

/-- A step succeeds where the line and the buffer lie in a text all of whose parts have
estimates. -/
theorem sizeStep_ok {c : Chunker} {T : List Char}
    (hT : ∀ t, t <:+: T → ∃ n, c.estimate t = .ok n) {s : SizeSplit} (hbuf : s.buffer <:+: T)
    (n : Nat) {line : List Char} (hline : line <:+: T) :
    ∃ s', c.sizeStep s n line = .ok s' := by
  have hdrop : Text.dropRightOf ['\n'] line <:+: T :=
    ((List.dropWhile_suffix _).reverse.isInfix.trans (by rw [List.reverse_reverse]; exact hline))
  obtain ⟨k, hk⟩ := hT _ hdrop
  unfold Chunker.sizeStep
  simp only [hk, ok_bind]
  split
  · generalize (if findBreakPoint s.buffer == 0 then s.buffer.length else findBreakPoint s.buffer) = cut
    obtain ⟨t, ht⟩ := hT (s.buffer.drop cut) ((List.drop_suffix cut s.buffer).isInfix.trans hbuf)
    simp only [ht, ok_bind]
    exact ⟨_, rfl⟩
  · exact ⟨_, rfl⟩

/-- Reading the lines `rest` after `pre` succeeds where every part of a text holding all the
lines has an estimate. -/
theorem fold_ok (c : Chunker) (first : Nat) {T : List Char}
    (hT : ∀ t, t <:+: T → ∃ n, c.estimate t = .ok n) :
    ∀ (rest pre : List (List Char)) (s : SizeSplit), IsLines (pre ++ rest) →
      (pre ++ rest).flatten <:+: T → Inv first pre s →
      ∃ s', (rest.zipIdx (first + pre.length)).foldlM (fun s (line, n) => c.sizeStep s n line) s
        = .ok s'
  | [], _, s, _, _, _ => ⟨s, rfl⟩
  | line :: rest, pre, s, hlines, hflat, h => by
    have hbuf : s.buffer <:+: T := by
      obtain ⟨a, b, rfl, -, hbuf, -⟩ := h
      rw [hbuf]
      refine List.IsInfix.trans ?_ hflat
      exact ⟨a.flatten, (line :: rest).flatten, by simp⟩
    have hline : line <:+: T :=
      (List.infix_of_mem_flatten (by simp)).trans hflat
    obtain ⟨s', hstep⟩ := sizeStep_ok hT hbuf (first + pre.length) hline
    have hinv : Inv first (pre ++ [line]) s' := by
      have := h.step (c := c) hlines
      rwa [hstep] at this
    rw [List.zipIdx_cons, List.foldlM_cons]
    simp only [hstep, ok_bind]
    have hrest := fold_ok c first hT rest (pre ++ [line]) s' (by simpa using hlines)
      (by simpa using hflat) hinv
    simpa [Nat.add_assoc] using hrest

end SizeSplit

namespace Chunker

/-- Splitting lines by size gives blocks, unless the estimator fails. -/
theorem splitBySize_blocks (c : Chunker) (lines : List (List Char)) (first : Nat) :
    Estimated c.estimator (fun ps => ∀ p ∈ ps, p.kind = .block) (c.splitBySize lines first) := by
  unfold splitBySize
  refine Estimated.bind (SizeSplit.fold_blocks c _ _ fun _ h => nomatch h) fun s hb =>
    Estimated.of_pure ?_
  intro p hp
  rw [List.mem_reverse] at hp
  split at hp
  · exact hb p hp
  · rcases List.mem_cons.mp hp with rfl | hp
    · rfl
    · exact hb p hp

/-- Splitting lines by size succeeds where every part of their text has an estimate, and gives
blocks. -/
theorem splitBySize_ok (c : Chunker) {lines : List (List Char)} (hlines : IsLines lines)
    (first : Nat) (hT : ∀ t, t <:+: lines.flatten → ∃ n, c.estimate t = .ok n) :
    ∃ pieces, c.splitBySize lines first = .ok pieces ∧ ∀ p ∈ pieces, p.kind = .block := by
  have hinit : SizeSplit.Inv first [] ⟨[], [], first, 0⟩ :=
    ⟨[], [], rfl, Tiling.nil first, rfl, by simp⟩
  obtain ⟨s, hfold⟩ := SizeSplit.fold_ok c first hT lines [] _ (by simpa using hlines)
    (by simp) hinit
  simp only [List.length_nil, Nat.add_zero] at hfold
  have hok : ∃ pieces, c.splitBySize lines first = .ok pieces := by
    unfold Chunker.splitBySize
    rw [hfold, ok_bind]
    exact ⟨_, rfl⟩
  obtain ⟨pieces, hp⟩ := hok
  have hblocks := c.splitBySize_blocks lines first
  rw [hp] at hblocks
  exact ⟨pieces, hp, hblocks⟩

/-! ## Strict mode on one chunk -/

/-- Strict mode on one chunk: the chunk itself when its estimate fits the budget, its pieces by
size under its name when not. -/
def resplit (c : Chunker) (ch : Chunk) : Except TokenFault (List Chunk) := do
  if c.maxTokens.fits (← c.estimate ch.content) then return [ch]
  let pieces ← c.splitBySize (splitKeepEnds ch.content) ch.startLine
  return pieces.map ({ · with name := ch.name })

theorem enforceBudget_cons (c : Chunker) (ch : Chunk) (cs : List Chunk) :
    c.enforceBudget (ch :: cs) = (do
      let a ← c.resplit ch
      let b ← c.enforceBudget cs
      return a ++ b) := by
  unfold enforceBudget
  rw [List.flatMapM_cons]
  rfl

/-- Pieces that tile the lines of a chunk from its first line, all blocks, replace the chunk once
renamed to it and counted: counting and renaming change no line range and no content. -/
theorem replaces_of_pieces {ch : Chunk} {ls : List (List Char)} {pieces run : List Chunk}
    {n : Int} (htile : Tiling ch.startLine ls pieces) (hblock : ∀ p ∈ pieces, p.kind = .block)
    (hne : ls ≠ []) (hend : ch.endLine + 1 = ch.startLine + ls.length) (hc : ch.content = ls.flatten)
    (hmap : run.map uncounted = (pieces.map ({ · with name := ch.name })).map uncounted) :
    Replaces { ch with tokenCount := n } run := by
  have hspan : run.map Chunk.span = pieces.map Chunk.span := by
    calc run.map Chunk.span = (run.map uncounted).map Chunk.span := by
          rw [List.map_map]
          rfl
      _ = ((pieces.map ({ · with name := ch.name })).map uncounted).map Chunk.span := by
          rw [hmap]
      _ = pieces.map Chunk.span := by
          simp only [List.map_map]
          rfl
  refine Replaces.of_tiling (htile.of_span hspan) hne hend hc fun p hp => ?_
  have hmem : uncounted p ∈ (pieces.map ({ · with name := ch.name })).map uncounted := by
    rw [← hmap]
    exact List.mem_map_of_mem hp
  obtain ⟨q, hq, hqp⟩ := List.mem_map.mp hmem
  obtain ⟨r, hr, rfl⟩ := List.mem_map.mp hq
  have hkind := congrArg Chunk.kind hqp
  have hname := congrArg Chunk.name hqp
  simp only [uncounted] at hkind hname
  exact ⟨hkind ▸ hblock r hr, hname.symm⟩

/-- Strict mode on a chunk that holds the lines `ls` from its first line to its last and has an
estimate: when the estimate fits, the chunk itself; when not, a run that replaces it. -/
theorem resplit_counted (c : Chunker) {ch : Chunk} {ls : List (List Char)} (hls : IsLines ls)
    (hne : ls ≠ []) (hend : ch.endLine + 1 = ch.startLine + ls.length) (hc : ch.content = ls.flatten)
    {n : Int} (hn : c.estimate ch.content = .ok n) :
    ∃ a run, c.resplit ch = .ok a ∧ a.mapM c.counted = .ok run ∧
      (c.maxTokens.fits n = true → run = [{ ch with tokenCount := n }]) ∧
      (c.maxTokens.fits n = false → Replaces { ch with tokenCount := n } run) := by
  have hT : ∀ t, t <:+: ls.flatten → ∃ m, c.estimate t = .ok m := fun t ht =>
    estimate_ok_mono c.estimator ht (hc ▸ hn)
  cases hfit : c.maxTokens.fits n
  · obtain ⟨pieces, hp, hblock⟩ := c.splitBySize_ok hls ch.startLine hT
    have htile : Tiling ch.startLine ls pieces := by
      have := c.splitBySize_tiling hls ch.startLine
      rwa [hp] at this
    have hres : c.resplit ch = .ok (pieces.map ({ · with name := ch.name })) := by
      simp only [resplit, hn, ok_bind, hfit, Bool.false_eq_true, if_false]
      rw [hc, splitKeepEnds_flatten hls, hp]
      rfl
    have hcontents : ∀ p ∈ pieces.map ({ · with name := ch.name }), ∃ m, c.estimate p.content = .ok m := by
      intro p hp'
      obtain ⟨q, hq, rfl⟩ := List.mem_map.mp hp'
      apply hT
      rw [← htile.flatten_content]
      have hmem : q.content ∈ pieces.map (·.content) := List.mem_map_of_mem hq
      exact List.infix_of_mem_flatten hmem
    obtain ⟨run, hrun, hmap⟩ := c.mapM_counted_ok hcontents
    refine ⟨_, run, hres, hrun, ?_, fun _ => replaces_of_pieces htile hblock hne hend hc hmap⟩
    intro h
    cases h
  · refine ⟨[ch], [{ ch with tokenCount := n }], ?_, ?_, fun _ => rfl, ?_⟩
    · simp only [resplit, hn, ok_bind, hfit, if_true]
      rfl
    · rw [List.mapM_cons, counted_of_estimate hn, ok_bind]
      rfl
    · intro h
      cases h

/-- Over chunks that tile whole lines, strict mode agrees with the default mode chunk by chunk:
both fail on the first chunk whose estimate fails, or each chunk is re-split as `Resplit`
says. -/
theorem enforceBudget_agree (c : Chunker) {first : Nat} {L : List (List Char)} {cs : List Chunk}
    (h : Tiling first L cs) (hL : IsLines L) :
    Agree (InPlace (Resplit c.estimator c.maxTokens))
      (cs.mapM c.counted) (c.enforceBudget cs >>= fun cs' => cs'.mapM c.counted) := by
  induction h with
  | nil first => exact InPlace.nil
  | @cons first ls rest ch cs hne hs he hc hrest ih =>
    obtain ⟨hls, hrestL⟩ := IsLines.of_append hL
    rw [List.mapM_cons, enforceBudget_cons]
    cases hn : c.estimate ch.content with
    | error e =>
      have hD : c.counted ch = .error e := by simp only [counted, hn, error_bind]
      have hS : c.resplit ch = .error e := by simp only [resplit, hn, error_bind]
      rw [hD, hS]
      rfl
    | ok n =>
      obtain ⟨a, run, hres, hrun, hfits, hrepl⟩ := c.resplit_counted hls hne (hs ▸ he) hc hn
      have hD : (do
          let d ← c.counted ch
          let ds ← cs.mapM c.counted
          pure (d :: ds)) = cs.mapM c.counted >>= fun ds => pure ({ ch with tokenCount := n } :: ds) := by
        rw [counted_of_estimate hn, ok_bind]
      have hS : ((do
          let a ← c.resplit ch
          let b ← c.enforceBudget cs
          pure (a ++ b)) >>= fun cs' => cs'.mapM c.counted) =
          (c.enforceBudget cs >>= fun cs' => cs'.mapM c.counted) >>= fun s => pure (run ++ s) := by
        simp only [hres, ok_bind, bind_assoc, pure_bind, List.mapM_append, hrun]
      rw [hD, hS]
      exact (ih hrestL).map fun ds s hs' => hs'.cons ⟨n, hn, hfits, hrepl⟩

/-! ## The two modes -/

/-- Whether the chunker falls back to splitting the whole text by size: the declarations give no
chunk, or a single one whose estimate is over budget. -/
def FallsBack (c : Chunker) (text : List Char) : Prop :=
  DeclSplit.run c.boundaries (splitKeepEnds text) = [] ∨
    ∃ only n, DeclSplit.run c.boundaries (splitKeepEnds text) = [only] ∧
      c.estimate only.content = .ok n ∧ c.maxTokens.exceededBy n = true

theorem split_of_run_nil (c : Chunker) {text : List Char}
    (h : DeclSplit.run c.boundaries (splitKeepEnds text) = []) :
    c.split text = c.splitBySize (splitKeepEnds text) 1 := by
  unfold split
  simp only [h]

theorem split_of_run_single (c : Chunker) {text : List Char} {only : Chunk}
    (h : DeclSplit.run c.boundaries (splitKeepEnds text) = [only]) :
    c.split text = c.estimate only.content >>= fun n =>
      if c.maxTokens.exceededBy n then c.splitBySize (splitKeepEnds text) 1
      else if c.strict then c.enforceBudget [only] else pure [only] := by
  unfold split
  simp only [h]

theorem split_of_run_cons_cons (c : Chunker) {text : List Char} {a b : Chunk} {rest : List Chunk}
    (h : DeclSplit.run c.boundaries (splitKeepEnds text) = a :: b :: rest) :
    c.split text = if c.strict then c.enforceBudget (a :: b :: rest) else pure (a :: b :: rest) := by
  unfold split
  simp only [h]

/-- Several declaration chunks never fall back. -/
theorem not_fallsBack_of_run_cons_cons {c : Chunker} {text : List Char} {a b : Chunk}
    {rest : List Chunk} (h : DeclSplit.run c.boundaries (splitKeepEnds text) = a :: b :: rest) :
    ¬c.FallsBack text := by
  rintro (h' | ⟨only, n, h', -⟩)
  · simp [h] at h'
  · simp [h] at h'

/-- A single declaration chunk within budget does not fall back. -/
theorem not_fallsBack_of_run_single {c : Chunker} {text : List Char} {only : Chunk} {n : Int}
    (h : DeclSplit.run c.boundaries (splitKeepEnds text) = [only])
    (hn : c.estimate only.content = .ok n) (hex : c.maxTokens.exceededBy n = false) :
    ¬c.FallsBack text := by
  rintro (h' | ⟨only', n', h', hn', hex'⟩)
  · simp [h] at h'
  · rw [h, List.cons.injEq] at h'
    rw [← h'.1, hn, Except.ok.injEq] at hn'
    rw [← hn', hex] at hex'
    exact Bool.false_ne_true hex'

/-- After the fallback both modes give one outcome, and strict mode keeps every chunk. -/
theorem agree_of_fallsBack {est : Estimator} {budget : Quantity} {F : Prop} (hF : F)
    (x : Except TokenFault (List Chunk)) : Agree (InPlace (StrictRun est budget F)) x x :=
  Agree.refl (InPlace.self fun _ => ⟨fun _ => rfl, fun h => absurd hF h⟩) x

/-- Outside the fallback, strict mode re-splits the declaration chunks, which tile the lines. -/
theorem agree_of_not_fallsBack (c : Chunker) {F : Prop} (hF : ¬F) {text : List Char}
    {cs : List Chunk} (hcs : DeclSplit.run c.boundaries (splitKeepEnds text) = cs) :
    Agree (InPlace (StrictRun c.estimator c.maxTokens F))
      (cs.mapM c.counted) (c.enforceBudget cs >>= fun cs' => cs'.mapM c.counted) := by
  have htile := DeclSplit.run_tiling c.boundaries (splitKeepEnds text)
  rw [hcs] at htile
  exact (c.enforceBudget_agree htile (splitKeepEnds_spec text).1).imp fun ds s h =>
    h.imp fun d run hr => ⟨fun hF' => absurd hF' hF, fun _ => hr⟩

/-- The two modes agree: they fail alike, or the strict chunks are the default chunks each
replaced in place as `StrictRun` says. -/
theorem chunk_agree (maxTokens : Quantity) (language : String) (est : Estimator)
    (text : List Char) :
    Agree (InPlace (StrictRun est (maxTokens.positiveOr defaultMaxTokens)
        ((make maxTokens language est false).FallsBack text)))
      ((make maxTokens language est false).chunk text)
      ((make maxTokens language est true).chunk text) := by
  have hsize : (make maxTokens language est true).splitBySize =
      (make maxTokens language est false).splitBySize := rfl
  have hcount : (make maxTokens language est true).counted =
      (make maxTokens language est false).counted := rfl
  have hstrict : (make maxTokens language est false).strict = false ∧
      (make maxTokens language est true).strict = true := ⟨rfl, rfl⟩
  rw [chunk_eq_bind, chunk_eq_bind]
  cases hrun : DeclSplit.run (make maxTokens language est false).boundaries (splitKeepEnds text) with
  | nil =>
    rw [split_of_run_nil _ hrun,
      split_of_run_nil (make maxTokens language est true) hrun, hsize, hcount]
    exact agree_of_fallsBack (Or.inl hrun) _
  | cons only rest =>
    cases rest with
    | nil =>
      rw [split_of_run_single _ hrun,
        split_of_run_single (make maxTokens language est true) hrun]
      cases hn : (make maxTokens language est false).estimate only.content with
      | error e =>
        have hn' : (make maxTokens language est true).estimate only.content = .error e := hn
        rw [hn']
        rfl
      | ok n =>
        have hn' : (make maxTokens language est true).estimate only.content = .ok n := hn
        rw [hn', ok_bind, ok_bind]
        cases hex : (make maxTokens language est false).maxTokens.exceededBy n
        · have hex' : (make maxTokens language est true).maxTokens.exceededBy n = false := hex
          simp only [hex', hstrict, Bool.false_eq_true, if_false, if_true]
          rw [pure_bind, ← hcount]
          exact agree_of_not_fallsBack _ (not_fallsBack_of_run_single hrun hn hex) hrun
        · have hex' : (make maxTokens language est true).maxTokens.exceededBy n = true := hex
          simp only [hex', if_true]
          rw [hsize, hcount]
          exact agree_of_fallsBack (Or.inr ⟨only, n, hrun, hn, hex⟩) _
    | cons b rest =>
      rw [split_of_run_cons_cons _ hrun,
        split_of_run_cons_cons (make maxTokens language est true) hrun]
      simp only [hstrict, Bool.false_eq_true, if_false, if_true]
      rw [pure_bind, ← hcount]
      exact agree_of_not_fallsBack _ (not_fallsBack_of_run_cons_cons hrun) hrun

/-- Strict mode refines the default mode. Whatever the budget, the language tag, the estimator
and the text, both modes fail with the same fault, or the strict chunks are the default chunks,
each replaced in place by a run. After the fallback to splitting the whole text by size, the run
is the chunk itself. Otherwise it is the chunk itself when the chunk's estimate fits the budget
(a budget at most zero taking the default), and when not a non-empty run of blocks under the
chunk's name that hold its content and partition its lines. -/
theorem strict_refines_default (maxTokens : Quantity) (language : String) (est : Estimator)
    (text : List Char) :
    (∃ e, (make maxTokens language est false).chunk text = .error e ∧
      (make maxTokens language est true).chunk text = .error e) ∨
    ∃ ds runs, (make maxTokens language est false).chunk text = .ok ds ∧
      (make maxTokens language est true).chunk text = .ok runs.flatten ∧
      List.Forall₂ (StrictRun est (maxTokens.positiveOr defaultMaxTokens)
        ((make maxTokens language est false).FallsBack text)) ds runs := by
  rcases (chunk_agree maxTokens language est text).eq_or with
    ⟨e, hD, hS⟩ | ⟨ds, s, hD, hS, runs, rfl, hf⟩
  · exact Or.inl ⟨e, hD, hS⟩
  · exact Or.inr ⟨ds, runs, hD, hS, hf⟩

end Chunker

end ReviewPrep
