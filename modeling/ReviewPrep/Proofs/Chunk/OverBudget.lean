import ReviewPrep.Proofs.Chunk.Strict
import ReviewPrep.Proofs.Chunk.Undeclared

/-!
# Chunks over budget in strict mode

Strict mode keeps a chunk whose estimate fits the budget and cuts every other one by size, so a
chunk over a positive budget is always a block cut by size (`Chunker.over_budget_chunk_is_block`).
Such a block need not fit: lines are budgeted without their line feeds and chunks counted with
them, so two short lines can make one block over budget (`Chunker.multiline_chunk_over_budget`).
-/

namespace ReviewPrep

open Tokens

/-- An estimate is an outcome of the estimator whose value is the estimate. -/
theorem Estimated.estimate_eq {est : Estimator} (t : List Char) :
    Estimated est (fun n => est.estimate t = .ok n) (est.estimate t) := by
  cases h : est.estimate t with
  | error e => exact ⟨t, h⟩
  | ok n => rfl

namespace Chunker

/-- A chunk is settled for the budget: it is a block cut by size, or its estimate fits. -/
def Settled (c : Chunker) (ch : Chunk) : Prop :=
  ch.kind = .block ∨ ∃ n, c.estimate ch.content = .ok n ∧ c.maxTokens.fits n = true

/-- Strict mode settles a chunk: kept when it fits, cut into blocks when not. -/
theorem resplit_settled (c : Chunker) (ch : Chunk) :
    Estimated c.estimator (fun ps => ∀ p ∈ ps, c.Settled p) (c.resplit ch) := by
  unfold resplit
  refine Estimated.bind (Estimated.estimate_eq _) fun n hn => ?_
  cases hfit : c.maxTokens.fits n
  · simp only [Bool.false_eq_true, if_false]
    refine Estimated.bind (c.splitBySize_blocks _ _) fun pieces hp => Estimated.of_pure ?_
    intro p hmem
    obtain ⟨q, hq, rfl⟩ := List.mem_map.mp hmem
    exact .inl (hp q hq)
  · simp only [if_true]
    exact Estimated.of_pure fun p hp => by
      rw [List.mem_singleton.mp hp]
      exact .inr ⟨n, hn, hfit⟩

/-- Strict mode settles every chunk. -/
theorem enforceBudget_settled (c : Chunker) (cs : List Chunk) :
    Estimated c.estimator (fun ps => ∀ p ∈ ps, c.Settled p) (c.enforceBudget cs) := by
  induction cs with
  | nil => exact Estimated.of_pure nofun
  | cons ch cs ih =>
    rw [enforceBudget_cons]
    refine Estimated.bind (c.resplit_settled ch) fun a ha => ?_
    exact Estimated.bind ih fun b hb => Estimated.of_pure (List.forall_mem_append.mpr ⟨ha, hb⟩)

/-- A strict chunker settles every chunk of a text before counting: the fallback to splitting by
size gives blocks, and otherwise each declaration chunk is settled on its own. -/
theorem split_settled (c : Chunker) (hs : c.strict = true) (text : List Char) :
    Estimated c.estimator (fun ps => ∀ p ∈ ps, c.Settled p) (c.split text) := by
  have hblocks : Estimated c.estimator (fun ps => ∀ p ∈ ps, c.Settled p)
      (c.splitBySize (splitKeepEnds text) 1) :=
    (c.splitBySize_blocks _ 1).mono fun ps h p hp => .inl (h p hp)
  unfold split
  dsimp only
  split
  · exact hblocks
  · refine Estimated.bind (Estimated.estimate _) fun n _ => ?_
    split
    · exact hblocks
    · exact c.enforceBudget_settled _
  · rw [if_pos hs]
    exact c.enforceBudget_settled _

/-- Counting a settled chunk gives a block, or a chunk whose count fits the budget. -/
theorem counted_settled (c : Chunker) {ch : Chunk} (h : c.Settled ch) :
    Estimated c.estimator (fun p => p.kind = .block ∨ c.maxTokens.fits p.tokenCount = true)
      (c.counted ch) := by
  cases hn : c.estimate ch.content with
  | error e =>
    have he : c.counted ch = .error e := by simp only [counted, hn, error_bind]
    rw [he]
    exact ⟨ch.content, hn⟩
  | ok n =>
    rw [counted_of_estimate hn]
    rcases h with hb | ⟨n', hn', hfit⟩
    · exact .inl hb
    · rw [hn, Except.ok.injEq] at hn'
      exact .inr (hn' ▸ hfit)

/-- Counting settled chunks: each is a block, or its count fits the budget. -/
theorem mapM_counted_settled (c : Chunker) {cs : List Chunk} (h : ∀ p ∈ cs, c.Settled p) :
    Estimated c.estimator
      (fun ps => ∀ p ∈ ps, p.kind = .block ∨ c.maxTokens.fits p.tokenCount = true)
      (cs.mapM c.counted) := by
  induction cs with
  | nil => exact Estimated.of_pure nofun
  | cons ch cs ih =>
    obtain ⟨hch, hcs⟩ := List.forall_mem_cons.mp h
    rw [List.mapM_cons]
    refine Estimated.bind (c.counted_settled hch) fun p hp => ?_
    exact Estimated.bind (ih hcs) fun ps hps =>
      Estimated.of_pure (List.forall_mem_cons.mpr ⟨hp, hps⟩)

/-- In strict mode every chunk is a block cut by size or has a count that fits the budget,
unless the estimator fails. -/
theorem chunk_settled (c : Chunker) (hs : c.strict = true) (text : List Char) :
    Estimated c.estimator
      (fun ps => ∀ p ∈ ps, p.kind = .block ∨ c.maxTokens.fits p.tokenCount = true)
      (c.chunk text) := by
  rw [chunk_eq_bind]
  exact Estimated.bind (c.split_settled hs text) fun _ h => c.mapM_counted_settled h

/-- In strict mode, whatever the language tag, the estimator and the text, every chunk whose
token count is over a positive budget is a block cut by size. -/
theorem over_budget_chunk_is_block (m : Int) (language : String) (est : Estimator)
    (text : List Char) {cs : List Chunk} (hm : 0 < m)
    (h : (make (.whole m) language est true).chunk text = .ok cs) :
    ∀ ch ∈ cs, m < ch.tokenCount → ch.kind = .block := by
  intro ch hch hover
  have hsettled := (make (.whole m) language est true).chunk_settled rfl text
  rw [h] at hsettled
  rcases hsettled ch hch with hb | hfit
  · exact hb
  · have hmax : (make (.whole m) language est true).maxTokens = .whole m := by
      rw [make, Quantity.positiveOr_whole, if_pos hm]
    rw [hmax, Quantity.fits, Quantity.le_whole, decide_eq_true_eq] at hfit
    omega

/-- Two lines of three letters, in a language without its own patterns, with a budget of one
token: one block of both lines, counted two tokens. -/
theorem chunk_twoShortLines :
    (make (.whole 1) "" .standard true).chunk "abc\nabc\n".toList =
      .ok [⟨.block, "", 1, 2, 2, "abc\nabc\n".toList⟩] := by
  have hlines : splitKeepEnds "abc\nabc\n".toList =
      [['a', 'b', 'c', '\n'], ['a', 'b', 'c', '\n']] := by
    decide
  have hnone : DeclSplit.boundaryAt? Boundary.generic ['a', 'b', 'c', '\n'] = none :=
    boundaryAt?_generic_eq_none (by decide) (by decide) (by decide) (by decide)
  have hrun : DeclSplit.run (make (.whole 1) "" .standard true).boundaries
      (splitKeepEnds "abc\nabc\n".toList) = [⟨.raw, "", 1, 2, 0, "abc\nabc\n".toList⟩] := by
    rw [hlines]
    show DeclSplit.run Boundary.generic _ = _
    rw [DeclSplit.run_of_undeclared _ (by simp) (by simp [hnone])]
    decide
  rw [chunk_eq_bind, split_of_run_single _ hrun, hlines]
  decide +kernel

/-- A chunk over budget in strict mode can span several lines: two lines of three letters with a
budget of one token give one chunk of both lines, counted two tokens. -/
theorem multiline_chunk_over_budget :
    ∃ cs, (make (.whole 1) "" .standard true).chunk "abc\nabc\n".toList = .ok cs ∧
      ∃ ch ∈ cs, 1 < ch.tokenCount ∧ ch.startLine < ch.endLine :=
  ⟨_, chunk_twoShortLines, _, List.mem_singleton_self _, by decide, by decide⟩

/-- The chunk of two lines over a budget of one token is a block. -/
theorem over_budget_twoShortLines :
    (0 : Int) < 1 ∧
      (make (.whole 1) "" .standard true).chunk "abc\nabc\n".toList =
        .ok [⟨.block, "", 1, 2, 2, "abc\nabc\n".toList⟩] ∧
      ∀ ch ∈ [(⟨.block, "", 1, 2, 2, "abc\nabc\n".toList⟩ : Chunk)], 1 < ch.tokenCount →
        ch.kind = .block :=
  ⟨by decide, chunk_twoShortLines,
    over_budget_chunk_is_block 1 "" .standard _ (by decide) chunk_twoShortLines⟩

end Chunker

end ReviewPrep
