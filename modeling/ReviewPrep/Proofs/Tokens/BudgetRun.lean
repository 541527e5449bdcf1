import ReviewPrep.Tokens.Budget

/-!
# Runs of a token budget

A budget built from a window and a reserve, or from a model's name, and driven by any sequence of
operations keeps its books (`run_keeps_books`): window and reserve stay as built and positive,
what is used is the sum spent since the last reset, and questions change nothing. The books are
stated without running the budget (`expected`), and one operation takes the budget to the next
(`step_expected`).
-/

namespace ReviewPrep.Tokens.Budget

/-- Whether the operation forgets what was spent. -/
def Op.isReset {α : Type} : Op α → Bool
  | .reset => true
  | _ => false

/-- Whether the operation is a question: whether tokens fit, or what is available. -/
def Op.isQuery {α : Type} : Op α → Bool
  | .canFit _ | .available => true
  | _ => false

/-- The tokens an operation spends: its amount for `use`, nothing for the others. -/
def Op.amount : Op Int → Int
  | .use n => n
  | _ => 0

/-- The operations after the last reset; all of them when there is none. -/
def sinceReset {α : Type} (ops : List (Op α)) : List (Op α) :=
  (ops.reverse.takeWhile fun o => !o.isReset).reverse

/-- The tokens spent since the last reset: the sum of the amounts of the `use` operations after
it. -/
def spentSinceReset (ops : List (Op Int)) : Int :=
  ((sinceReset ops).map Op.amount).foldl (· + ·) 0

/-- The answer the contract gives to an operation when `a` tokens are available: whether the
amount is at most `a`, or `a` itself; nothing for spending and resetting. -/
def Op.answer : Op Int → Int → Reply
  | .canFit n, a => .fits (decide (n ≤ a))
  | .available, a => .available (.whole a)
  | _, _ => .nothing

/-- The budget the contract asks for after the operations `ops`, from window `M` and reserve `R`:
both as built, and as used what was spent since the last reset. -/
def expected (M R : Int) (ops : List (Op Int)) : Budget :=
  ⟨.whole M, .whole R, .whole (spentSinceReset ops)⟩

/-- The run `steps` of the whole-number operations `ops` from `b₀` keeps the books of a budget
with window `M` and reserve `R`. -/
structure KeepsBooks (M R : Int) (b₀ : Budget) (ops : List (Op Int))
    (steps : List (Budget × Reply)) : Prop where
  /-- The window is positive. -/
  window_pos : 0 < M
  /-- The reserve is positive. -/
  reserve_pos : 0 < R
  /-- The run starts from the window and the reserve, with nothing used. -/
  start : b₀ = expected M R []
  /-- One entry per operation. -/
  length_eq : steps.length = ops.length
  /-- After each operation the window and the reserve are as built and what is used is what was
  spent since the last reset; the answer is taken against what was available before it. -/
  entry : ∀ (i : Nat) (o : Op Int), ops[i]? = some o →
    steps[i]? = some (expected M R (ops.take (i + 1)), o.answer (M - R - spentSinceReset (ops.take i)))
  /-- After a question the budget is the budget before it. -/
  query : ∀ (i : Nat) (o : Op Int), ops[i]? = some o → o.isQuery = true →
    steps[i]?.map Prod.fst = (b₀ :: steps.map Prod.fst)[i]?

/-! ## What was spent -/

/-- One more operation: a reset leaves nothing since it, any other joins what came since the
last one. -/
theorem sinceReset_append_singleton {α : Type} (ops : List (Op α)) (o : Op α) :
    sinceReset (ops ++ [o]) = if o.isReset then [] else sinceReset ops ++ [o] := by
  unfold sinceReset
  rw [List.reverse_append, List.reverse_singleton, List.singleton_append, List.takeWhile_cons]
  cases o.isReset <;> simp

/-- One more operation: a reset spends everything back to zero, any other adds its amount. -/
theorem spentSinceReset_append_singleton (ops : List (Op Int)) (o : Op Int) :
    spentSinceReset (ops ++ [o]) = if o.isReset then 0 else spentSinceReset ops + o.amount := by
  unfold spentSinceReset
  rw [sinceReset_append_singleton]
  cases o.isReset <;> simp [List.foldl_append]

@[simp] theorem spentSinceReset_nil : spentSinceReset [] = 0 := rfl

/-- A question spends nothing. -/
theorem spentSinceReset_append_query {ops : List (Op Int)} {o : Op Int} (ho : o.isQuery = true) :
    spentSinceReset (ops ++ [o]) = spentSinceReset ops := by
  rw [spentSinceReset_append_singleton]
  cases o <;> simp_all [Op.isQuery, Op.isReset, Op.amount]

/-! ## One operation, and runs -/

/-- One whole-number operation on the budget the contract asks for after `ops` gives the budget
it asks for after one more, and the answer it asks for. -/
theorem step_expected (M R : Int) (ops : List (Op Int)) (o : Op Int) :
    (expected M R ops).step (o.map .whole) =
      .ok (expected M R (ops ++ [o]), o.answer (M - R - spentSinceReset ops)) := by
  cases o with
  | use n =>
    rw [expected, expected, spentSinceReset_append_singleton]
    rfl
  | canFit n =>
    rw [expected, expected, spentSinceReset_append_query rfl, Op.answer, ← Quantity.le_whole]
    rfl
  | reset =>
    rw [expected, expected, spentSinceReset_append_singleton]
    rfl
  | available =>
    rw [expected, expected, spentSinceReset_append_query rfl]
    rfl

/-- A run from the budget the contract asks for after `pre`: after each operation the budget it
asks for after the operations up to that one, and the answer against what was available before. -/
theorem run_expected (M R : Int) (pre rest : List (Op Int)) :
    (expected M R pre).run (rest.map (Op.map .whole)) =
      .ok (rest.mapIdx fun i o =>
        (expected M R (pre ++ rest.take (i + 1)), o.answer (M - R - spentSinceReset (pre ++ rest.take i)))) := by
  induction rest generalizing pre with
  | nil => rfl
  | cons o rest ih =>
    rw [List.map_cons, run, step_expected]
    show List.cons _ <$> (expected M R (pre ++ [o])).run _ = _
    rw [ih, List.mapIdx_cons]
    simp only [List.append_assoc, List.singleton_append, List.take_succ_cons, List.take_zero,
      List.append_nil]
    rfl

/-- Before operation `i` of a run that goes as the contract asks, the budget is the one the contract
asks for after the operations before it. -/
theorem getElem?_before {M R : Int} {ops : List (Op Int)} {i : Nat} {o : Op Int}
    (hi : ops[i]? = some o) :
    (expected M R [] :: (ops.mapIdx fun i o =>
        (expected M R (ops.take (i + 1)), o.answer (M - R - spentSinceReset (ops.take i)))).map
          Prod.fst)[i]? = some (expected M R (ops.take i)) := by
  cases i with
  | zero => rfl
  | succ j =>
    have hj : j < ops.length := by
      have := (List.getElem?_eq_some_iff.mp hi).1
      omega
    rw [List.getElem?_cons_succ, List.getElem?_map, List.getElem?_mapIdx, List.getElem?_eq_getElem hj]
    rfl

/-- The budget the contract asks for is unchanged by a question. -/
theorem expected_take_succ_of_query {M R : Int} {ops : List (Op Int)} {i : Nat} {o : Op Int}
    (hi : ops[i]? = some o) (hq : o.isQuery = true) :
    expected M R (ops.take (i + 1)) = expected M R (ops.take i) := by
  rw [List.take_add_one, hi, Option.toList_some, expected, expected, spentSinceReset_append_query hq]

/-! ## Fresh budgets -/

/-- Every model has a positive context window. -/
theorem contextWindow_pos (model : String) : (0 : Int) < contextWindow model := by
  have htable : ∀ e ∈ contextWindows, 0 < e.2 := by decide
  have h : 0 < contextWindow model := by
    unfold contextWindow lookupByName
    split
    · next e he => exact htable e (List.mem_of_find?_eq_some he)
    · decide
  omega

/-- A budget built from whole numbers is the contract's starting budget; a window or a reserve
that is not positive takes its default. -/
theorem make_whole (m r : Int) :
    make (.whole m) (.whole r) =
      expected (if 0 < m then m else defaultMaxTokens) (if 0 < r then r else defaultReserve) [] := by
  rw [make, Quantity.positiveOr_whole, Quantity.positiveOr_whole]
  rfl

/-- A budget for a model starts from the model's context window. -/
theorem forModel_whole (model : String) (r : Int) :
    forModel model (.whole r) =
      expected (contextWindow model) (if 0 < r then r else defaultReserve) [] := by
  rw [forModel, make_whole, if_pos (contextWindow_pos model)]

/-- Any run of whole-number operations from a positive window and reserve with nothing used keeps
the books. -/
theorem keepsBooks_of_start {M R : Int} (hM : 0 < M) (hR : 0 < R) (ops : List (Op Int)) :
    ∃ steps, (expected M R []).run (ops.map (Op.map .whole)) = .ok steps ∧
      KeepsBooks M R (expected M R []) ops steps := by
  have hrun := run_expected M R [] ops
  simp only [List.nil_append] at hrun
  refine ⟨_, hrun, hM, hR, rfl, List.length_mapIdx .., fun i o hi => ?_, fun i o hi hq => ?_⟩
  · rw [List.getElem?_mapIdx, hi]
    rfl
  · rw [getElem?_before hi, List.getElem?_mapIdx, hi, ← expected_take_succ_of_query hi hq]
    rfl

/-- A budget built from any whole window and reserve, or for any model with any whole reserve,
keeps its books over every run of whole-number operations. -/
theorem run_keeps_books (m r : Int) (model : String) (ops : List (Op Int)) :
    (∃ steps, (make (.whole m) (.whole r)).run (ops.map (Op.map .whole)) = .ok steps ∧
      KeepsBooks (if 0 < m then m else defaultMaxTokens) (if 0 < r then r else defaultReserve)
        (make (.whole m) (.whole r)) ops steps) ∧
    (∃ steps, (forModel model (.whole r)).run (ops.map (Op.map .whole)) = .ok steps ∧
      KeepsBooks (contextWindow model) (if 0 < r then r else defaultReserve)
        (forModel model (.whole r)) ops steps) := by
  have hM : 0 < (if 0 < m then m else defaultMaxTokens) := by
    unfold defaultMaxTokens
    split <;> omega
  have hR : 0 < (if 0 < r then r else defaultReserve) := by
    unfold defaultReserve
    split <;> omega
  rw [make_whole, forModel_whole]
  exact ⟨keepsBooks_of_start hM hR ops, keepsBooks_of_start (contextWindow_pos model) hR ops⟩

end ReviewPrep.Tokens.Budget
