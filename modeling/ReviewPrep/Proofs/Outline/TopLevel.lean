import ReviewPrep.Outline.Scan

/-!
# Splitting at top level

`splitTopLevel` cuts a text at a separator only where no bracket is open, by the depth
`bracketDepth` keeps. For a separator that is no bracket it is a homomorphism across a separator
at top level (`splitTopLevel_append_sep`), and a text with no separator at top level is one part,
trimmed, or none (`splitTopLevel_of_no_top_sep`). Both rest on what one step does
(`TopSplit.step_eq`), which never reads the parts already closed.
-/

namespace ReviewPrep.Outline

/-- The bracket depth after one more character: an opener `([{<` opens one more bracket, a
closer `)]}>` closes one while any is open, and any other character leaves the depth. -/
def depthAfter (d : Nat) (c : Char) : Nat :=
  if "([\x7b<".toList.contains c then d + 1
  else if ")]\x7d>".toList.contains c && d > 0 then d - 1
  else d

/-- The bracket depth at the end of a text read from depth 0. -/
def bracketDepth (cs : List Char) : Nat := cs.foldl depthAfter 0

/-- A character that is no bracket leaves the depth as it is. -/
theorem depthAfter_of_not_bracket {c : Char} (hc : c ∉ "([\x7b<)]\x7d>".toList) (d : Nat) :
    depthAfter d c = d := by
  have hsplit : "([\x7b<)]\x7d>".toList = "([\x7b<".toList ++ ")]\x7d>".toList := rfl
  rw [hsplit, List.mem_append, not_or] at hc
  have ho : "([\x7b<".toList.contains c = false := by simpa using hc.1
  have hcl : ")]\x7d>".toList.contains c = false := by simpa using hc.2
  rw [depthAfter, ho, hcl]
  rfl

namespace TopSplit

/-- What one character does: a separator read at depth 0 closes the current part, trimmed, and
any other character joins it. -/
theorem step_eq (sep : List Char) (s : TopSplit) (c : Char) :
    s.step sep c =
      if sep == [c] && depthAfter s.depth c == 0 then
        ⟨depthAfter s.depth c, [], Text.trim s.current.reverse :: s.parts⟩
      else ⟨depthAfter s.depth c, c :: s.current, s.parts⟩ := rfl

@[simp] theorem step_depth (sep : List Char) (s : TopSplit) (c : Char) :
    (s.step sep c).depth = depthAfter s.depth c := by
  rw [step_eq]
  split <;> rfl

/-- The depth a split keeps over a text is the bracket depth. -/
theorem foldl_depth (sep cs : List Char) (s : TopSplit) :
    (cs.foldl (step sep) s).depth = cs.foldl depthAfter s.depth := by
  induction cs generalizing s with
  | nil => rfl
  | cons c cs ih => rw [List.foldl_cons, List.foldl_cons, ih, step_depth]

/-- A separator that is no bracket, read at depth 0, closes the current part. -/
theorem step_sep_of_depth_eq_zero {sep : Char} (hsep : sep ∉ "([\x7b<)]\x7d>".toList)
    {s : TopSplit} (hd : s.depth = 0) :
    s.step [sep] sep = ⟨0, [], Text.trim s.current.reverse :: s.parts⟩ := by
  have hdepth : depthAfter s.depth sep = 0 := by rw [depthAfter_of_not_bracket hsep, hd]
  simp [step_eq, hdepth]

/-- A character that does not close a part joins the current one. -/
theorem step_of_not_closes {sep c : Char} {s : TopSplit}
    (h : ¬(c = sep ∧ depthAfter s.depth c = 0)) :
    s.step [sep] c = ⟨depthAfter s.depth c, c :: s.current, s.parts⟩ := by
  have hcond : ¬([sep] == [c] && depthAfter s.depth c == 0) = true := by
    intro hc
    simp only [Bool.and_eq_true, beq_iff_eq, List.cons.injEq, and_true] at hc
    exact h ⟨hc.1.symm, hc.2⟩
  rw [step_eq, if_neg hcond]

/-- Reading a text in which no separator stands at depth 0 closes no part: the text joins the
current one. -/
theorem foldl_of_no_top_sep {sep : Char} (hsep : sep ∉ "([\x7b<)]\x7d>".toList)
    (cs : List Char) (s : TopSplit)
    (h : ∀ p q, cs = p ++ sep :: q → p.foldl depthAfter s.depth ≠ 0) :
    cs.foldl (step [sep]) s = ⟨cs.foldl depthAfter s.depth, cs.reverse ++ s.current, s.parts⟩ := by
  induction cs generalizing s with
  | nil => rfl
  | cons c cs ih =>
    have hc : ¬(c = sep ∧ depthAfter s.depth c = 0) := by
      rintro ⟨rfl, h0⟩
      rw [depthAfter_of_not_bracket hsep] at h0
      exact h [] cs rfl h0
    have hrest : ∀ p q, cs = p ++ sep :: q → p.foldl depthAfter (depthAfter s.depth c) ≠ 0 :=
      fun p q hpq => h (c :: p) q (by rw [hpq]; rfl)
    rw [List.foldl_cons, step_of_not_closes hc, ih _ hrest]
    simp

/-! ## Parts closed earlier -/

/-- The state with the parts `earlier` closed before all of its own. -/
def withEarlier (s : TopSplit) (earlier : List (List Char)) : TopSplit :=
  ⟨s.depth, s.current, s.parts ++ earlier⟩

/-- A step never reads the parts already closed. -/
theorem step_withEarlier (sep : List Char) (s : TopSplit) (earlier : List (List Char)) (c : Char) :
    (s.withEarlier earlier).step sep c = (s.step sep c).withEarlier earlier := by
  simp only [step_eq, withEarlier]
  split <;> rfl

/-- Reading a text never reads the parts already closed. -/
theorem foldl_withEarlier (sep cs : List Char) (s : TopSplit) (earlier : List (List Char)) :
    cs.foldl (step sep) (s.withEarlier earlier) = (cs.foldl (step sep) s).withEarlier earlier := by
  induction cs generalizing s with
  | nil => rfl
  | cons c cs ih => rw [List.foldl_cons, List.foldl_cons, step_withEarlier, ih]

/-! ## The parts at the end of the text -/

/-- The parts a split in state `s` gives when the text ends: those closed so far, then the
current part trimmed, empty parts dropped. -/
def finish (s : TopSplit) : List (List Char) :=
  (s.parts.reverse ++ [Text.trim s.current.reverse]).filter (!·.isEmpty)

/-- Parts closed earlier come first, empty ones dropped. -/
theorem finish_withEarlier (s : TopSplit) (earlier : List (List Char)) :
    (s.withEarlier earlier).finish = earlier.reverse.filter (!·.isEmpty) ++ s.finish := by
  simp [finish, withEarlier, List.filter_append]

end TopSplit

/-- A split is its reading of the text followed by `TopSplit.finish`. -/
theorem splitTopLevel_eq_finish (text sep : List Char) :
    splitTopLevel text sep = (text.foldl (TopSplit.step sep) ⟨0, [], []⟩).finish := by
  unfold splitTopLevel TopSplit.finish
  dsimp only
  split
  · next hblank => simp [List.filter_append, hblank]
  · rfl

/-! ## Splitting across a separator at top level -/

/-- Where the brackets of `a` are all closed, a separator after `a` splits `a ++ sep :: b` into
the parts of `a` followed by those of `b`. -/
theorem splitTopLevel_append_sep {sep : Char} (hsep : sep ∉ "([\x7b<)]\x7d>".toList)
    (a b : List Char) (ha : bracketDepth a = 0) :
    splitTopLevel (a ++ sep :: b) [sep] = splitTopLevel a [sep] ++ splitTopLevel b [sep] := by
  let ta := a.foldl (TopSplit.step [sep]) ⟨0, [], []⟩
  have hd : ta.depth = 0 := by rw [TopSplit.foldl_depth]; exact ha
  have hclose : ta.step [sep] sep =
      (⟨0, [], []⟩ : TopSplit).withEarlier (Text.trim ta.current.reverse :: ta.parts) :=
    TopSplit.step_sep_of_depth_eq_zero hsep hd
  have ha' : splitTopLevel a [sep] =
      (Text.trim ta.current.reverse :: ta.parts).reverse.filter (!·.isEmpty) := by
    simp [splitTopLevel_eq_finish, TopSplit.finish, ta]
  rw [splitTopLevel_eq_finish, List.foldl_append, List.foldl_cons, hclose,
    TopSplit.foldl_withEarlier, TopSplit.finish_withEarlier, ha', splitTopLevel_eq_finish b]

/-- A text with no separator at depth 0 is one part, trimmed, or none when it is blank. -/
theorem splitTopLevel_of_no_top_sep {sep : Char} (hsep : sep ∉ "([\x7b<)]\x7d>".toList)
    (s : List Char) (h : ∀ p q, s = p ++ sep :: q → bracketDepth p ≠ 0) :
    splitTopLevel s [sep] = if (Text.trim s).isEmpty then [] else [Text.trim s] := by
  rw [splitTopLevel_eq_finish, TopSplit.foldl_of_no_top_sep hsep s ⟨0, [], []⟩ h]
  by_cases hblank : (Text.trim s).isEmpty <;> simp [TopSplit.finish, hblank]

/-- Splitting at a separator that is no bracket cuts only at top level: across a separator after
a text whose brackets are all closed, the parts of the two sides are put together; and a text
with no separator at top level is one part, trimmed, or none when it is blank. -/
theorem splitTopLevel_at_top_level {sep : Char} (hsep : sep ∉ "([\x7b<)]\x7d>".toList) :
    (∀ a b, bracketDepth a = 0 →
      splitTopLevel (a ++ sep :: b) [sep] = splitTopLevel a [sep] ++ splitTopLevel b [sep]) ∧
    (∀ s, (∀ p q, s = p ++ sep :: q → bracketDepth p ≠ 0) →
      splitTopLevel s [sep] = if (Text.trim s).isEmpty then [] else [Text.trim s]) :=
  ⟨splitTopLevel_append_sep hsep, splitTopLevel_of_no_top_sep hsep⟩

/-- The comma inside `f(a,b)` stands in a bracket and the one after it at top level; the only
comma of `(,)` stands in a bracket, so that text is one part. -/
theorem splitTopLevel_at_top_level_call :
    ',' ∉ "([\x7b<)]\x7d>".toList ∧ bracketDepth ['f', '(', 'a', ',', 'b', ')'] = 0 ∧
      splitTopLevel (['f', '(', 'a', ',', 'b', ')'] ++ ',' :: [' ', 'c']) [','] =
        splitTopLevel ['f', '(', 'a', ',', 'b', ')'] [','] ++ splitTopLevel [' ', 'c'] [','] ∧
      (∀ p q, ['(', ',', ')'] = p ++ ',' :: q → bracketDepth p ≠ 0) ∧
      splitTopLevel ['(', ',', ')'] [','] = [['(', ',', ')']] := by
  have hsep : ',' ∉ "([\x7b<)]\x7d>".toList := by decide
  have hdepth : bracketDepth ['f', '(', 'a', ',', 'b', ')'] = 0 := by decide
  have hnested : ∀ p q, ['(', ',', ')'] = p ++ ',' :: q → bracketDepth p ≠ 0 := by
    intro p q hpq
    rcases p with _ | ⟨x, _ | ⟨y, p⟩⟩
    · simp at hpq
    · obtain ⟨rfl, -⟩ := List.cons.inj hpq
      decide
    · simp [List.cons_eq_append_iff] at hpq
  have hone := (splitTopLevel_at_top_level hsep).2 _ hnested
  refine ⟨hsep, hdepth, (splitTopLevel_at_top_level hsep).1 _ _ hdepth, hnested, ?_⟩
  rw [hone]
  decide

end ReviewPrep.Outline
