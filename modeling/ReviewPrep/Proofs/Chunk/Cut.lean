import ReviewPrep.Proofs.Lines

/-!
# Where a buffer of lines is cut

The preferred break point of a buffer always lies just after a line feed, or is `0` when there
is none. A buffer gathered from whole lines that each end in a line feed is therefore cut
between two of its lines: the part before the cut is a non-empty run of leading lines, the part
after it the remaining lines, and the line feeds of the part before count its lines.
-/

namespace ReviewPrep

/-- The scan for the last occurrence returns the last hit remembered, or a later one. -/
theorem lastIndexOf?_go_eq_some {p : List Char} (hp : p ≠ []) :
    ∀ (i : Nat) (cs : List Char) (best : Option Nat) (k : Nat),
      lastIndexOf?.go p i cs best = some k →
        best = some k ∨ ∃ j, k = i + j ∧ p.isPrefixOf (cs.drop j) = true
  | i, [], best, k, h => by
    simp only [lastIndexOf?.go, List.isEmpty_iff, hp, ↓reduceIte] at h
    exact Or.inl h
  | i, c :: rest, best, k, h => by
    rw [lastIndexOf?.go] at h
    rcases lastIndexOf?_go_eq_some hp (i + 1) rest _ k h with hb | ⟨j, rfl, hj⟩
    · split at hb
      · next hpre => exact Or.inr ⟨0, by simpa using hb.symm, by simpa using hpre⟩
      · exact Or.inl hb
    · exact Or.inr ⟨j + 1, by omega, by simpa using hj⟩

/-- The last occurrence of a non-empty pattern is an occurrence: the text before it has the
length found. -/
theorem lastIndexOf?_eq_some {p cs : List Char} {k : Nat} (hp : p ≠ [])
    (h : lastIndexOf? p cs = some k) : ∃ pre post, cs = pre ++ p ++ post ∧ pre.length = k := by
  rcases lastIndexOf?_go_eq_some hp 0 cs none k h with hb | ⟨j, rfl, hj⟩
  · cases hb
  · obtain ⟨post, hpost⟩ := List.isPrefixOf_iff_prefix.mp hj
    have hj' : j ≤ cs.length := by
      rcases Nat.lt_or_ge cs.length j with hlt | hle
      · rw [List.drop_eq_nil_of_le (Nat.le_of_lt hlt)] at hpost
        exact absurd (List.append_eq_nil_iff.mp hpost).1 hp
      · exact hle
    refine ⟨cs.take j, post, ?_, by simp [List.length_take, hj']⟩
    rw [List.append_assoc, hpost, List.take_append_drop]

/-- The preferred break point of a buffer is `0` or lies just after a line feed. -/
theorem findBreakPoint_spec (cs : List Char) :
    findBreakPoint cs = 0 ∨
      ∃ pre post, cs = pre ++ '\n' :: post ∧ findBreakPoint cs = pre.length + 1 := by
  have hlast : findBreakPoint.lastNewline cs = 0 ∨
      ∃ pre post, cs = pre ++ '\n' :: post ∧ findBreakPoint.lastNewline cs = pre.length + 1 := by
    unfold findBreakPoint.lastNewline
    split
    · next k hk =>
      obtain ⟨pre, post, rfl, rfl⟩ := lastIndexOf?_eq_some (by simp) hk
      split
      · exact Or.inr ⟨pre, post, by simp, rfl⟩
      · exact Or.inl rfl
    · exact Or.inl rfl
  have hfall : findBreakPoint.fallback cs = 0 ∨
      ∃ pre post, cs = pre ++ '\n' :: post ∧ findBreakPoint.fallback cs = pre.length + 1 := by
    unfold findBreakPoint.fallback
    split
    · next k hk =>
      obtain ⟨pre, post, rfl, rfl⟩ := lastIndexOf?_eq_some (by simp) hk
      split
      · exact Or.inr ⟨pre ++ ['\n'], post, by simp, by simp⟩
      · exact hlast
    · exact hlast
  unfold findBreakPoint
  split
  · next k hk =>
    obtain ⟨pre, post, rfl, rfl⟩ := lastIndexOf?_eq_some (by simp) hk
    split
    · exact Or.inr ⟨pre ++ ['\x7d'], post, by simp, by simp⟩
    · exact hfall
  · exact hfall

/-- The line feeds of lines that each end in their only one count the lines. -/
theorem lineFeeds_flatten {L : List (List Char)} (h : ∀ l ∈ L, Terminated l) :
    lineFeeds L.flatten = L.length := by
  induction L with
  | nil => rfl
  | cons l L ih =>
    rw [lineFeeds, List.flatten_cons, List.count_append, (h l (by simp)).count_eq_one]
    have hrest := ih (fun x hx => h x (List.mem_cons_of_mem l hx))
    rw [lineFeeds] at hrest
    simp [hrest, Nat.add_comm]

/-- A buffer of whole lines is cut between two of its lines, after at least one. -/
theorem cut_lines {L : List (List Char)} (hL : IsLines L) (hne : L ≠ []) :
    let buf := L.flatten
    let cut := if findBreakPoint buf == 0 then buf.length else findBreakPoint buf
    ∃ E R, L = E ++ R ∧ E ≠ [] ∧ buf.take cut = E.flatten ∧ buf.drop cut = R.flatten := by
  intro buf cut
  have hbuf : splitKeepEnds buf = L := splitKeepEnds_flatten hL
  rcases findBreakPoint_spec buf with h0 | ⟨pre, post, hsplit, hpoint⟩
  · have hcut : cut = buf.length := by simp [cut, h0]
    refine ⟨L, [], by simp, hne, ?_, ?_⟩
    · rw [hcut, List.take_length]
    · rw [hcut, List.drop_length]
      rfl
  · have hcut : cut = pre.length + 1 := by simp [cut, hpoint]
    have hE := splitKeepEnds_spec (pre ++ ['\n'])
    have hR := splitKeepEnds_spec post
    have hbuf' : buf = (pre ++ ['\n']) ++ post := by simp [hsplit]
    refine ⟨splitKeepEnds (pre ++ ['\n']), splitKeepEnds post, ?_, ?_, ?_, ?_⟩
    · rw [← hbuf, hsplit, splitKeepEnds_append_cons]
    · intro he
      have hflat := hE.2
      rw [he, List.flatten_nil] at hflat
      exact absurd hflat.symm (by simp)
    · rw [hE.2, hcut, hbuf', List.take_left' (by simp)]
    · rw [hR.2, hcut, hbuf', List.drop_left' (by simp)]

end ReviewPrep
