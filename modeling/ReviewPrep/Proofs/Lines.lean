import ReviewPrep.Chunk.Basic

/-!
# Lines of text

Cutting text at a single character is `List.splitOn`, so the library's equations for it apply,
and joining with a separator is `List.intercalate`. The lines of a text with their line feeds
kept are then characterised exactly: `splitKeepEnds text = L` holds precisely when `L` is a
list of lines in the sense of `IsLines` (non-empty, a line feed only at the end, and every line
but the last ending in one) whose concatenation is `text`.
-/

namespace ReviewPrep

namespace Text

/-- Breaking at a single character cuts at its first occurrence. -/
theorem breakOn?_singleton_eq_some {c : Char} {cs a b : List Char}
    (h : breakOn? [c] cs = some (a, b)) : cs = a ++ c :: b ∧ c ∉ a := by
  induction cs generalizing a b with
  | nil => simp [breakOn?] at h
  | cons x rest ih =>
    by_cases hx : x = c
    · subst hx
      simp [breakOn?, List.isPrefixOf] at h
      obtain ⟨rfl, rfl⟩ := h
      simp
    · have hc : ([c].isPrefixOf (x :: rest)) = false := by
        simp [List.isPrefixOf, Ne.symm hx]
      simp only [breakOn?, hc, Bool.false_eq_true, and_false, ↓reduceIte, Option.map_eq_some_iff,
        Prod.exists, Prod.mk.injEq] at h
      obtain ⟨a', b', hab, rfl, rfl⟩ := h
      obtain ⟨rfl, ha'⟩ := ih hab
      refine ⟨rfl, ?_⟩
      simp only [List.mem_cons, not_or]
      exact ⟨Ne.symm hx, ha'⟩

/-- Breaking at a single character finds nothing only when it does not occur. -/
theorem breakOn?_singleton_eq_none {c : Char} {cs : List Char} (h : breakOn? [c] cs = none) :
    c ∉ cs := by
  induction cs with
  | nil => simp
  | cons x rest ih =>
    by_cases hx : x = c
    · subst hx
      simp [breakOn?, List.isPrefixOf] at h
    · have hc : ([c].isPrefixOf (x :: rest)) = false := by
        simp [List.isPrefixOf, Ne.symm hx]
      simp only [breakOn?, hc, Bool.false_eq_true, and_false, ↓reduceIte, Option.map_eq_none_iff]
        at h
      simp [Ne.symm hx, ih h]

/-- The fuel of the cutting loop does not matter once it covers the text. -/
theorem splitOnText_go_singleton (c : Char) :
    ∀ (n : Nat) (cs : List Char), cs.length ≤ n → splitOnText.go [c] n cs = cs.splitOn c
  | 0, cs, h => by
    rw [List.length_eq_zero_iff.mp (Nat.le_zero.mp h)]
    rfl
  | n + 1, cs, h => by
    unfold splitOnText.go
    split
    · next a b hab =>
      obtain ⟨rfl, ha⟩ := breakOn?_singleton_eq_some hab
      have hb : b.length ≤ n := by simp at h; omega
      rw [splitOnText_go_singleton c n b hb, List.splitOn_append_cons_self_of_not_mem ha]
    · next hnone =>
      rw [List.splitOn_eq_singleton (breakOn?_singleton_eq_none hnone)]

/-- Cutting at a single character is `List.splitOn`. -/
theorem splitOnText_singleton (c : Char) (cs : List Char) :
    splitOnText [c] cs = cs.splitOn c :=
  splitOnText_go_singleton c cs.length cs (Nat.le_refl _)

/-- Joining with a separator is `List.intercalate`. -/
theorem joinWith_eq_intercalate (sep : List Char) :
    ∀ ps : List (List Char), joinWith sep ps = sep.intercalate ps
  | [] => rfl
  | [p] => by simp [joinWith]
  | p :: q :: ps => by
    rw [joinWith, joinWith_eq_intercalate sep (q :: ps), List.intercalate_cons_cons,
      List.append_assoc]

end Text

/-- A list of lines as `splitKeepEnds` produces them: each non-empty, each ending in a line
feed and holding no other, except that the last may hold none at all. -/
inductive IsLines : List (List Char) → Prop
  /-- No lines. -/
  | nil : IsLines []
  /-- A last line without a line feed. -/
  | last {l : List Char} : l ≠ [] → '\n' ∉ l → IsLines [l]
  /-- A line ending in its line feed, before more lines. -/
  | cons {body : List Char} {rest : List (List Char)} :
      '\n' ∉ body → IsLines rest → IsLines ((body ++ ['\n']) :: rest)

/-- A line that ends in its only line feed. -/
def Terminated (l : List Char) : Prop := ∃ body, '\n' ∉ body ∧ l = body ++ ['\n']

namespace IsLines

/-- Every line is non-empty. -/
theorem ne_nil {L : List (List Char)} (h : IsLines L) : ∀ l ∈ L, l ≠ [] := by
  induction h with
  | nil => simp
  | last hl _ => simpa using hl
  | cons _ _ ih => simpa using ih

/-- The lines before a later line all end in their line feed. -/
theorem terminated_of_append {a b : List (List Char)} (h : IsLines (a ++ b)) (hb : b ≠ []) :
    ∀ l ∈ a, Terminated l := by
  induction a with
  | nil => simp
  | cons l a ih =>
    generalize hr : a ++ b = rest at h
    rw [List.cons_append, hr] at h
    cases h with
    | last _ _ => simp_all
    | cons hbody hrest =>
      intro x hx
      rcases List.mem_cons.mp hx with rfl | hx
      · exact ⟨_, hbody, rfl⟩
      · exact ih (hr ▸ hrest) x hx

/-- Consecutive runs of lines are lines. -/
theorem of_append {a b : List (List Char)} (h : IsLines (a ++ b)) : IsLines a ∧ IsLines b := by
  induction a with
  | nil => exact ⟨nil, h⟩
  | cons l a ih =>
    generalize hr : a ++ b = rest at h
    rw [List.cons_append, hr] at h
    cases h with
    | last hl hn =>
      obtain ⟨rfl, rfl⟩ := List.append_eq_nil_iff.mp hr
      exact ⟨last hl hn, nil⟩
    | cons hbody hrest =>
      obtain ⟨ha, hb⟩ := ih (hr ▸ hrest)
      exact ⟨cons hbody ha, hb⟩

end IsLines

/-- The line feed count of a terminated line is one. -/
theorem Terminated.count_eq_one {l : List Char} (h : Terminated l) : l.count '\n' = 1 := by
  obtain ⟨body, hbody, rfl⟩ := h
  simp [List.count_eq_zero.mpr hbody]

/-- `splitKeepEnds` through `List.splitOn`: every piece but the last gets its line feed back,
and the last is kept when it is not empty. -/
theorem splitKeepEnds_eq_splitOn (text : List Char) :
    splitKeepEnds text = ((text.splitOn '\n').dropLast.map (· ++ ['\n'])) ++
      ((text.splitOn '\n').getLast?.filter (!·.isEmpty)).toList := by
  rw [splitKeepEnds, Text.splitOnText_singleton]
  rcases List.eq_nil_or_concat (text.splitOn '\n') with h | ⟨L, b, h⟩
  · exact absurd h (List.splitOn_ne_nil _ _)
  · rw [h, List.concat_eq_append]
    cases hb : b.isEmpty
    · simp [hb, Option.filter]
    · simp [List.isEmpty_iff.mp hb]

/-- A text without line feeds is one line, or none when empty. -/
theorem splitKeepEnds_of_not_mem {text : List Char} (h : '\n' ∉ text) :
    splitKeepEnds text = if text = [] then [] else [text] := by
  rw [splitKeepEnds_eq_splitOn, List.splitOn_eq_singleton h]
  by_cases ht : text = [] <;> simp [ht]

/-- A line that ends in its first line feed is the first line. -/
theorem splitKeepEnds_append_line {body : List Char} (h : '\n' ∉ body) (rest : List Char) :
    splitKeepEnds (body ++ '\n' :: rest) = (body ++ ['\n']) :: splitKeepEnds rest := by
  rw [splitKeepEnds_eq_splitOn, splitKeepEnds_eq_splitOn,
    List.splitOn_append_cons_self_of_not_mem h]
  rcases List.exists_cons_of_ne_nil (List.splitOn_ne_nil '\n' rest) with ⟨p, ps, hps⟩
  rw [hps, List.dropLast_cons_of_ne_nil (List.cons_ne_nil p ps), List.getLast?_cons_cons]
  simp

/-- Text cut just after a line feed has the lines of its two parts. -/
theorem splitKeepEnds_append_cons (a b : List Char) :
    splitKeepEnds (a ++ '\n' :: b) = splitKeepEnds (a ++ ['\n']) ++ splitKeepEnds b := by
  rw [splitKeepEnds_eq_splitOn, splitKeepEnds_eq_splitOn, splitKeepEnds_eq_splitOn,
    List.splitOn_append_cons_self, List.splitOn_append_cons_self, List.splitOn_nil]
  rcases List.exists_cons_of_ne_nil (List.splitOn_ne_nil '\n' b) with ⟨p, ps, hps⟩
  rw [hps, List.dropLast_append_cons, List.getLast?_append, List.getLast?_cons]
  simp

/-- The lines of a text are lines, and they concatenate to the text. -/
theorem splitKeepEnds_spec (text : List Char) :
    IsLines (splitKeepEnds text) ∧ (splitKeepEnds text).flatten = text := by
  cases hb : Text.breakOn? ['\n'] text with
  | none =>
    have hn := Text.breakOn?_singleton_eq_none hb
    rw [splitKeepEnds_of_not_mem hn]
    by_cases ht : text = []
    · simp [ht, IsLines.nil]
    · simp [ht, IsLines.last ht hn]
  | some p =>
    obtain ⟨a, b⟩ := p
    obtain ⟨rfl, ha⟩ := Text.breakOn?_singleton_eq_some hb
    obtain ⟨hl, hf⟩ := splitKeepEnds_spec b
    rw [splitKeepEnds_append_line ha]
    exact ⟨IsLines.cons ha hl, by simp [hf]⟩
termination_by text.length
decreasing_by simp [‹text = a ++ '\n' :: b›]; omega

/-- Lines are read back from their concatenation. -/
theorem splitKeepEnds_flatten {L : List (List Char)} (h : IsLines L) :
    splitKeepEnds L.flatten = L := by
  induction h with
  | nil => rfl
  | last hl hn => simp [splitKeepEnds_of_not_mem hn, hl]
  | cons hbody _ ih => simp [splitKeepEnds_append_line hbody, ih]

/-- The lines of a text are exactly the lines that concatenate to it. -/
theorem splitKeepEnds_eq_iff (text : List Char) (L : List (List Char)) :
    splitKeepEnds text = L ↔ IsLines L ∧ L.flatten = text := by
  constructor
  · rintro rfl
    exact splitKeepEnds_spec text
  · rintro ⟨hl, rfl⟩
    exact splitKeepEnds_flatten hl

end ReviewPrep
