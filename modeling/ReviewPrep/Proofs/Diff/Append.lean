import ReviewPrep.Proofs.Diff.Step
import ReviewPrep.Proofs.Lines

/-!
# Reading concatenated diffs

A diff whose first line is a file header reads the same after any text that ends with a line
feed: the files of the whole are those of the first part followed by those of the second, and the
totals add up (`read_append`). Once the header has closed what the first part left open, the
reader's state differs from the fresh one only in the files already closed, and a run keeps that
difference (`Scan.Beneath.foldl`).
-/

namespace ReviewPrep.Diff

/-- The first piece of a text cut at a character is the text up to that character. -/
theorem splitOn_eq_takeWhile_cons (c : Char) :
    ∀ cs : List Char, ∃ rest, cs.splitOn c = cs.takeWhile (· != c) :: rest
  | [] => ⟨[], rfl⟩
  | x :: xs => by
    obtain ⟨rest, hrest⟩ := splitOn_eq_takeWhile_cons c xs
    rw [List.splitOn_cons_eq_if_modifyHead]
    by_cases hx : x = c
    · exact ⟨xs.splitOn c, by simp [hx]⟩
    · exact ⟨rest, by simp [hx, hrest]⟩

/-- The lines read from a text that is empty or ends with a line feed are some lines and a last
empty one; followed by more text, the same lines come first and the lines of the rest follow. -/
theorem textLines_append_of_newline {t₁ : String} (h₁ : ∀ c ∈ t₁.toList.getLast?, c = '\n')
    (t₂ : String) : ∃ A, textLines t₁ = A ++ [[]] ∧ textLines (t₁ ++ t₂) = A ++ textLines t₂ := by
  have hstrip : Text.dropRightOf ['\r'] [] = [] := rfl
  unfold textLines
  rw [String.toList_append, Text.splitOnText_singleton, Text.splitOnText_singleton,
    Text.splitOnText_singleton]
  rcases List.eq_nil_or_concat t₁.toList with h | ⟨a, c, h⟩
  · exact ⟨[], by simp [h, hstrip]⟩
  · have hc : c = '\n' := h₁ c (by simp [h])
    subst hc
    refine ⟨(a.splitOn '\n').map (Text.dropRightOf ['\r']), ?_, ?_⟩
    · rw [h, List.concat_eq_append, List.splitOn_append_cons_self, List.splitOn_nil]
      simp [hstrip]
    · rw [h, List.concat_eq_append, List.append_assoc, List.singleton_append,
        List.splitOn_append_cons_self, List.map_append]

/-- The lines read from a text open with its first line, stripped. -/
theorem textLines_eq_cons (t : String) :
    ∃ rest, textLines t = Text.dropRightOf ['\r'] (t.toList.takeWhile (· != '\n')) :: rest := by
  obtain ⟨rest, h⟩ := splitOn_eq_takeWhile_cons '\n' t.toList
  exact ⟨rest.map (Text.dropRightOf ['\r']), by rw [textLines, Text.splitOnText_singleton, h]; rfl⟩

/-! ## Runs from a state with more files closed -/

namespace Scan

/-- `s'` is `s` with the older closed files `D` beneath its own: the same open file and hunk,
and the same running line numbers while a hunk is open. -/
structure Beneath (D : List FileChange) (s s' : Scan) : Prop where
  /-- The closed files of `s`, then the older ones. -/
  done : s'.done = s.done ++ D
  /-- The same open file. -/
  file : s'.file = s.file
  /-- The same open hunk. -/
  hunk : s'.hunk = s.hunk
  /-- The same running line numbers inside a hunk. -/
  numbers : s.hunk.isSome → s'.oldNo = s.oldNo ∧ s'.newNo = s.newNo

variable {D : List FileChange} {s s' : Scan}

/-- The files read from `s'` are the older ones followed by those read from `s`. -/
theorem Beneath.files (h : Beneath D s s') : s'.files = D.reverse ++ s.files := by
  unfold Scan.files
  rw [h.file, h.hunk, h.done]
  cases s.file <;> simp

/-- A hunk line is read the same into both states. -/
theorem Beneath.hunkLine (h : Beneath D s s') {f : FileChange} {hk : Hunk}
    (hs : s.hunk = some hk) (line : List Char) : Beneath D (s.hunkLine f hk line) (s'.hunkLine f hk line) := by
  obtain ⟨ho, hn⟩ := h.numbers (by simp [hs])
  unfold Scan.hunkLine
  rw [ho, hn]
  split
  · exact h
  · exact ⟨h.done, rfl, rfl, fun _ => ⟨rfl, rfl⟩⟩
  · exact ⟨h.done, rfl, rfl, fun _ => ⟨rfl, rfl⟩⟩
  · exact ⟨h.done, h.file, rfl, fun _ => ⟨rfl, rfl⟩⟩
  · exact h

/-- Reading a line keeps the older files beneath. -/
theorem Beneath.step (h : Beneath D s s') (l : List Char) : Beneath D (s.step l) (s'.step l) := by
  cases hfh : fileHeader? l with
  | some p =>
    obtain ⟨old, new⟩ := p
    rw [step_of_fileHeader hfh, step_of_fileHeader hfh]
    exact ⟨by simp [h.files], rfl, rfl, by simp⟩
  | none =>
    cases hf : s.file with
    | none =>
      rw [step_of_file_none hf hfh, step_of_file_none (h.file.trans hf) hfh]
      exact h
    | some f =>
      have hf' := h.file.trans hf
      cases hhh : hunkHeader? l with
      | some hh =>
        rw [step_of_hunkHeader hf hhh, step_of_hunkHeader hf' hhh, h.hunk]
        exact ⟨h.done, rfl, rfl, fun _ => ⟨rfl, rfl⟩⟩
      | none =>
        cases hnh : s.hunk with
        | none =>
          have hnh' := h.hunk.trans hnh
          cases hm : marker? l with
          | some m =>
            rw [step_of_marker hf hnh hfh hhh hm, step_of_marker hf' hnh' hfh hhh hm]
            exact ⟨h.done, rfl, h.hunk, h.numbers⟩
          | none =>
            rw [step_of_not_marker hf hnh hfh hhh hm, step_of_not_marker hf' hnh' hfh hhh hm]
            exact h
        | some hk =>
          rw [step_of_hunkLine hf hnh hfh hhh, step_of_hunkLine hf' (h.hunk.trans hnh) hfh hhh]
          exact h.hunkLine hnh l

/-- Reading lines keeps the older files beneath. -/
theorem Beneath.foldl (h : Beneath D s s') (L : List (List Char)) :
    Beneath D (L.foldl Scan.step s) (L.foldl Scan.step s') := by
  induction L generalizing s s' with
  | nil => exact h
  | cons l L ih => exact ih (h.step l)

/-- An empty line changes nothing. -/
theorem step_nil (s : Scan) : s.step [] = s := rfl

end Scan

/-! ## Over-long numerals -/

/-- Looking for an over-long numeral in two runs of lines looks in the first, then in the second,
knowing whether the first held a file header. -/
theorem overlongNumeral?_go_append (b : Bool) (A B : List (List Char)) :
    overlongNumeral?.go b (A ++ B) =
      (overlongNumeral?.go b A).or
        (overlongNumeral?.go (b || A.any fun l => (fileHeader? l).isSome) B) := by
  induction A generalizing b with
  | nil => simp [overlongNumeral?.go]
  | cons l A ih =>
    rw [List.cons_append]
    simp only [overlongNumeral?.go, List.any_cons]
    by_cases hf : (fileHeader? l).isSome
    · simp [hf, ih true]
    · simp only [hf, Bool.false_eq_true, if_false, Bool.false_or, ih b]
      split
      · rw [Option.or_assoc]
      · rfl

/-- Over the lines of a text that ends with a line feed followed by a text that opens with a file
header, an over-long numeral is looked for in the first text, then in the second. -/
theorem overlongNumeral?_append {A rest : List (List Char)} {h : List Char}
    (hh : (fileHeader? h).isSome) :
    overlongNumeral? (A ++ h :: rest) =
      (overlongNumeral? (A ++ [[]])).or (overlongNumeral? (h :: rest)) := by
  have hf : fileHeader? [] = none := rfl
  unfold overlongNumeral?
  rw [overlongNumeral?_go_append, overlongNumeral?_go_append]
  simp [overlongNumeral?.go, hh, hf, hunkHeader?_nil]

/-! ## The whole -/

/-- Adding up a count over two lists of files. -/
theorem foldr_add_append (xs ys : List Nat) :
    (xs ++ ys).foldr (· + ·) 0 = xs.foldr (· + ·) 0 + ys.foldr (· + ·) 0 := by
  induction xs with
  | nil => simp
  | cons x xs ih => simp [ih, Nat.add_assoc]

/-- The totals of the files of two diffs are the sums of their totals. -/
theorem stats_append (d₁ d₂ : Diff) :
    (⟨d₁.files ++ d₂.files⟩ : Diff).stats =
      ⟨d₁.stats.filesChanged + d₂.stats.filesChanged, d₁.stats.additions + d₂.stats.additions,
        d₁.stats.deletions + d₂.stats.deletions⟩ := by
  simp only [Diff.stats, List.length_append, List.map_append, foldr_add_append]

/-- Reading a text that ends with a line feed and then a text whose first line is a file header
gives the files of the first followed by the files of the second, field by field. -/
theorem ofText_append_files {t₁ t₂ : String} (h₁ : ∀ c ∈ t₁.toList.getLast?, c = '\n')
    (h₂ : (fileHeader? (Text.dropRightOf ['\r'] (t₂.toList.takeWhile (· != '\n')))).isSome) :
    (ofText (t₁ ++ t₂)).files = (ofText t₁).files ++ (ofText t₂).files := by
  obtain ⟨A, hA₁, hA⟩ := textLines_append_of_newline h₁ t₂
  obtain ⟨rest, hT⟩ := textLines_eq_cons t₂
  obtain ⟨⟨old, new⟩, hfh⟩ := Option.isSome_iff_exists.mp h₂
  generalize Text.dropRightOf ['\r'] (t₂.toList.takeWhile (· != '\n')) = h at hT hfh
  have hb : Scan.Beneath (A.foldl Scan.step Scan.init).files.reverse (Scan.init.step h)
      ((A.foldl Scan.step Scan.init).step h) := by
    rw [Scan.step_of_fileHeader hfh, Scan.step_of_fileHeader hfh]
    exact ⟨by simp [Scan.init, Scan.files], rfl, rfl, by simp⟩
  unfold ofText
  rw [hA, hA₁, hT, List.foldl_append, List.foldl_append, List.foldl_cons, List.foldl_cons,
    List.foldl_cons, List.foldl_nil, Scan.step_nil, (hb.foldl rest).files, List.reverse_reverse]

/-- A text that ends with a line feed, followed by a text whose first line is a file header,
reads as the files of the first followed by the files of the second, field by field, and fails
exactly when one of them does, as the first failing one does; the totals of the whole are the
sums of the totals of the parts. -/
theorem read_append {t₁ t₂ : String} (h₁ : ∀ c ∈ t₁.toList.getLast?, c = '\n')
    (h₂ : (fileHeader? (Text.dropRightOf ['\r'] (t₂.toList.takeWhile (· != '\n')))).isSome) :
    read (t₁ ++ t₂) = (do
        let d₁ ← read t₁
        let d₂ ← read t₂
        return ⟨d₁.files ++ d₂.files⟩) ∧
      ∀ d d₁ d₂, read (t₁ ++ t₂) = .ok d → read t₁ = .ok d₁ → read t₂ = .ok d₂ →
        d.stats = ⟨d₁.stats.filesChanged + d₂.stats.filesChanged,
          d₁.stats.additions + d₂.stats.additions, d₁.stats.deletions + d₂.stats.deletions⟩ := by
  have hover : overlongNumeral? (textLines (t₁ ++ t₂)) =
      (overlongNumeral? (textLines t₁)).or (overlongNumeral? (textLines t₂)) := by
    obtain ⟨A, hA₁, hA⟩ := textLines_append_of_newline h₁ t₂
    obtain ⟨rest, hT⟩ := textLines_eq_cons t₂
    rw [hA, hA₁, hT]
    exact overlongNumeral?_append h₂
  have hread : read (t₁ ++ t₂) = (do
      let d₁ ← read t₁
      let d₂ ← read t₂
      return ⟨d₁.files ++ d₂.files⟩) := by
    unfold read
    rw [hover]
    cases overlongNumeral? (textLines t₁) with
    | some w => rfl
    | none =>
      cases overlongNumeral? (textLines t₂) with
      | some w => rfl
      | none =>
        show Except.ok _ = Except.ok _
        rw [← ofText_append_files h₁ h₂]
  refine ⟨hread, fun d d₁ d₂ hd hd₁ hd₂ => ?_⟩
  rw [hread, hd₁, hd₂] at hd
  cases hd
  exact stats_append d₁ d₂

/-- A diff of one file with a hunk, followed by a diff whose header line ends in a carriage
return and whose file is new. -/
theorem read_append_two_files :
    (∀ c ∈ "diff --git a/a.py b/a.py\n@@ -1 +1 @@\n-x\n+y\n".toList.getLast?, c = '\n') ∧
      (fileHeader? (Text.dropRightOf ['\r']
        ("diff --git a/b.go b/b.go\r\nnew file mode 100644\n@@ -0,0 +1 @@\n+z".toList.takeWhile
          (· != '\n')))).isSome ∧
      (read ("diff --git a/a.py b/a.py\n@@ -1 +1 @@\n-x\n+y\n" ++
          "diff --git a/b.go b/b.go\r\nnew file mode 100644\n@@ -0,0 +1 @@\n+z") = (do
          let d₁ ← read "diff --git a/a.py b/a.py\n@@ -1 +1 @@\n-x\n+y\n"
          let d₂ ← read "diff --git a/b.go b/b.go\r\nnew file mode 100644\n@@ -0,0 +1 @@\n+z"
          return ⟨d₁.files ++ d₂.files⟩) ∧
        ∀ d d₁ d₂, read ("diff --git a/a.py b/a.py\n@@ -1 +1 @@\n-x\n+y\n" ++
            "diff --git a/b.go b/b.go\r\nnew file mode 100644\n@@ -0,0 +1 @@\n+z") = .ok d →
          read "diff --git a/a.py b/a.py\n@@ -1 +1 @@\n-x\n+y\n" = .ok d₁ →
          read "diff --git a/b.go b/b.go\r\nnew file mode 100644\n@@ -0,0 +1 @@\n+z" = .ok d₂ →
          d.stats = ⟨d₁.stats.filesChanged + d₂.stats.filesChanged,
            d₁.stats.additions + d₂.stats.additions, d₁.stats.deletions + d₂.stats.deletions⟩) := by
  have h₁ : ∀ c ∈ "diff --git a/a.py b/a.py\n@@ -1 +1 @@\n-x\n+y\n".toList.getLast?, c = '\n' := by
    show ∀ c ∈ some '\n', c = '\n'
    simp
  exact ⟨h₁, by decide, read_append h₁ (by decide)⟩

end ReviewPrep.Diff
