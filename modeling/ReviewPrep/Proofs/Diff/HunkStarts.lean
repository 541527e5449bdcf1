import ReviewPrep.Diff.Scan
import ReviewPrep.Proofs.Diff.Step
import Mathlib.Data.List.Basic
import Mathlib.Data.List.TakeWhile

/-!
# Hunk starts and changed-line marks

Reading a diff keeps the new start of every strict hunk header after the first file header;
listing its changed lines keeps that of every raw line that reads loosely as a hunk start. The
hunk starts are always a subsequence of the marks, and all of them when every mark follows a file
header and is a strict header once stripped (`hunkStarts_sublist_changedLines`). The file header
must be recognised on the stripped line (`carriage_return_hides_file_header`).
-/

namespace ReviewPrep

open scoped List

/-- The new start of every hunk of a file change, in order. -/
def FileChange.hunkStarts (f : FileChange) : List Nat := f.hunks.map (·.newStart)

/-- The new start of every hunk of every file of a diff, in order. -/
def Diff.hunkStarts (d : Diff) : List Nat := d.files.flatMap FileChange.hunkStarts

/-- Keeping fewer results keeps a subsequence. -/
theorem filterMap_sublist_filterMap_of_imp {α β : Type} {f g : α → Option β}
    (h : ∀ x v, f x = some v → g x = some v) (l : List α) : l.filterMap f <+ l.filterMap g := by
  have heq : l.filterMap f = (l.filter fun x => (f x).isSome).filterMap g := by
    rw [List.filterMap_filter]
    apply List.filterMap_congr
    intro x _
    cases hx : f x with
    | none => simp
    | some v => simp [h x v hx]
  rw [heq]
  exact List.filter_sublist.filterMap g

namespace Diff.Scan

/-- The new starts of the hunks read so far, the open hunk included. -/
def hunkStarts (s : Scan) : List Nat := s.files.flatMap FileChange.hunkStarts

/-- Attaching the open hunk appends its new start. -/
@[simp] theorem hunkStarts_attach (f : FileChange) (h : Option Hunk) :
    (attach f h).hunkStarts = f.hunkStarts ++ (h.map (·.newStart)).toList := by
  cases h <;> simp [attach, FileChange.hunkStarts]

/-- With a file open, its hunks come after those of the closed files. -/
theorem hunkStarts_eq_of_file {s : Scan} {f : FileChange} (hf : s.file = some f) :
    s.hunkStarts = s.done.reverse.flatMap FileChange.hunkStarts ++ (attach f s.hunk).hunkStarts := by
  simp [hunkStarts, files, hf]

/-- A line inside a hunk changes no hunk start. -/
theorem hunkStarts_hunkLine {s : Scan} {f : FileChange} {h : Hunk} (hf : s.file = some f)
    (hh : s.hunk = some h) (line : List Char) : (s.hunkLine f h line).hunkStarts = s.hunkStarts := by
  rw [hunkStarts_eq_of_file hf, hh]
  unfold hunkLine
  split <;> simp [hunkStarts, files, hf, hh, attach, FileChange.hunkStarts]

/-- A line adds a hunk start exactly when a file is open and the line is a strict hunk header. -/
theorem hunkStarts_step (s : Scan) (l : List Char) :
    (s.step l).hunkStarts =
      s.hunkStarts ++ if s.file.isSome then ((hunkHeader? l).map (·.newStart)).toList else [] := by
  cases hfh : fileHeader? l with
  | some p =>
    obtain ⟨old, new⟩ := p
    simp [step_of_fileHeader hfh, hunkStarts, files, hunkHeader?_eq_none_of_fileHeader? hfh,
      attach, FileChange.ofPath, FileChange.hunkStarts]
  | none =>
    cases hf : s.file with
    | none => simp [step_of_file_none hf hfh]
    | some f =>
      cases hhh : hunkHeader? l with
      | some hh => simp [step_of_hunkHeader hf hhh, hf, hunkStarts, files]
      | none =>
        cases hnh : s.hunk with
        | none =>
          cases hm : marker? l with
          | some m =>
            simp [step_of_marker hf hnh hfh hhh hm, hf, hnh, hunkStarts, files, attach,
              FileChange.hunkStarts]
          | none => simp [step_of_not_marker hf hnh hfh hhh hm]
        | some h => simp [step_of_hunkLine hf hnh hfh hhh, hunkStarts_hunkLine hf hnh]

/-- A file is open after a line when one was before or the line is a file header. -/
theorem file_isSome_step (s : Scan) (l : List Char) :
    (s.step l).file.isSome = (s.file.isSome || (fileHeader? l).isSome) := by
  cases hfh : fileHeader? l with
  | some p =>
    obtain ⟨old, new⟩ := p
    simp [step_of_fileHeader hfh]
  | none =>
    cases hf : s.file with
    | none => simp [step_of_file_none hf hfh, hf]
    | some f =>
      cases hhh : hunkHeader? l with
      | some hh => simp [step_of_hunkHeader hf hhh]
      | none =>
        cases hnh : s.hunk with
        | none =>
          cases hm : marker? l with
          | some m => simp [step_of_marker hf hnh hfh hhh hm]
          | none => simp [step_of_not_marker hf hnh hfh hhh hm, hf]
        | some h => simp [step_of_hunkLine hf hnh hfh hhh, hunkLine_file_isSome hf]

/-- Reading lines adds the new starts of the strict hunk headers among them that a file header
precedes: all of them when a file is open, else those after the first file header. -/
theorem hunkStarts_foldl (lines : List (List Char)) (s : Scan) :
    (lines.foldl step s).hunkStarts = s.hunkStarts ++
      (if s.file.isSome then lines else (lines.dropWhile fun l => (fileHeader? l).isNone).tail).filterMap
        fun l => (hunkHeader? l).map (·.newStart) := by
  induction lines generalizing s with
  | nil => split <;> simp
  | cons l rest ih =>
    rw [List.foldl_cons, ih, hunkStarts_step, file_isSome_step]
    by_cases hf : s.file.isSome
    · cases hh : hunkHeader? l <;> simp [hf, hh]
    · by_cases hh : (fileHeader? l).isSome
      · obtain ⟨⟨old, new⟩, hfh⟩ := Option.isSome_iff_exists.mp hh
        simp [hf, hfh]
      · simp [hf, Option.not_isSome_iff_eq_none.mp hh]

end Diff.Scan

namespace Diff

/-- The hunks of a diff start at the strict hunk headers after its first file header. -/
theorem hunkStarts_ofText (t : String) :
    (ofText t).hunkStarts = ((textLines t).dropWhile fun l => (fileHeader? l).isNone).tail.filterMap
      fun l => (hunkHeader? l).map (·.newStart) := by
  have h := Scan.hunkStarts_foldl (textLines t) Scan.init
  rw [show (ofText t).hunkStarts = ((textLines t).foldl Scan.step Scan.init).hunkStarts from rfl, h]
  simp [Scan.init, Scan.hunkStarts, Scan.files]

/-- The same, over the raw lines, each recognised once stripped of its carriage returns. -/
theorem hunkStarts_ofText_raw (t : String) :
    (ofText t).hunkStarts =
      ((Text.splitOnText ['\n'] t.toList).dropWhile
        fun l => (fileHeader? (Text.dropRightOf ['\r'] l)).isNone).tail.filterMap
        fun l => (hunkHeader? (Text.dropRightOf ['\r'] l)).map (·.newStart) := by
  rw [hunkStarts_ofText, textLines, List.dropWhile_map, ← List.map_tail, List.filterMap_map]
  rfl

/-- A diff that reads is the diff of its text. -/
theorem eq_ofText_of_read {t : String} {d : Diff} (h : read t = .ok d) : d = ofText t := by
  unfold read at h
  split at h
  · cases h
  · exact (Except.ok.inj h).symm

/-- The changed lines, when they read, are the loose new starts of the raw lines. -/
theorem changedLines_eq_ok {t : String} {ms : List Nat} (h : changedLines t = .ok ms) :
    ms = (Text.splitOnText ['\n'] t.toList).filterMap fun l => (hunkNewStart? l).map (·.1.value) := by
  unfold changedLines at h
  dsimp only at h
  split at h
  · cases h
  · rw [← Except.ok.inj h, hunkMarks, List.map_filterMap]
    simp [Option.map_map, Function.comp_def]

/-- Every line that reads loosely as a hunk start comes after a line that reads, through `view`,
as a file header, and reads as a strict hunk header once stripped of its trailing carriage
returns. -/
def MarksFollowFileHeader (view : List Char → List Char) (lines : List (List Char)) : Prop :=
  ∀ pre line post, lines = pre ++ line :: post → (hunkNewStart? line).isSome →
    (∃ h ∈ pre, (fileHeader? (view h)).isSome) ∧
      (hunkHeader? (Text.dropRightOf ['\r'] line)).isSome

/-- When the marks are strict headers, each line reads loosely as it reads strictly once
stripped. -/
theorem hunkNewStart?_eq_of_marksFollow {lines : List (List Char)} {view : List Char → List Char}
    (hc : MarksFollowFileHeader view lines) :
    ∀ l ∈ lines, (hunkNewStart? l).map (·.1.value) =
      (hunkHeader? (Text.dropRightOf ['\r'] l)).map (·.newStart) := by
  intro l hl
  obtain ⟨pre, post, hR⟩ := List.append_of_mem hl
  cases hx : hunkNewStart? l with
  | none =>
    cases hs : hunkHeader? (Text.dropRightOf ['\r'] l) with
    | none => rfl
    | some hh =>
      obtain ⟨c, d, hcd, -⟩ := hunkNewStart?_of_hunkHeader?_strip hs
      rw [hx] at hcd
      cases hcd
  | some x =>
    obtain ⟨-, hsome⟩ := hc pre l post hR (by simp [hx])
    obtain ⟨hh, hs⟩ := Option.isSome_iff_exists.mp hsome
    obtain ⟨c, d, hcd, hv⟩ := hunkNewStart?_of_hunkHeader?_strip hs
    rw [hx] at hcd
    cases hcd
    simp [hs, hv]

/-- When the marks follow a file header, no line before the first one is a mark. -/
theorem hunkNewStart?_eq_none_of_marksFollow {lines : List (List Char)}
    {view : List Char → List Char} (hc : MarksFollowFileHeader view lines) :
    ∀ l ∈ lines.takeWhile (fun l => (fileHeader? (view l)).isNone), hunkNewStart? l = none := by
  intro l hl
  obtain ⟨s, u, hsu⟩ := List.append_of_mem hl
  have hR : lines = s ++ l :: (u ++ lines.dropWhile fun l => (fileHeader? (view l)).isNone) := by
    have hsplit := List.takeWhile_append_dropWhile (p := fun l => (fileHeader? (view l)).isNone)
      (l := lines)
    rw [hsu] at hsplit
    simpa using hsplit.symm
  cases hx : hunkNewStart? l with
  | none => rfl
  | some x =>
    obtain ⟨⟨h, hh, hfh⟩, -⟩ := hc s l _ hR (by simp [hx])
    have hq := List.mem_takeWhile_imp (hsu ▸ List.mem_append_left (l :: u) hh)
    simp only [Option.isNone_iff_eq_none] at hq
    simp [hq] at hfh

/-- When the marks are strict headers after the first file header, recognised on stripped lines,
they are exactly the strict headers after it. -/
theorem filterMap_hunkNewStart?_eq {lines : List (List Char)}
    (hc : MarksFollowFileHeader (Text.dropRightOf ['\r']) lines) :
    lines.filterMap (fun l => (hunkNewStart? l).map (·.1.value)) =
      (lines.dropWhile fun l => (fileHeader? (Text.dropRightOf ['\r'] l)).isNone).tail.filterMap
        fun l => (hunkHeader? (Text.dropRightOf ['\r'] l)).map (·.newStart) := by
  rw [List.filterMap_congr (hunkNewStart?_eq_of_marksFollow hc)]
  conv_lhs => rw [← List.takeWhile_append_dropWhile
    (p := fun l => (fileHeader? (Text.dropRightOf ['\r'] l)).isNone) (l := lines)]
  rw [List.filterMap_append]
  have hnil : (lines.takeWhile fun l => (fileHeader? (Text.dropRightOf ['\r'] l)).isNone).filterMap
      (fun l => (hunkHeader? (Text.dropRightOf ['\r'] l)).map (·.newStart)) = [] := by
    rw [List.filterMap_eq_nil_iff]
    intro l hl
    have h₁ := hunkNewStart?_eq_of_marksFollow hc l ((List.takeWhile_sublist _).subset hl)
    rw [hunkNewStart?_eq_none_of_marksFollow hc l hl] at h₁
    exact h₁.symm
  rw [hnil, List.nil_append]
  cases hd : lines.dropWhile fun l => (fileHeader? (Text.dropRightOf ['\r'] l)).isNone with
  | nil => rfl
  | cons d rest =>
    have hq := List.head?_dropWhile_not
      (fun l => (fileHeader? (Text.dropRightOf ['\r'] l)).isNone) lines
    rw [hd] at hq
    obtain ⟨⟨o, n⟩, hfh⟩ := Option.isSome_iff_exists.mp (by simpa using hq)
    simp [hunkHeader?_eq_none_of_fileHeader? hfh]

/-- The hunk starts of a diff are a subsequence of its changed-line marks, and all of them when
every mark comes after a file header and is a strict hunk header, both recognised on lines
stripped of their trailing carriage returns. -/
theorem hunkStarts_sublist_changedLines {t : String} {d : Diff} {ms : List Nat}
    (hd : read t = .ok d) (hm : changedLines t = .ok ms) :
    d.hunkStarts <+ ms ∧
      (MarksFollowFileHeader (Text.dropRightOf ['\r']) (Text.splitOnText ['\n'] t.toList) →
        d.hunkStarts = ms) := by
  rw [eq_ofText_of_read hd, changedLines_eq_ok hm, hunkStarts_ofText_raw]
  constructor
  · have hstrict : ∀ l v, (hunkHeader? (Text.dropRightOf ['\r'] l)).map (·.newStart) = some v →
        (hunkNewStart? l).map (·.1.value) = some v := by
      intro l v h
      obtain ⟨hh, hs, rfl⟩ := Option.map_eq_some_iff.mp h
      obtain ⟨c, d, hcd, hv⟩ := hunkNewStart?_of_hunkHeader?_strip hs
      simp [hcd, hv]
    exact (filterMap_sublist_filterMap_of_imp hstrict _).trans
      (((List.tail_suffix _).trans (List.dropWhile_suffix _)).sublist.filterMap _)
  · intro hc
    exact (filterMap_hunkNewStart?_eq hc).symm

/-- A diff of one file with one hunk reads; its one mark follows the file header and is a strict
hunk header, so its one hunk start is that mark. -/
theorem hunkStarts_of_one_hunk :
    read "diff --git a/f b/f\n@@ -1,2 +3,4 @@\n+x" =
        .ok (ofText "diff --git a/f b/f\n@@ -1,2 +3,4 @@\n+x") ∧
      changedLines "diff --git a/f b/f\n@@ -1,2 +3,4 @@\n+x" = .ok [3] ∧
      (ofText "diff --git a/f b/f\n@@ -1,2 +3,4 @@\n+x").hunkStarts <+ [3] ∧
      MarksFollowFileHeader (Text.dropRightOf ['\r'])
        (Text.splitOnText ['\n'] "diff --git a/f b/f\n@@ -1,2 +3,4 @@\n+x".toList) ∧
      (ofText "diff --git a/f b/f\n@@ -1,2 +3,4 @@\n+x").hunkStarts = [3] := by
  have hR : Text.splitOnText ['\n'] "diff --git a/f b/f\n@@ -1,2 +3,4 @@\n+x".toList =
      ["diff --git a/f b/f".toList, "@@ -1,2 +3,4 @@".toList, "+x".toList] := by decide
  have hfollow : MarksFollowFileHeader (Text.dropRightOf ['\r'])
      (Text.splitOnText ['\n'] "diff --git a/f b/f\n@@ -1,2 +3,4 @@\n+x".toList) := by
    intro pre line post h hmark
    rw [hR] at h
    rcases pre with _ | ⟨p, _ | ⟨p', _ | ⟨p'', pre⟩⟩⟩
    · simp only [List.nil_append, List.cons.injEq] at h
      obtain ⟨rfl, -⟩ := h
      exact absurd hmark (by decide)
    · simp only [List.cons_append, List.nil_append, List.cons.injEq] at h
      obtain ⟨rfl, rfl, -⟩ := h
      exact ⟨⟨_, List.mem_singleton_self _, by decide⟩, by decide⟩
    · simp only [List.cons_append, List.nil_append, List.cons.injEq] at h
      obtain ⟨-, -, rfl, -⟩ := h
      exact absurd hmark (by decide)
    · simp at h
  obtain ⟨hsub, heq⟩ := hunkStarts_sublist_changedLines
    (t := "diff --git a/f b/f\n@@ -1,2 +3,4 @@\n+x") rfl rfl
  exact ⟨rfl, rfl, hsub, hfollow, heq hfollow⟩

/-- A file header recognised on the raw line is not enough: its new path here is a carriage
return, which stripping removes, so no file opens and the mark after it starts no hunk. -/
theorem carriage_return_hides_file_header :
    read "diff --git a/x b/\r\n@@ -1 +1 @@" = .ok (ofText "diff --git a/x b/\r\n@@ -1 +1 @@") ∧
      changedLines "diff --git a/x b/\r\n@@ -1 +1 @@" = .ok [1] ∧
      MarksFollowFileHeader id (Text.splitOnText ['\n'] "diff --git a/x b/\r\n@@ -1 +1 @@".toList) ∧
      (ofText "diff --git a/x b/\r\n@@ -1 +1 @@").hunkStarts = [] := by
  refine ⟨rfl, rfl, ?_, by decide⟩
  have hR : Text.splitOnText ['\n'] "diff --git a/x b/\r\n@@ -1 +1 @@".toList =
      ["diff --git a/x b/\r".toList, "@@ -1 +1 @@".toList] := by decide
  intro pre line post h hmark
  rw [hR] at h
  rcases pre with _ | ⟨p, _ | ⟨p', pre⟩⟩
  · simp only [List.nil_append, List.cons.injEq] at h
    obtain ⟨rfl, -⟩ := h
    exact absurd hmark (by decide)
  · simp only [List.cons_append, List.nil_append, List.cons.injEq] at h
    obtain ⟨rfl, rfl, -⟩ := h
    exact ⟨⟨_, List.mem_singleton_self _, by decide⟩, by decide⟩
  · simp at h

end Diff

end ReviewPrep
