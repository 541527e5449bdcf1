import ReviewPrep.Proofs.Diff.Step
import ReviewPrep.Proofs.Diff.HunkStarts

/-!
# Line records of a diff

For every text, bytes included, each file change of a diff counts exactly its own addition and
deletion lines (`counts_match_lines`), and each line is numbered from its hunk's header alone
(`lines_numbered_from_starts`). Both are invariants of one line of reading: `Scan.step_cases`
says once what a line can do, and `Scan.foldl_of_step` carries each invariant along the lines.
-/

namespace ReviewPrep

/-- Whether a line of this kind is a line of the old file: context and deletions. -/
def LineKind.onOld : LineKind → Bool
  | .context | .deletion => true
  | .addition => false

/-- Whether a line of this kind is a line of the new file: context and additions. -/
def LineKind.onNew : LineKind → Bool
  | .context | .addition => true
  | .deletion => false

/-- A hunk line of kind `k`, numbered by the running numbers of the sides it belongs to. -/
def DiffLine.numbered (k : LineKind) (content : String) (oldNo newNo : Nat) : DiffLine :=
  ⟨k, content, if k.onOld then some oldNo else none, if k.onNew then some newNo else none⟩

/-- The line carries the numbers its place after the lines `pre` of a hunk with starts `o` and
`n` gives it. -/
structure DiffLine.NumberedAfter (l : DiffLine) (o n : Nat) (pre : List DiffLine) : Prop where
  /-- A context or deleted line: the old start plus the context and deleted lines before it. -/
  old_of_onOld : l.kind.onOld = true → l.oldNumber = some (o + pre.countP (·.kind.onOld))
  /-- An addition has no old number. -/
  old_of_addition : l.kind = .addition → l.oldNumber = none
  /-- A context or added line: the new start plus the context and added lines before it. -/
  new_of_onNew : l.kind.onNew = true → l.newNumber = some (n + pre.countP (·.kind.onNew))
  /-- A deletion has no new number. -/
  new_of_deletion : l.kind = .deletion → l.newNumber = none

/-- A line numbered by the starts plus the lines before it on each side carries those numbers. -/
theorem DiffLine.numberedAfter_numbered (k : LineKind) (content : String) (o n : Nat)
    (pre : List DiffLine) :
    (DiffLine.numbered k content (o + pre.countP (·.kind.onOld))
      (n + pre.countP (·.kind.onNew))).NumberedAfter o n pre := by
  cases k <;> exact ⟨by simp [numbered], by simp [numbered, LineKind.onOld],
    by simp [numbered], by simp [numbered, LineKind.onNew]⟩

/-- Every line of the hunk carries the numbers its place gives it. -/
def Hunk.NumberedFromStarts (h : Hunk) : Prop :=
  ∀ pre l post, h.lines = pre ++ l :: post → l.NumberedAfter h.oldStart h.newStart pre

/-- A hunk with no lines is numbered. -/
theorem Hunk.numberedFromStarts_of_nil {h : Hunk} (hl : h.lines = []) : h.NumberedFromStarts := by
  intro pre l post he
  rw [hl] at he
  exact absurd he.symm (by simp)

/-- A numbered hunk stays numbered with one more line that carries the numbers of its place. -/
theorem Hunk.NumberedFromStarts.push {h : Hunk} (hn : h.NumberedFromStarts) {l : DiffLine}
    (hl : l.NumberedAfter h.oldStart h.newStart h.lines) :
    ({ h with lines := h.lines ++ [l] } : Hunk).NumberedFromStarts := by
  intro pre x post he
  rcases List.eq_nil_or_concat post with rfl | ⟨post', y, rfl⟩
  · have he' : h.lines ++ [l] = pre ++ [x] := by simpa using he
    obtain ⟨rfl, hx⟩ := List.append_inj' he' rfl
    obtain rfl := List.singleton_inj.1 hx
    exact hl
  · have he' : h.lines ++ [l] = (pre ++ x :: post') ++ [y] := by simpa using he
    exact hn pre x post' (List.append_inj' he' rfl).1

/-- The lines of all hunks of a file change, in order. -/
def FileChange.lines (f : FileChange) : List DiffLine := f.hunks.flatMap Hunk.lines

/-- The file change with one more line of kind `k` counted. -/
def FileChange.tally (f : FileChange) : LineKind → FileChange
  | .addition => { f with additions := f.additions + 1 }
  | .deletion => { f with deletions := f.deletions + 1 }
  | .context => f

/-- A file change's counts are those of its lines. -/
structure FileChange.Counted (f : FileChange) : Prop where
  /-- The additions are the addition lines. -/
  additions : f.additions = f.lines.countP (·.kind == .addition)
  /-- The deletions are the deletion lines. -/
  deletions : f.deletions = f.lines.countP (·.kind == .deletion)

@[simp] theorem FileChange.tally_hunks (f : FileChange) (k : LineKind) : (f.tally k).hunks = f.hunks := by
  cases k <;> rfl

@[simp] theorem FileChange.tally_lines (f : FileChange) (k : LineKind) : (f.tally k).lines = f.lines := by
  cases k <;> rfl

/-- Counting one more line of kind `k` adds one to the count of that kind. -/
theorem FileChange.tally_additions (f : FileChange) (k : LineKind) :
    (f.tally k).additions = f.additions + if k == .addition then 1 else 0 := by
  cases k <;> rfl

/-- Counting one more line of kind `k` adds one to the count of that kind. -/
theorem FileChange.tally_deletions (f : FileChange) (k : LineKind) :
    (f.tally k).deletions = f.deletions + if k == .deletion then 1 else 0 := by
  cases k <;> rfl

namespace Diff.Scan

variable {s : Scan} {f : FileChange}

@[simp] theorem attach_additions (f : FileChange) (h : Option Hunk) :
    (attach f h).additions = f.additions := by
  cases h <;> rfl

@[simp] theorem attach_deletions (f : FileChange) (h : Option Hunk) :
    (attach f h).deletions = f.deletions := by
  cases h <;> rfl

/-- The open hunk, attached, adds its lines after those of the file. -/
@[simp] theorem lines_attach_some (f : FileChange) (h : Hunk) :
    (attach f (some h)).lines = f.lines ++ h.lines := by
  simp [attach, FileChange.lines]

/-- A property of every file change read, once a file is open: of the closed ones, and of the
open one with its open hunk. -/
theorem forall_files_iff {P : FileChange → Prop} (hf : s.file = some f) :
    (∀ g ∈ s.files, P g) ↔ (∀ g ∈ s.done, P g) ∧ P (attach f s.hunk) := by
  simp [files, hf, or_imp, forall_and, and_comm]

/-- What reading a line inside a hunk does: nothing, for an empty line or one after `\`; or it
appends one line of some kind, numbered by the running numbers, counts it on the file, and moves
on the numbers of its sides. -/
theorem hunkLine_cases (hf : s.file = some f) (h : Hunk) (line : List Char) :
    s.hunkLine f h line = s ∨ ∃ k content, s.hunkLine f h line =
      { s with file := some (f.tally k),
               hunk := some { h with lines := h.lines ++ [DiffLine.numbered k content s.oldNo s.newNo] },
               oldNo := s.oldNo + if k.onOld then 1 else 0,
               newNo := s.newNo + if k.onNew then 1 else 0 } := by
  obtain ⟨done, file, hunk, oldNo, newNo⟩ := s
  cases hf
  unfold hunkLine
  split
  · exact .inl rfl
  · exact .inr ⟨.addition, _, rfl⟩
  · exact .inr ⟨.deletion, _, rfl⟩
  · exact .inr ⟨.context, _, rfl⟩
  · exact .inl rfl

/-- What reading one line can do to the state: nothing; open a file change at a new path,
closing what is open; open an empty hunk inside the open file, closing the open hunk onto it and
starting the running numbers at its starts; apply a marker to the open file before its first
hunk; or read a line into the open hunk. -/
theorem step_cases (s : Scan) (line : List Char) :
    s.step line = s ∨
    (∃ path, s.step line =
      { s with done := s.files.reverse, file := some (FileChange.ofPath path), hunk := none }) ∨
    (∃ f h₀, s.file = some f ∧ h₀.lines = [] ∧ s.step line =
      { s with file := some (attach f s.hunk), hunk := some h₀, oldNo := h₀.oldStart,
               newNo := h₀.newStart }) ∨
    (∃ f m, s.file = some f ∧ s.hunk = none ∧ s.step line = { s with file := some (applyMarker f m) }) ∨
    (∃ f h k content, s.file = some f ∧ s.hunk = some h ∧ s.step line =
      { s with file := some (f.tally k),
               hunk := some { h with lines := h.lines ++ [DiffLine.numbered k content s.oldNo s.newNo] },
               oldNo := s.oldNo + if k.onOld then 1 else 0,
               newNo := s.newNo + if k.onNew then 1 else 0 }) := by
  cases hfh : fileHeader? line with
  | some p =>
    obtain ⟨old, new⟩ := p
    exact .inr (.inl ⟨_, step_of_fileHeader hfh⟩)
  | none =>
    cases hf : s.file with
    | none => exact .inl (step_of_file_none hf hfh)
    | some f =>
      cases hhh : hunkHeader? line with
      | some hh => exact .inr (.inr (.inl ⟨f, _, rfl, rfl, step_of_hunkHeader hf hhh⟩))
      | none =>
        cases hnh : s.hunk with
        | none =>
          cases hm : marker? line with
          | some m => exact .inr (.inr (.inr (.inl ⟨f, m, rfl, rfl, by rw [step_of_marker hf hnh hfh hhh hm, hnh]⟩)))
          | none => exact .inl (step_of_not_marker hf hnh hfh hhh hm)
        | some h =>
          rw [step_of_hunkLine hf hnh hfh hhh]
          rcases hunkLine_cases hf h line with he | ⟨k, content, he⟩
          · exact .inl he
          · exact .inr (.inr (.inr (.inr ⟨f, h, k, content, rfl, rfl, he⟩)))

/-- An invariant of one line of reading holds after any lines. -/
theorem foldl_of_step {P : Scan → Prop} (hstep : ∀ s line, P s → P (s.step line))
    (L : List (List Char)) (hs : P s) : P (L.foldl step s) := by
  induction L generalizing s with
  | nil => exact hs
  | cons l L ih => exact ih (hstep s l hs)

/-! ## Counts -/

/-- Every file change read so far counts its lines. -/
def AllCounted (s : Scan) : Prop := ∀ f ∈ s.files, f.Counted

/-- A fresh file change has no lines and counts none. -/
theorem counted_ofPath (path : String) : (FileChange.ofPath path).Counted := ⟨rfl, rfl⟩

/-- An empty hunk attached to a file change adds no line to count. -/
theorem counted_attach_empty {F : FileChange} (hF : F.Counted) {h₀ : Hunk} (hl : h₀.lines = []) :
    (attach F (some h₀)).Counted :=
  ⟨by simpa [hl] using hF.additions, by simpa [hl] using hF.deletions⟩

/-- A marker changes neither the lines of a file change nor its counts. -/
theorem counted_applyMarker (hf : f.Counted) (m : Marker) : (applyMarker f m).Counted := by
  cases m <;> exact ⟨hf.additions, hf.deletions⟩

/-- A line read into the open hunk is counted on its file as the kind it is. -/
theorem counted_push {h : Hunk} (hf : (attach f (some h)).Counted) (k : LineKind) (content : String)
    (o n : Nat) :
    (attach (f.tally k)
      (some { h with lines := h.lines ++ [DiffLine.numbered k content o n] })).Counted := by
  have ha : f.additions = (f.lines ++ h.lines).countP (·.kind == .addition) := by
    simpa using hf.additions
  have hd : f.deletions = (f.lines ++ h.lines).countP (·.kind == .deletion) := by
    simpa using hf.deletions
  constructor
  · rw [attach_additions, FileChange.tally_additions, lines_attach_some, FileChange.tally_lines, ha]
    cases k <;> simp [DiffLine.numbered]
    omega
  · rw [attach_deletions, FileChange.tally_deletions, lines_attach_some, FileChange.tally_lines, hd]
    cases k <;> simp [DiffLine.numbered]
    omega

/-- Reading one line keeps every file change counting its lines. -/
theorem allCounted_step (hs : AllCounted s) (line : List Char) : AllCounted (s.step line) := by
  rcases step_cases s line with he | ⟨path, he⟩ | ⟨f, h₀, hf, hl, he⟩ | ⟨f, m, hf, hh, he⟩ |
      ⟨f, h, k, c, hf, hh, he⟩ <;> rw [he]
  · exact hs
  · exact (forall_files_iff rfl).mpr
      ⟨fun g hg => hs g (List.mem_reverse.mp hg), counted_ofPath path⟩
  · obtain ⟨hd, ho⟩ := (forall_files_iff hf).mp hs
    exact (forall_files_iff rfl).mpr ⟨hd, counted_attach_empty ho hl⟩
  · obtain ⟨hd, ho⟩ := (forall_files_iff hf).mp hs
    rw [hh] at ho
    exact (forall_files_iff rfl).mpr ⟨hd, by rw [hh]; exact counted_applyMarker ho m⟩
  · obtain ⟨hd, ho⟩ := (forall_files_iff hf).mp hs
    rw [hh] at ho
    exact (forall_files_iff rfl).mpr ⟨hd, counted_push ho k c _ _⟩

/-! ## Numbers -/

/-- While reading, every hunk read so far is numbered from its starts, and while a hunk is open
the running numbers are its starts plus its lines of each side. -/
structure Numbering (s : Scan) : Prop where
  /-- Every hunk of every file change read so far, the open one included, is numbered. -/
  hunks : ∀ f ∈ s.files, ∀ h ∈ f.hunks, h.NumberedFromStarts
  /-- The next old-side number of the open hunk. -/
  oldNo : ∀ h, s.hunk = some h → s.oldNo = h.oldStart + h.lines.countP (·.kind.onOld)
  /-- The next new-side number of the open hunk. -/
  newNo : ∀ h, s.hunk = some h → s.newNo = h.newStart + h.lines.countP (·.kind.onNew)

/-- Before any line there is nothing to number. -/
theorem numbering_init : Numbering init :=
  ⟨fun _ hf => by simp [files, init] at hf, (fun _ hh => by cases hh), (fun _ hh => by cases hh)⟩

/-- Reading one line keeps every hunk numbered from its starts. -/
theorem Numbering.step (hs : Numbering s) (line : List Char) : Numbering (s.step line) := by
  rcases step_cases s line with he | ⟨path, he⟩ | ⟨f, h₀, hf, hl, he⟩ | ⟨f, m, hf, hh, he⟩ |
      ⟨f, h, k, c, hf, hh, he⟩ <;> rw [he]
  · exact hs
  · refine ⟨(forall_files_iff rfl).mpr ⟨fun g hg => hs.hunks g (List.mem_reverse.mp hg), ?_⟩,
      (fun _ hh => by cases hh), (fun _ hh => by cases hh)⟩
    intro h hh
    simp [attach, FileChange.ofPath] at hh
  · obtain ⟨hd, ho⟩ := (forall_files_iff hf).mp hs.hunks
    refine ⟨(forall_files_iff rfl).mpr ⟨hd, fun h hm => ?_⟩, fun h hh => ?_, fun h hh => ?_⟩
    · rcases List.mem_append.mp (by simpa only [attach] using hm) with hm | hm
      · exact ho h hm
      · rw [List.mem_singleton.mp hm]
        exact Hunk.numberedFromStarts_of_nil hl
    · obtain rfl := Option.some.inj hh
      simp [hl]
    · obtain rfl := Option.some.inj hh
      simp [hl]
  · obtain ⟨hd, ho⟩ := (forall_files_iff hf).mp hs.hunks
    refine ⟨(forall_files_iff rfl).mpr ⟨hd, ?_⟩, hs.oldNo, hs.newNo⟩
    rw [hh] at ho ⊢
    simpa [attach] using ho
  · obtain ⟨hd, ho⟩ := (forall_files_iff hf).mp hs.hunks
    rw [hh] at ho
    have hold := hs.oldNo h hh
    have hnew := hs.newNo h hh
    have hnum : h.NumberedFromStarts := ho h (by simp [attach])
    have hpush := hnum.push (l := DiffLine.numbered k c s.oldNo s.newNo)
      (by rw [hold, hnew]; exact DiffLine.numberedAfter_numbered k c _ _ h.lines)
    refine ⟨(forall_files_iff rfl).mpr ⟨hd, fun g hg => ?_⟩, fun h' hh' => ?_, fun h' hh' => ?_⟩
    · rcases List.mem_append.mp (by simpa only [attach, FileChange.tally_hunks] using hg) with hg | hg
      · exact ho g (by simp [attach, hg])
      · rw [List.mem_singleton.mp hg]
        exact hpush
    · obtain rfl := Option.some.inj hh'
      simp only [List.countP_append, List.countP_singleton, hold, DiffLine.numbered]
      omega
    · obtain rfl := Option.some.inj hh'
      simp only [List.countP_append, List.countP_singleton, hnew, DiffLine.numbered]
      omega

end Diff.Scan

namespace Diff

/-- A diff read from a payload is the diff of some text. -/
theorem exists_ofText_of_ofPayload {p : Payload} {d : Diff} (h : ofPayload p = .ok d) :
    ∃ t, d = ofText t := by
  cases hp : p.lenientText with
  | ok t =>
    rw [ofPayload, hp] at h
    exact ⟨t, eq_ofText_of_read h⟩
  | error k =>
    rw [ofPayload, hp] at h
    cases h

/-- Summing the counts of file changes that each count their lines counts the lines of all. -/
theorem foldr_count_files {fs : List FileChange} {count : FileChange → Nat} {p : DiffLine → Bool}
    (h : ∀ f ∈ fs, count f = f.lines.countP p) :
    (fs.map count).foldr (· + ·) 0 = (fs.flatMap FileChange.lines).countP p := by
  induction fs with
  | nil => rfl
  | cons f fs ih =>
    rw [List.map_cons, List.foldr_cons, List.flatMap_cons, List.countP_append, h f List.mem_cons_self,
      ih fun g hg => h g (List.mem_cons_of_mem _ hg)]

/-- Every file change of a diff read from text or bytes counts exactly its lines: its additions
are the addition lines of its hunks and its deletions the deletion lines. The totals are the
number of files and the addition and deletion lines of all of them. -/
theorem counts_match_lines {p : Payload} {d : Diff} (hd : ofPayload p = .ok d) :
    (∀ f ∈ d.files, f.additions = f.lines.countP (·.kind == .addition) ∧
      f.deletions = f.lines.countP (·.kind == .deletion)) ∧
    d.stats = ⟨d.files.length, (d.files.flatMap FileChange.lines).countP (·.kind == .addition),
      (d.files.flatMap FileChange.lines).countP (·.kind == .deletion)⟩ := by
  obtain ⟨t, rfl⟩ := exists_ofText_of_ofPayload hd
  have hc : ∀ f ∈ (ofText t).files, f.Counted :=
    Scan.foldl_of_step (P := Scan.AllCounted) (fun s l hs => Scan.allCounted_step hs l) _
      (fun f hf => by simp [Scan.files, Scan.init] at hf)
  refine ⟨fun f hf => ⟨(hc f hf).additions, (hc f hf).deletions⟩, ?_⟩
  rw [Diff.stats, foldr_count_files fun f hf => (hc f hf).additions,
    foldr_count_files fun f hf => (hc f hf).deletions]

/-- A diff of one file with two hunks: lines of every kind, and a `\` line that is skipped. -/
def twoHunkText : String :=
  "diff --git a/f.py b/f.py\n@@ -1,2 +1,2 @@\n-a\n+b\n c\n\\ No newline at end of file\n" ++
    "@@ -10 +10,2 @@\n+d\n e"

/-- The two-hunk diff reads: no numeral is too long. -/
theorem ofPayload_twoHunkText : ofPayload (.text twoHunkText) = .ok (ofText twoHunkText) := by
  rfl

/-- The two-hunk diff reads, and counts its lines. -/
theorem counts_match_lines_twoHunks :
    ofPayload (.text twoHunkText) = .ok (ofText twoHunkText) ∧
      (∀ f ∈ (ofText twoHunkText).files, f.additions = f.lines.countP (·.kind == .addition) ∧
        f.deletions = f.lines.countP (·.kind == .deletion)) ∧
      (ofText twoHunkText).stats = ⟨(ofText twoHunkText).files.length,
        ((ofText twoHunkText).files.flatMap FileChange.lines).countP (·.kind == .addition),
        ((ofText twoHunkText).files.flatMap FileChange.lines).countP (·.kind == .deletion)⟩ :=
  ⟨ofPayload_twoHunkText, counts_match_lines ofPayload_twoHunkText⟩

/-- Every line of every hunk of a diff read from text or bytes is numbered from its hunk's
header alone: a context or deleted line has the old start plus the context and deleted lines
before it in the hunk, an addition no old number; a context or added line has the new start plus
the context and added lines before it, a deletion no new number. -/
theorem lines_numbered_from_starts {p : Payload} {d : Diff} (hd : ofPayload p = .ok d) :
    ∀ f ∈ d.files, ∀ hk ∈ f.hunks, ∀ pre l post, hk.lines = pre ++ l :: post →
      (l.kind.onOld = true → l.oldNumber = some (hk.oldStart + pre.countP (·.kind.onOld))) ∧
      (l.kind = .addition → l.oldNumber = none) ∧
      (l.kind.onNew = true → l.newNumber = some (hk.newStart + pre.countP (·.kind.onNew))) ∧
      (l.kind = .deletion → l.newNumber = none) := by
  obtain ⟨t, rfl⟩ := exists_ofText_of_ofPayload hd
  intro f hf hk hhk pre l post hl
  have hs : Scan.Numbering ((textLines t).foldl Scan.step Scan.init) :=
    Scan.foldl_of_step (P := Scan.Numbering) (fun s l hs => hs.step l) _ Scan.numbering_init
  have hn := hs.hunks f hf hk hhk pre l post hl
  exact ⟨hn.old_of_onOld, hn.old_of_addition, hn.new_of_onNew, hn.new_of_deletion⟩

/-- The two-hunk diff reads, and numbers its lines from its headers. -/
theorem lines_numbered_from_starts_twoHunks :
    ofPayload (.text twoHunkText) = .ok (ofText twoHunkText) ∧
      ∀ f ∈ (ofText twoHunkText).files, ∀ hk ∈ f.hunks, ∀ pre l post, hk.lines = pre ++ l :: post →
        (l.kind.onOld = true → l.oldNumber = some (hk.oldStart + pre.countP (·.kind.onOld))) ∧
        (l.kind = .addition → l.oldNumber = none) ∧
        (l.kind.onNew = true → l.newNumber = some (hk.newStart + pre.countP (·.kind.onNew))) ∧
        (l.kind = .deletion → l.newNumber = none) :=
  ⟨ofPayload_twoHunkText, lines_numbered_from_starts ofPayload_twoHunkText⟩

example : (ofText twoHunkText).files.map (·.hunks.map (·.lines.map fun l => (l.oldNumber, l.newNumber))) =
    [[[(some 1, none), (none, some 1), (some 2, some 2)], [(none, some 10), (some 10, some 11)]]] := by
  decide

end Diff

end ReviewPrep
