import ReviewPrep.Diff.Scan
import ReviewPrep.Proofs.Diff.Header

/-!
# One line of reading, by what the line is

`Scan.step` read one case at a time: a file header, a line before any file, a hunk header inside a
file, a line before a file's first hunk (a marker or nothing), and a line inside a hunk. Proofs
about whole runs cite these and never unfold `step`.
-/

namespace ReviewPrep.Diff.Scan

variable {s : Scan} {line : List Char}

/-- A marker changes what is known of a file, never its hunks. -/
@[simp] theorem applyMarker_hunks (f : FileChange) (m : Marker) : (applyMarker f m).hunks = f.hunks := by
  cases m <;> rfl

/-- A hunk line leaves the file open. -/
theorem hunkLine_file_isSome {f : FileChange} {h : Hunk} (hf : s.file = some f) :
    (s.hunkLine f h line).file.isSome := by
  unfold hunkLine
  split <;> simp [hf]

/-- A file header closes what is open and opens a file change at its new path. -/
theorem step_of_fileHeader {old new : List Char} (h : fileHeader? line = some (old, new)) :
    s.step line =
      { s with done := s.files.reverse, file := some (FileChange.ofPath (String.ofList new)),
               hunk := none } := by
  have hne : line.isEmpty = false := by
    cases line with
    | nil => simp [fileHeader?] at h
    | cons c cs => rfl
  simp only [step, hne, h, Bool.false_eq_true, ↓reduceIte]

/-- Before the first file header, every other line is ignored. -/
theorem step_of_file_none (hf : s.file = none) (h : fileHeader? line = none) : s.step line = s := by
  unfold step
  split
  · rfl
  · simp only [h, hf]

/-- Inside a file, a hunk header closes the open hunk onto the file and opens a new one, setting
the running numbers to its starts. -/
theorem step_of_hunkHeader {f : FileChange} {hh : HunkHeader} (hf : s.file = some f)
    (h : hunkHeader? line = some hh) :
    s.step line =
      { s with file := some (attach f s.hunk),
               hunk := some ⟨hh.oldStart, hh.oldLines, hh.newStart, hh.newLines, [],
                 String.ofList line, String.ofList hh.scope⟩,
               oldNo := hh.oldStart, newNo := hh.newStart } := by
  have hne : line.isEmpty = false := by
    cases line with
    | nil => simp [hunkHeader?_nil] at h
    | cons c cs => rfl
  simp only [step, hne, fileHeader?_eq_none_of_hunkHeader? h, hf, h, Bool.false_eq_true,
    ↓reduceIte]

/-- Inside a file and before its first hunk, a marker line that is no header applies its marker. -/
theorem step_of_marker {f : FileChange} {m : Marker} (hf : s.file = some f) (hh : s.hunk = none)
    (h₁ : fileHeader? line = none) (h₂ : hunkHeader? line = none) (hm : marker? line = some m) :
    s.step line = { s with file := some (applyMarker f m) } := by
  unfold step
  split
  · next hl =>
    rw [List.isEmpty_iff.mp hl] at hm
    simp [marker?] at hm
  · simp only [h₁, hf, h₂, hh, hm]

/-- Inside a file and before its first hunk, a line that is neither a header nor a marker is
ignored. -/
theorem step_of_not_marker {f : FileChange} (hf : s.file = some f) (hh : s.hunk = none)
    (h₁ : fileHeader? line = none) (h₂ : hunkHeader? line = none) (hm : marker? line = none) :
    s.step line = s := by
  unfold step
  split
  · rfl
  · simp only [h₁, hf, h₂, hh, hm]

/-- Inside a hunk, a line that is no header is a hunk line. -/
theorem step_of_hunkLine {f : FileChange} {h : Hunk} (hf : s.file = some f) (hh : s.hunk = some h)
    (h₁ : fileHeader? line = none) (h₂ : hunkHeader? line = none) :
    s.step line = s.hunkLine f h line := by
  unfold step
  split
  · next hl =>
    rw [List.isEmpty_iff.mp hl]
    rfl
  · simp only [h₁, hf, h₂, hh]

end ReviewPrep.Diff.Scan
