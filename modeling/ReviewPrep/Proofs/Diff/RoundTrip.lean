import ReviewPrep.Proofs.Diff.Render
import ReviewPrep.Proofs.Diff.Step
import ReviewPrep.Proofs.Lines
import Mathlib.Data.List.Basic

/-!
# Reading back a written diff

Reading inverts writing: for file changes that `FileText.Valid` admits, `read (render fs)` gives
back exactly `fs.map FileText.toFileChange` (`read_render`). The written lines come back from the
text, each reads as what it was written for, and reading runs over a hunk, a file and a list of
files, each run built on the one before. `render_limits` shows what validity rules out: a
section holding a line feed is cut in two, and a numeral too long makes reading fail.
-/

namespace ReviewPrep

open scoped List

/-- A file change with a read hunk appended and its added and deleted lines counted. -/
def FileChange.addHunk (F : FileChange) (hk : Diff.HunkText) : FileChange :=
  { F with hunks := F.hunks ++ [hk.toHunk], additions := F.additions + hk.count .addition,
           deletions := F.deletions + hk.count .deletion }

namespace Diff

/-! ## Reading one written line -/

/-- A text that does not start like a file header is none. -/
theorem fileHeader?_eq_none_of_not_isPrefixOf {line : List Char}
    (h : "diff --git a/".toList.isPrefixOf line = false) : fileHeader? line = none := by
  unfold fileHeader?
  simp only [h, Bool.false_eq_true, ↓reduceIte]

/-- A text that does not start like a hunk header is none. -/
theorem hunkHeader?_eq_none_of_not_isPrefixOf {line : List Char}
    (h : "@@ -".toList.isPrefixOf line = false) : hunkHeader? line = none := by
  unfold hunkHeader?
  simp only [h, Bool.false_eq_true, ↓reduceIte, Option.bind_eq_bind, Option.bind_none]

/-- A list is a prefix of itself followed by anything. -/
theorem isPrefixOf_append_self (p x : List Char) : p.isPrefixOf (p ++ x) = true :=
  List.isPrefixOf_iff_prefix.mpr (List.prefix_append p x)

/-- A written section, after its separating blank, trims back to itself. -/
theorem trim_header_scope {scope : List Char} (hs : Text.trim scope = scope) :
    Text.trim (if scope = [] then [] else ' ' :: scope) = scope := by
  split
  · next h => rw [h]; rfl
  · have hb : Text.isBlank ' ' = true := by decide
    rw [Text.trim, Text.trimLeft, List.dropWhile_cons_of_pos hb, ← Text.trimLeft, ← Text.trim, hs]

/-- A written hunk header reads back as its numbers and section, with the first of its four
numerals that is too long to read. -/
theorem hunkHeader?_header (h : HunkText) (hs : Text.trim h.scope = h.scope) :
    hunkHeader? h.header = some ⟨h.oldStart, h.oldLines, h.newStart, h.newLines, h.scope,
      firstOverlong [⟨h.oldStart, Text.decimalWidth h.oldStart⟩,
        ⟨h.oldLines, Text.decimalWidth h.oldLines⟩, ⟨h.newStart, Text.decimalWidth h.newStart⟩,
        ⟨h.newLines, Text.decimalWidth h.newLines⟩]⟩ := by
  have hcomma : Text.isDecimal ',' = false := by decide
  have hsp : Text.isDecimal ' ' = false := by decide
  have e : h.header = "@@ -".toList ++ (Nat.toDigits 10 h.oldStart ++ ',' ::
      (Nat.toDigits 10 h.oldLines ++ ' ' :: '+' :: (Nat.toDigits 10 h.newStart ++ ',' ::
        (Nat.toDigits 10 h.newLines ++ ' ' :: '@' :: '@' ::
          (if h.scope = [] then [] else ' ' :: h.scope))))) := by
    delta HunkText.header
    simp only [List.append_assoc, List.cons_append]
    rfl
  have hdrop : ∀ (p x : List Char) (n : Nat), p.length = n → (p ++ x).drop n = x :=
    fun p x n hn => List.drop_left' hn
  rw [e]
  unfold hunkHeader?
  simp only [Option.bind_eq_bind, Option.pure_def]
  rw [if_pos (isPrefixOf_append_self _ _), Option.bind_some, hdrop _ _ 4 rfl,
    number?_toDigits _ hcomma, Option.bind_some]
  simp only [count?_toDigits _ hsp]
  simp [List.isPrefixOf, number?_toDigits _ hcomma, count?_toDigits _ hsp, trim_header_scope hs]

/-- A hunk line is no file header: it starts with its mark. -/
theorem fileHeader?_render (l : LineText) : fileHeader? l.render = none := by
  apply fileHeader?_eq_none_of_not_isPrefixOf
  cases l with
  | mk kind text => cases kind <;> simp [LineText.render, LineKind.mark, List.isPrefixOf]

/-- A hunk line is no hunk header: it starts with its mark. -/
theorem hunkHeader?_render (l : LineText) : hunkHeader? l.render = none := by
  apply hunkHeader?_eq_none_of_not_isPrefixOf
  cases l with
  | mk kind text => cases kind <;> simp [LineText.render, LineKind.mark, List.isPrefixOf]

/-- A written file header reads back as its old and new path. -/
theorem fileHeader?_header {f : FileText} (hv : f.Valid) :
    fileHeader? f.header = some (f.change.oldPath?.getD f.path, f.path) := by
  have ho : f.change.oldPath?.getD f.path ≠ [] := by
    cases h : f.change.oldPath? with
    | none => exact hv.path_ne_nil
    | some o => exact hv.old_ne_nil o h
  exact fileHeader?_eq_some ho hv.path_ne_nil hv.path_sep

/-- A non-empty text occurs at the end of anything it ends. -/
theorem occursIn_append_self {p : List Char} (hp : p ≠ []) (x : List Char) :
    Text.occursIn p (x ++ p) = true := by
  induction x with
  | nil =>
    obtain ⟨c, cs, rfl⟩ := List.exists_cons_of_ne_nil hp
    simp [Text.occursIn, List.isPrefixOf_iff_prefix]
  | cons c x ih => simp [Text.occursIn, ih]

/-- The `Binary files … differ` line is the binary marker, whatever it names. -/
theorem marker?_binary (x : List Char) :
    marker? ("Binary files ".toList ++ x ++ " differ".toList) = some .binary := by
  have hd : ("Binary files ".toList ++ x ++ " differ".toList).drop "Binary files ".length =
      x ++ " differ".toList := by
    rw [List.append_assoc]
    exact List.drop_left' rfl
  unfold marker?
  rw [hd, occursIn_append_self (by simp) x]
  simp [List.isPrefixOf]

/-- A `rename from` line with a path is the rename marker for that path. -/
theorem marker?_renameFrom {old : List Char} (ho : old ≠ []) :
    marker? ("rename from ".toList ++ old) = some (.renameFrom old) := by
  have hlen : "rename from ".toList.length = "rename from ".length := rfl
  have hl : ("rename from ".toList.isPrefixOf ("rename from ".toList ++ old) &&
      decide (("rename from ".toList ++ old).length > "rename from ".length)) = true := by
    rw [isPrefixOf_append_self, Bool.true_and, decide_eq_true_eq, List.length_append, ← hlen]
    have := List.length_pos_iff.mpr ho
    omega
  unfold marker?
  rw [List.drop_left' hlen, if_neg (by simp [List.isPrefixOf]), if_neg (by simp [List.isPrefixOf]),
    if_neg (by simp [List.isPrefixOf]), if_pos hl]

/-- A `copy from` line with a path is the copy marker for that path. -/
theorem marker?_copyFrom {old : List Char} (ho : old ≠ []) :
    marker? ("copy from ".toList ++ old) = some (.copyFrom old) := by
  have hlen : "copy from ".toList.length = "copy from ".length := rfl
  have hl : ("copy from ".toList.isPrefixOf ("copy from ".toList ++ old) &&
      decide (("copy from ".toList ++ old).length > "copy from ".length)) = true := by
    rw [isPrefixOf_append_self, Bool.true_and, decide_eq_true_eq, List.length_append, ← hlen]
    have := List.length_pos_iff.mpr ho
    omega
  unfold marker?
  rw [List.drop_left' hlen, if_neg (by simp [List.isPrefixOf]), if_neg (by simp [List.isPrefixOf]),
    if_neg (by simp [List.isPrefixOf]), if_neg (by simp [List.isPrefixOf]), if_pos hl]

/-- The `new file mode 100644` line marks an added file. -/
theorem marker?_newFile : marker? "new file mode 100644".toList = some .newFile := by
  simp [marker?, List.isPrefixOf]

/-- The `deleted file mode 100644` line marks a deleted file. -/
theorem marker?_deletedFile : marker? "deleted file mode 100644".toList = some .deletedFile := by
  simp [marker?, List.isPrefixOf]

/-- The `rename to` and `copy to` lines are no markers: the path comes from the header. -/
theorem marker?_markers_later (new : List Char) :
    marker? ("rename to ".toList ++ new) = none ∧ marker? ("copy to ".toList ++ new) = none := by
  constructor <;> simp [marker?, List.isPrefixOf]

/-- The `index`, `---` and `+++` lines are no markers. -/
theorem marker?_names (x : List Char) :
    marker? ("index ".toList ++ x) = none ∧ marker? ("--- ".toList ++ x) = none ∧
      marker? ("+++ ".toList ++ x) = none := by
  refine ⟨?_, ?_, ?_⟩ <;> simp [marker?, List.isPrefixOf]

/-- The lines of a change start like neither kind of header. -/
theorem markers_not_header (new : List Char) (c : Change) :
    ∀ l ∈ c.markers new,
      "diff --git a/".toList.isPrefixOf l = false ∧ "@@ -".toList.isPrefixOf l = false := by
  cases c <;> simp [Change.markers, List.isPrefixOf]

/-- A preamble line is neither a file header nor a hunk header. -/
theorem header?_preamble {f : FileText} {l : List Char} (hl : l ∈ f.preamble) :
    fileHeader? l = none ∧ hunkHeader? l = none := by
  have key : "diff --git a/".toList.isPrefixOf l = false ∧ "@@ -".toList.isPrefixOf l = false := by
    simp only [FileText.preamble, List.mem_append, Option.mem_toList, Option.map_eq_some_iff] at hl
    rcases hl with (((hl | ⟨x, -, rfl⟩) | ⟨x, -, rfl⟩) | ⟨x, -, rfl⟩) | ⟨x, -, rfl⟩
    · exact markers_not_header f.path f.change l hl
    all_goals simp [List.isPrefixOf]
  exact ⟨fileHeader?_eq_none_of_not_isPrefixOf key.1, hunkHeader?_eq_none_of_not_isPrefixOf key.2⟩

/-- An optional line whose every form is no marker gives no marker. -/
theorem filterMap_marker?_option {t : List Char} (ht : ∀ y, marker? (t ++ y) = none)
    (x : Option (List Char)) : ((x.map (t ++ ·)).toList).filterMap marker? = [] := by
  cases x <;> simp [ht]

/-- The lines that state a change, applied to a fresh file change, set exactly its status and
old path. -/
theorem foldl_applyMarker_markers {c : Change} (ho : ∀ o ∈ c.oldPath?, o ≠ []) (new : List Char)
    (p : String) :
    ((c.markers new).filterMap marker?).foldl Scan.applyMarker (FileChange.ofPath p) =
      { FileChange.ofPath p with
        oldPath := c.oldPath?.map String.ofList
        status := c.status } := by
  cases c with
  | renamed o =>
    simp only [Change.markers, List.filterMap_cons, marker?_renameFrom (ho o rfl),
      (marker?_markers_later _).1, List.filterMap_nil]
    simp [Scan.applyMarker, Change.status, Change.oldPath?]
  | copied o =>
    simp only [Change.markers, List.filterMap_cons, marker?_copyFrom (ho o rfl),
      (marker?_markers_later _).2, List.filterMap_nil]
    simp [Scan.applyMarker, Change.status, Change.oldPath?]
  | modified | added | deleted =>
    simp only [Change.markers, List.filterMap_cons, marker?_newFile, marker?_deletedFile,
      List.filterMap_nil]
    simp [Scan.applyMarker, FileChange.ofPath, Change.status, Change.oldPath?]

/-- The markers of a preamble, applied to a fresh file change, set exactly its status, old path
and binary flag. -/
theorem foldl_applyMarker_preamble (f : FileText) (ho : ∀ o ∈ f.change.oldPath?, o ≠ [])
    (p : String) :
    (f.preamble.filterMap marker?).foldl Scan.applyMarker (FileChange.ofPath p) =
      { FileChange.ofPath p with
        oldPath := f.change.oldPath?.map String.ofList
        status := f.change.status
        isBinary := f.binary.isSome } := by
  have hb : ((f.binary.map fun x => "Binary files ".toList ++ x ++ " differ".toList).toList).filterMap
      marker? = (f.binary.map fun _ => Marker.binary).toList := by
    cases f.binary with
    | none => rfl
    | some x => simp only [Option.map_some, Option.toList_some, List.filterMap_cons, marker?_binary,
        List.filterMap_nil]
  unfold FileText.preamble
  rw [List.filterMap_append, List.filterMap_append, List.filterMap_append, List.filterMap_append,
    filterMap_marker?_option (fun y => (marker?_names y).1),
    filterMap_marker?_option (fun y => (marker?_names y).2.1),
    filterMap_marker?_option (fun y => (marker?_names y).2.2), hb, List.append_nil,
    List.append_nil, List.append_nil, List.foldl_append, foldl_applyMarker_markers ho]
  cases f.binary <;> simp [Scan.applyMarker, FileChange.ofPath]

/-! ## Carriage returns and line feeds -/

/-- Stripping the end of a text goes no further back than a kept last character of its front. -/
theorem dropRightOf_append {set p : List Char} (hp : ∀ c ∈ p.getLast?, c ∉ set) (x : List Char) :
    Text.dropRightOf set (p ++ x) = p ++ Text.dropRightOf set x := by
  have hkeep : p.reverse.dropWhile (set.contains ·) = p.reverse := by
    cases hr : p.reverse with
    | nil => rfl
    | cons c r =>
      have hc : c ∈ p.getLast? := by rw [← List.head?_reverse, hr]; rfl
      exact List.dropWhile_cons_of_neg (by simpa using hp c hc)
  unfold Text.dropRightOf
  rw [List.reverse_append, List.dropWhile_append]
  split
  · next h => rw [List.isEmpty_iff.mp h, hkeep]; simp
  · simp

/-- Nothing is stripped from an empty text. -/
@[simp]
theorem dropRightOf_nil (set : List Char) : Text.dropRightOf set [] = [] := rfl

/-- A text whose last character is kept is not stripped. -/
theorem dropRightOf_eq_self {set cs : List Char} (h : ∀ c ∈ cs.getLast?, c ∉ set) :
    Text.dropRightOf set cs = cs := by
  simpa using dropRightOf_append h []

/-- A stripped text never ends in a character it strips. -/
theorem not_mem_dropRightOf {c : Char} {set cs : List Char} (h : c ∉ cs) :
    c ∉ Text.dropRightOf set cs := by
  obtain ⟨r, hr⟩ := exists_eq_dropRightOf_append set cs
  intro hm
  apply h
  rw [hr]
  exact List.mem_append_left r hm

/-- A trimmed text does not end in white space. -/
theorem isBlank_getLast?_trim {cs : List Char} {c : Char} (h : c ∈ (Text.trim cs).getLast?) :
    Text.isBlank c = false := by
  have key := List.head?_dropWhile_not Text.isBlank (Text.trimLeft cs).reverse
  rw [Text.trim, Text.trimRight, List.getLast?_reverse] at h
  rw [Option.mem_def] at h
  rw [h] at key
  exact key

/-- A text that does not end in a carriage return loses none. -/
theorem strip_eq_self {cs : List Char} (h : cs.getLast? ≠ some '\r') :
    Text.dropRightOf ['\r'] cs = cs :=
  dropRightOf_eq_self fun c hc hm => h (by simp_all)

/-- Stripping carriage returns from a text with a clean front strips only its back. -/
theorem strip_append {p : List Char} (h : p.getLast? ≠ some '\r') (x : List Char) :
    Text.dropRightOf ['\r'] (p ++ x) = p ++ Text.dropRightOf ['\r'] x :=
  dropRightOf_append (fun c hc hm => h (by simp_all)) x

/-- Lines that lose no carriage return are kept as they are. -/
theorem map_strip_eq_self {L : List (List Char)} (h : ∀ l ∈ L, Text.dropRightOf ['\r'] l = l) :
    L.map (Text.dropRightOf ['\r']) = L :=
  (List.map_congr_left h).trans (List.map_id L)

/-- A text equal to its trimmed form does not end in a carriage return. -/
theorem getLast?_ne_of_trim {scope : List Char} (hs : Text.trim scope = scope) :
    scope.getLast? ≠ some '\r' := by
  intro h
  have h' : '\r' ∈ (Text.trim scope).getLast? := by
    rw [hs]
    exact h
  exact absurd (isBlank_getLast?_trim h') (by decide)

/-- A written hunk line loses no carriage return. -/
theorem strip_render_line {l : LineText} (h : OneLine l.text) :
    Text.dropRightOf ['\r'] l.render = l.render := by
  apply strip_eq_self
  obtain ⟨kind, text⟩ := l
  rw [LineText.render, List.getLast?_cons]
  cases ht : text.getLast? with
  | none => cases kind <;> simp [LineKind.mark]
  | some c =>
    have hc : c ≠ '\r' := fun hc => h.2 (hc ▸ ht)
    simpa using hc

/-- A written hunk header loses no carriage return. -/
theorem strip_header_hunk {hk : HunkText} (hs : Text.trim hk.scope = hk.scope) :
    Text.dropRightOf ['\r'] hk.header = hk.header := by
  delta HunkText.header
  rw [strip_append (by rw [List.getLast?_append_of_ne_nil _ (by simp)]; simp)]
  congr 1
  split
  · rfl
  · next hne =>
    apply strip_eq_self
    rw [List.getLast?_cons]
    obtain ⟨c, hc⟩ := Option.ne_none_iff_exists'.mp (mt List.getLast?_eq_none_iff.mp hne)
    rw [hc]
    simpa [hc] using getLast?_ne_of_trim hs

/-- No line of a valid written hunk loses a carriage return. -/
theorem strip_render_hunk {hk : HunkText} (hv : hk.Valid) :
    ∀ l ∈ hk.render, Text.dropRightOf ['\r'] l = l := by
  intro l hl
  rw [HunkText.render, List.mem_cons, List.mem_map] at hl
  rcases hl with rfl | ⟨t, ht, rfl⟩
  · exact strip_header_hunk hv.scope_trim
  · exact strip_render_line (hv.lines_oneLine t ht)

/-- A valid written file header loses no carriage return. -/
theorem strip_header_file {f : FileText} (hv : f.Valid) :
    Text.dropRightOf ['\r'] f.header = f.header := by
  apply strip_eq_self
  delta FileText.header
  rw [List.getLast?_append_of_ne_nil _ hv.path_ne_nil]
  exact hv.path_oneLine.2

/-- A text of one line after a front without line feeds is still one line. -/
theorem OneLine.append_left {o : List Char} (ho : OneLine o) (hne : o ≠ []) {w : List Char}
    (hw : '\n' ∉ w) : OneLine (w ++ o) := by
  refine ⟨by simp [hw, ho.1], ?_⟩
  rw [List.getLast?_append_of_ne_nil _ hne]
  exact ho.2

/-- Every line that states the change of a valid file is one line. -/
theorem oneLine_of_mem_markers {f : FileText} (hv : f.Valid) {l : List Char}
    (hl : l ∈ f.change.markers f.path) : OneLine l := by
  cases hc : f.change with
  | modified => simp [hc, Change.markers] at hl
  | added | deleted =>
    simp only [hc, Change.markers, List.mem_singleton] at hl
    subst hl
    decide
  | renamed o | copied o =>
    have ho : o ∈ f.change.oldPath? := by simp [hc, Change.oldPath?]
    simp only [hc, Change.markers, List.mem_cons, List.not_mem_nil, or_false] at hl
    rcases hl with rfl | rfl
    · exact (hv.old_oneLine o ho).append_left (hv.old_ne_nil o ho) (by decide)
    · exact hv.path_oneLine.append_left hv.path_ne_nil (by decide)

/-- No line of a valid change loses a carriage return. -/
theorem strip_markers {f : FileText} (hv : f.Valid) :
    ∀ l ∈ f.change.markers f.path, Text.dropRightOf ['\r'] l = l :=
  fun _ hl => strip_eq_self (oneLine_of_mem_markers hv hl).2

/-- An optional line with a clean front loses only the carriage returns of its text. -/
theorem map_strip_option {t : List Char} (ht : t.getLast? ≠ some '\r') (x : Option (List Char)) :
    (x.map (t ++ ·)).toList.map (Text.dropRightOf ['\r']) =
      ((x.map (Text.dropRightOf ['\r'])).map (t ++ ·)).toList := by
  cases x with
  | none => rfl
  | some y => simp only [Option.map_some, Option.toList_some, List.map_cons, List.map_nil,
      strip_append ht]

/-- A written file change with the texts of its `index`, `---` and `+++` lines stripped of their
trailing carriage returns, as reading sees it. -/
def FileText.stripped (f : FileText) : FileText :=
  { f with
    index := f.index.map (Text.dropRightOf ['\r'])
    oldName := f.oldName.map (Text.dropRightOf ['\r'])
    newName := f.newName.map (Text.dropRightOf ['\r']) }

/-- Stripping a valid file change keeps it valid. -/
theorem FileText.Valid.stripped {f : FileText} (hv : f.Valid) : f.stripped.Valid where
  path_ne_nil := hv.path_ne_nil
  path_oneLine := hv.path_oneLine
  path_sep := hv.path_sep
  old_ne_nil := hv.old_ne_nil
  old_oneLine := hv.old_oneLine
  index_oneLine x hx := by
    obtain ⟨y, hy, rfl⟩ := Option.map_eq_some_iff.mp hx
    exact not_mem_dropRightOf (hv.index_oneLine y hy)
  oldName_oneLine x hx := by
    obtain ⟨y, hy, rfl⟩ := Option.map_eq_some_iff.mp hx
    exact not_mem_dropRightOf (hv.oldName_oneLine y hy)
  newName_oneLine x hx := by
    obtain ⟨y, hy, rfl⟩ := Option.map_eq_some_iff.mp hx
    exact not_mem_dropRightOf (hv.newName_oneLine y hy)
  binary_oneLine := hv.binary_oneLine
  hunks_valid := hv.hunks_valid

/-- Stripping the optional texts does not change what the file change reads as. -/
@[simp]
theorem FileText.toFileChange_stripped (f : FileText) : f.stripped.toFileChange = f.toFileChange :=
  rfl

/-- Reading strips a valid written file change: each of its lines loses its trailing carriage
returns, which only the `index`, `---` and `+++` lines can have. -/
theorem render_map_strip {f : FileText} (hv : f.Valid) :
    f.render.map (Text.dropRightOf ['\r']) = f.stripped.render := by
  have hbin : ((f.binary.map fun x => "Binary files ".toList ++ x ++ " differ".toList).toList).map
      (Text.dropRightOf ['\r']) =
        (f.binary.map fun x => "Binary files ".toList ++ x ++ " differ".toList).toList := by
    cases f.binary with
    | none => rfl
    | some x =>
      simp only [Option.map_some, Option.toList_some, List.map_cons, List.map_nil]
      rw [strip_eq_self (by rw [List.getLast?_append_of_ne_nil _ (by simp)]; simp)]
  have hhunks : (f.hunks.flatMap HunkText.render).map (Text.dropRightOf ['\r']) =
      f.hunks.flatMap HunkText.render :=
    map_strip_eq_self fun l hl => by
      obtain ⟨hk, hk_mem, hl⟩ := List.mem_flatMap.mp hl
      exact strip_render_hunk (hv.hunks_valid hk hk_mem) l hl
  rw [FileText.render, FileText.render, List.map_cons, strip_header_file hv, List.map_append, hhunks,
    FileText.preamble, FileText.preamble, List.map_append, List.map_append, List.map_append,
    List.map_append, map_strip_eq_self (strip_markers hv), map_strip_option (by simp),
    map_strip_option (by simp), map_strip_option (by simp), hbin]
  rfl

/-- Written digits hold no line feed. -/
theorem newline_not_mem_toDigits (n : Nat) : '\n' ∉ Nat.toDigits 10 n := fun h =>
  absurd (Nat.isDigit_of_mem_toDigits (by decide) (by decide) h) (by decide)

/-- A written hunk header whose section has no line feed has none. -/
theorem newline_not_mem_header_hunk {hk : HunkText} (hs : '\n' ∉ hk.scope) : '\n' ∉ hk.header := by
  delta HunkText.header
  split <;> simp [newline_not_mem_toDigits, hs]

/-- No line of a valid written hunk holds a line feed. -/
theorem newline_not_mem_render_hunk {hk : HunkText} (hv : hk.Valid) :
    ∀ l ∈ hk.render, '\n' ∉ l := by
  intro l hl
  rw [HunkText.render, List.mem_cons, List.mem_map] at hl
  rcases hl with rfl | ⟨⟨kind, text⟩, ht, rfl⟩
  · exact newline_not_mem_header_hunk hv.scope_oneLine
  · have hnl := (hv.lines_oneLine _ ht).1
    cases kind <;> simp_all [LineText.render, LineKind.mark]

/-- No line of a valid written file change holds a line feed. -/
theorem newline_not_mem_render {f : FileText} (hv : f.Valid) : ∀ l ∈ f.render, '\n' ∉ l := by
  intro l hl
  rw [FileText.render, List.mem_cons, List.mem_append] at hl
  rcases hl with rfl | hl | hl
  · have hO : ∀ o ∈ f.change.oldPath?, '\n' ∉ o := fun o ho => (hv.old_oneLine o ho).1
    delta FileText.header
    cases h : f.change.oldPath? <;> simp [hv.path_oneLine.1, hO, h]
  · simp only [FileText.preamble, List.mem_append, Option.mem_toList, Option.map_eq_some_iff] at hl
    rcases hl with (((hl | ⟨x, hx, rfl⟩) | ⟨x, hx, rfl⟩) | ⟨x, hx, rfl⟩) | ⟨x, hx, rfl⟩
    · exact (oneLine_of_mem_markers hv hl).1
    · simp [hv.index_oneLine x hx]
    · simp [hv.oldName_oneLine x hx]
    · simp [hv.newName_oneLine x hx]
    · simp [hv.binary_oneLine x hx]
  · obtain ⟨hk, hk_mem, hl⟩ := List.mem_flatMap.mp hl
    exact newline_not_mem_render_hunk (hv.hunks_valid hk hk_mem) l hl

/-- The lines of a written diff, as reading cuts and strips them, are the written lines of its
stripped file changes. -/
theorem textLines_render {fs : List FileText} (hv : ∀ f ∈ fs, f.Valid) (hne : fs ≠ []) :
    textLines (render fs) = (fs.map FileText.stripped).flatMap FileText.render := by
  have hL : fs.flatMap FileText.render ≠ [] := by
    obtain ⟨f, fs', rfl⟩ := List.exists_cons_of_ne_nil hne
    simp [FileText.render]
  have hnl : ∀ l ∈ fs.flatMap FileText.render, '\n' ∉ l := by
    intro l hl
    obtain ⟨f, hf, hl⟩ := List.mem_flatMap.mp hl
    exact newline_not_mem_render (hv f hf) l hl
  rw [textLines, render, String.toList_ofList, Text.splitOnText_singleton,
    List.splitOn_intercalate _ hnl hL, List.map_flatMap, List.flatMap_map]
  exact List.flatMap_congr fun f hf => render_map_strip (hv f hf)

/-! ## Runs of reading -/

/-- The hunk lines numbered from a pair of starts: the first line, then the rest from the starts
it moved on. -/
theorem numberLines_cons (o n : Nat) (l : LineText) (ls : List LineText) :
    numberLines o n (l :: ls) =
      numberLines o n [l] ++
        numberLines (o + if l.kind = .addition then 0 else 1)
          (n + if l.kind = .deletion then 0 else 1) ls := by
  obtain ⟨kind, text⟩ := l
  cases kind <;> simp [numberLines]

namespace Scan

/-- A hunk line read into the open hunk counts on the file, joins the hunk with the running
numbers, and moves on the numbers of its sides. -/
theorem hunkLine_render {s : Scan} {f : FileChange} (hf : s.file = some f) (h : Hunk) (l : LineText) :
    s.hunkLine f h l.render =
      { s with
        file := some { f with additions := f.additions + if l.kind = .addition then 1 else 0,
                              deletions := f.deletions + if l.kind = .deletion then 1 else 0 }
        hunk := some { h with lines := h.lines ++ numberLines s.oldNo s.newNo [l] }
        oldNo := s.oldNo + if l.kind = .addition then 0 else 1
        newNo := s.newNo + if l.kind = .deletion then 0 else 1 } := by
  obtain ⟨kind, text⟩ := l
  cases kind <;> simp [hunkLine, LineText.render, LineKind.mark, numberLines, hf]

/-- Reading hunk lines inside a hunk counts them on the file, appends them numbered from the
running numbers, and moves the numbers on by the lines of each side. -/
theorem foldl_step_lines {s : Scan} {f : FileChange} {h : Hunk} (hf : s.file = some f)
    (hh : s.hunk = some h) (ls : List LineText) :
    (ls.map LineText.render).foldl step s =
      { s with
        file := some { f with additions := f.additions + ls.countP (·.kind == .addition),
                              deletions := f.deletions + ls.countP (·.kind == .deletion) }
        hunk := some { h with lines := h.lines ++ numberLines s.oldNo s.newNo ls }
        oldNo := s.oldNo + ls.countP (·.kind != .addition)
        newNo := s.newNo + ls.countP (·.kind != .deletion) } := by
  induction ls generalizing s f h with
  | nil =>
    obtain ⟨done, file, hunk, oldNo, newNo⟩ := s
    cases hf
    cases hh
    simp [numberLines]
  | cons l ls ih =>
    rw [List.map_cons, List.foldl_cons, step_of_hunkLine hf hh (fileHeader?_render l)
      (hunkHeader?_render l), hunkLine_render hf, ih rfl rfl, numberLines_cons s.oldNo s.newNo l ls]
    cases hk : l.kind <;> simp [hk] <;> omega

/-- The file change a reading state has open, its open hunk attached. -/
def current (s : Scan) : Option FileChange := s.file.map (attach · s.hunk)

/-- The file changes read so far are the closed ones and the open one. -/
theorem files_eq_done_current (s : Scan) : s.files = s.done.reverse ++ s.current.toList := by
  unfold files current
  cases s.file <;> simp

/-- Reading a valid written hunk inside a file closes nothing and adds the hunk to the open file
change. -/
theorem foldl_step_hunk {s : Scan} {F : FileChange} (hc : s.current = some F) (hk : HunkText)
    (hs : Text.trim hk.scope = hk.scope) :
    (hk.render.foldl step s).done = s.done ∧
      (hk.render.foldl step s).current = some (F.addHunk hk) := by
  obtain ⟨f, hf, hF⟩ := Option.map_eq_some_iff.mp hc
  rw [HunkText.render, List.foldl_cons, step_of_hunkHeader hf (hunkHeader?_header hk hs),
    foldl_step_lines rfl rfl]
  simp only [hF]
  simp [current, attach, FileChange.addHunk, HunkText.toHunk, HunkText.count]

/-- Reading valid written hunks inside a file closes nothing and adds each hunk in turn. -/
theorem foldl_step_hunks {s : Scan} {F : FileChange} (hc : s.current = some F)
    (hks : List HunkText) (hs : ∀ hk ∈ hks, Text.trim hk.scope = hk.scope) :
    ((hks.flatMap HunkText.render).foldl step s).done = s.done ∧
      ((hks.flatMap HunkText.render).foldl step s).current = some (hks.foldl FileChange.addHunk F) := by
  induction hks generalizing s F with
  | nil => exact ⟨rfl, hc⟩
  | cons hk hks ih =>
    obtain ⟨hd, hc'⟩ := foldl_step_hunk hc hk (hs hk List.mem_cons_self)
    obtain ⟨hd', hc''⟩ := ih hc' fun k hk' => hs k (List.mem_cons_of_mem _ hk')
    rw [List.flatMap_cons, List.foldl_append]
    exact ⟨hd'.trans hd, hc''⟩

/-- Before a file's first hunk, lines that are no headers apply their markers in turn. -/
theorem foldl_step_markers {s : Scan} {f : FileChange} (hf : s.file = some f) (hh : s.hunk = none)
    (ls : List (List Char)) (hl : ∀ l ∈ ls, fileHeader? l = none ∧ hunkHeader? l = none) :
    ls.foldl step s = { s with file := some ((ls.filterMap marker?).foldl applyMarker f) } := by
  induction ls generalizing s f with
  | nil =>
    obtain ⟨done, file, hunk, oldNo, newNo⟩ := s
    cases hf
    rfl
  | cons l ls ih =>
    obtain ⟨h₁, h₂⟩ := hl l List.mem_cons_self
    have hl' := fun l' hl' => hl l' (List.mem_cons_of_mem _ hl')
    rw [List.foldl_cons]
    cases hm : marker? l with
    | none =>
      rw [step_of_not_marker hf hh h₁ h₂ hm]
      simp only [List.filterMap_cons, hm]
      exact ih hf hh hl'
    | some m =>
      rw [step_of_marker hf hh h₁ h₂ hm]
      simp only [List.filterMap_cons, hm, List.foldl_cons]
      exact ih rfl hh hl'

/-- Adding hunks one by one appends them and adds up their counts. -/
theorem foldl_addHunk (hks : List HunkText) (F : FileChange) :
    hks.foldl FileChange.addHunk F =
      { F with
        hunks := F.hunks ++ hks.map HunkText.toHunk
        additions := F.additions + (hks.map (HunkText.count .addition)).foldr (· + ·) 0
        deletions := F.deletions + (hks.map (HunkText.count .deletion)).foldr (· + ·) 0 } := by
  induction hks generalizing F with
  | nil => simp
  | cons hk hks ih =>
    rw [List.foldl_cons, ih]
    simp only [FileChange.addHunk, List.append_assoc, List.map_cons, List.foldr_cons,
      List.singleton_append, FileChange.mk.injEq, true_and]
    omega

/-- Reading a valid written file change adds it, as written, to the file changes read. -/
theorem foldl_step_file (s : Scan) {f : FileText} (hv : f.Valid) :
    (f.render.foldl step s).files = s.files ++ [f.toFileChange] := by
  rw [FileText.render, List.foldl_cons, step_of_fileHeader (fileHeader?_header hv), List.foldl_append,
    foldl_step_markers rfl rfl _ fun l hl => header?_preamble hl]
  have hs : ∀ hk ∈ f.hunks, Text.trim hk.scope = hk.scope := fun hk h => (hv.hunks_valid hk h).scope_trim
  have hF := foldl_applyMarker_preamble f hv.old_ne_nil (String.ofList f.path)
  generalize (f.preamble.filterMap marker?).foldl applyMarker _ = F at hF ⊢
  obtain ⟨hd, hc⟩ := foldl_step_hunks (s := ⟨s.files.reverse, some F, none, s.oldNo, s.newNo⟩) rfl
    f.hunks hs
  rw [files_eq_done_current, hd, hc, foldl_addHunk, hF]
  simp [FileText.toFileChange, FileChange.ofPath, attach]

/-- Reading valid written file changes adds them, as written, to the file changes read. -/
theorem foldl_step_files (s : Scan) {fs : List FileText} (hv : ∀ f ∈ fs, f.Valid) :
    ((fs.flatMap FileText.render).foldl step s).files = s.files ++ fs.map FileText.toFileChange := by
  induction fs generalizing s with
  | nil => simp
  | cons f fs ih =>
    rw [List.flatMap_cons, List.foldl_append, ih _ fun g hg => hv g (List.mem_cons_of_mem _ hg),
      foldl_step_file s (hv f List.mem_cons_self)]
    simp

end Scan

/-! ## Numerals and the round trip -/

/-- With no hunk header that has a numeral too long, no numeral is refused. -/
theorem overlongNumeral?_go_eq_none {L : List (List Char)}
    (h : ∀ l ∈ L, ∀ hh, hunkHeader? l = some hh → hh.overlong = none) (b : Bool) :
    overlongNumeral?.go b L = none := by
  induction L generalizing b with
  | nil => rfl
  | cons l L ih =>
    have hL := fun l' hl' => h l' (List.mem_cons_of_mem _ hl')
    unfold overlongNumeral?.go
    split
    · exact ih hL true
    · split
      · next hh heq =>
        have hw : hh.overlong = none := by
          cases b
          · simp at heq
          · exact h l List.mem_cons_self hh (by simpa using heq)
        rw [hw, Option.none_or]
        exact ih hL b
      · exact ih hL b

/-- A number below `10 ^ Text.maxDigits` has at most `Text.maxDigits` digits. -/
theorem decimalWidth_le {n : Nat} (h : n < Nat.pow 10 Text.maxDigits) :
    Text.decimalWidth n ≤ Text.maxDigits := by
  have hk : 0 < Text.maxDigits := by decide
  generalize Text.maxDigits = k at h hk ⊢
  rw [Nat.pow_eq] at h
  exact (Nat.length_toDigits_le_iff (by decide) hk).mpr h

/-- No numeral of a valid written hunk is too long to read. -/
theorem overlong_of_render_hunk {hk : HunkText} (hv : hk.Valid) {l : List Char}
    (hl : l ∈ hk.render) {hh : HunkHeader} (h : hunkHeader? l = some hh) :
    hh.overlong = none := by
  rw [HunkText.render, List.mem_cons, List.mem_map] at hl
  rcases hl with rfl | ⟨t, -, rfl⟩
  · rw [hunkHeader?_header hk hv.scope_trim, Option.some_inj] at h
    subst h
    have h₁ := decimalWidth_le hv.oldStart_lt
    have h₂ := decimalWidth_le hv.oldLines_lt
    have h₃ := decimalWidth_le hv.newStart_lt
    have h₄ := decimalWidth_le hv.newLines_lt
    apply firstOverlong_eq_none
    simp only [List.mem_cons, List.not_mem_nil, or_false]
    rintro n (rfl | rfl | rfl | rfl) <;> assumption
  · simp [hunkHeader?_render] at h

/-- No numeral of a valid written file change is too long to read. -/
theorem overlong_of_render {f : FileText} (hv : f.Valid) {l : List Char} (hl : l ∈ f.render)
    {hh : HunkHeader} (h : hunkHeader? l = some hh) : hh.overlong = none := by
  rw [FileText.render, List.mem_cons, List.mem_append] at hl
  rcases hl with rfl | hl | hl
  · simp [hunkHeader?_eq_none_of_fileHeader? (fileHeader?_header hv)] at h
  · simp [(header?_preamble hl).2] at h
  · obtain ⟨hk, hk_mem, hl⟩ := List.mem_flatMap.mp hl
    exact overlong_of_render_hunk (hv.hunks_valid hk hk_mem) hl h

/-- A text with no numeral too long reads as its file changes. -/
theorem read_eq_ok {t : String} (h : overlongNumeral? (textLines t) = none) :
    read t = .ok (ofText t) := by
  unfold read
  rw [h]

/-- A text with a numeral too long fails to read, naming its number of digits. -/
theorem read_eq_error {t : String} {w : Nat} (h : overlongNumeral? (textLines t) = some w) :
    read t = .error (.overlongNumeral w) := by
  unfold read
  rw [h]

/-- Reading a written diff of valid file changes gives back the file changes as written: paths,
change, binary flag, and hunks with their numbers, header, section, numbered lines and counts. -/
theorem read_render {fs : List FileText} (hv : ∀ f ∈ fs, f.Valid) :
    read (render fs) = .ok ⟨fs.map FileText.toFileChange⟩ := by
  by_cases hne : fs = []
  · subst hne
    rfl
  · have hv' : ∀ f ∈ fs.map FileText.stripped, f.Valid := by
      simp only [List.mem_map, forall_exists_index, and_imp, forall_apply_eq_imp_iff₂]
      exact fun f hf => (hv f hf).stripped
    have hw : overlongNumeral? (textLines (render fs)) = none := by
      rw [textLines_render hv hne]
      refine overlongNumeral?_go_eq_none (fun l hl hh h => ?_) false
      obtain ⟨f, hf, hl⟩ := List.mem_flatMap.mp hl
      exact overlong_of_render (hv' f hf) hl h
    rw [read_eq_ok hw, ofText, textLines_render hv hne, Scan.foldl_step_files _ hv']
    simp [Scan.files, Scan.init, Function.comp_def]

/-- A renamed file with an `index` line, both name lines and one hunk. -/
def renamedSample : FileText where
  path := "src/b.py".toList
  change := .renamed "src/a.py".toList
  index := some "0a1b2c3..4d5e6f7 100644".toList
  oldName := some "a/src/a.py".toList
  newName := some "b/src/b.py".toList
  binary := none
  hunks := [⟨3, 2, 3, 3, "def f():".toList,
    [⟨.context, "    x = 1".toList⟩, ⟨.addition, "    y = 2".toList⟩,
      ⟨.context, "    return x".toList⟩]⟩]

/-- The renamed sample is valid, and reading its text gives it back. -/
theorem read_render_renamedSample :
    (∀ f ∈ [renamedSample], f.Valid) ∧
      read (render [renamedSample]) = .ok ⟨[renamedSample].map FileText.toFileChange⟩ := by
  have hv : ∀ f ∈ [renamedSample], f.Valid := by
    intro f hf
    rw [List.mem_singleton] at hf
    subst hf
    refine ⟨by decide, by decide, by decide, by decide, by decide, by decide, by decide, by decide,
      by decide, ?_⟩
    intro hk hk_mem
    obtain rfl := List.mem_singleton.mp hk_mem
    exact ⟨by decide +kernel, by decide +kernel, by decide +kernel, by decide +kernel, by decide,
      by decide, by decide⟩
  exact ⟨hv, read_render hv⟩
/-- A file change whose hunk section is its own trimmed form but holds a line feed. -/
def cutSection : FileText :=
  ⟨"f.py".toList, .modified, none, none, none, none, [⟨1, 1, 1, 1, "a\nb".toList, []⟩]⟩

/-- The hunk of `longStart`, whose old start has `Text.maxDigits + 1` digits. -/
def longStartHunk : HunkText := ⟨Nat.pow 10 Text.maxDigits, 1, 1, 1, [], []⟩

/-- A file change whose one hunk is `longStartHunk`. -/
def longStart : FileText := ⟨"f.py".toList, .modified, none, none, none, none, [longStartHunk]⟩

/-- A power of ten has one more digit than its exponent. -/
theorem decimalWidth_ten_pow (k : Nat) : Text.decimalWidth (Nat.pow 10 k) = k + 1 := by
  have hle : Text.decimalWidth (Nat.pow 10 k) ≤ k + 1 :=
    (Nat.length_toDigits_le_iff (by decide) (by omega)).mpr (Nat.pow_lt_pow_succ (by decide))
  have hgt : ¬ Text.decimalWidth (Nat.pow 10 k) ≤ k := by
    intro h
    cases k with
    | zero => simp [Text.decimalWidth] at h
    | succ k => exact Nat.lt_irrefl _ ((Nat.length_toDigits_le_iff (by decide) (by omega)).mp h)
  omega

/-- Where validity is needed. A section that is its own trimmed form but holds a line feed is cut
there, so the hunk reads back with a shorter section and an extra context line; and an old start
of `Text.maxDigits + 1` digits makes reading fail. -/
theorem render_limits :
    (render [cutSection] = "diff --git a/f.py b/f.py\n@@ -1,1 +1,1 @@ a\nb" ∧
      (∀ hk ∈ cutSection.hunks, Text.trim hk.scope = hk.scope) ∧
      read (render [cutSection]) ≠ .ok ⟨[cutSection].map FileText.toFileChange⟩) ∧
    read (render [longStart]) = .error (.overlongNumeral (Text.maxDigits + 1)) := by
  refine ⟨⟨by decide, by decide, by decide⟩, ?_⟩
  have hlines : textLines (render [longStart]) = [longStart.header, longStartHunk.header] := by
    have hr : render [longStart] =
        String.ofList (['\n'].intercalate [longStart.header, longStartHunk.header]) := rfl
    have hnl : ∀ l ∈ [longStart.header, longStartHunk.header], '\n' ∉ l := by
      intro l hl
      simp only [List.mem_cons, List.not_mem_nil, or_false] at hl
      rcases hl with rfl | rfl
      · decide
      · exact newline_not_mem_header_hunk (by decide)
    rw [hr, textLines, String.toList_ofList, Text.splitOnText_singleton,
      List.splitOn_intercalate _ hnl (by simp), List.map_cons, List.map_cons, List.map_nil,
      strip_header_hunk (by decide), strip_eq_self (by decide)]
  have hfile : fileHeader? longStart.header = some ("f.py".toList, "f.py".toList) := by decide
  have hhunk := hunkHeader?_header longStartHunk (by decide)
  have hnot := fileHeader?_eq_none_of_hunkHeader? hhunk
  have hw : firstOverlong [⟨longStartHunk.oldStart, Text.decimalWidth longStartHunk.oldStart⟩,
      ⟨longStartHunk.oldLines, Text.decimalWidth longStartHunk.oldLines⟩,
      ⟨longStartHunk.newStart, Text.decimalWidth longStartHunk.newStart⟩,
      ⟨longStartHunk.newLines, Text.decimalWidth longStartHunk.newLines⟩] =
        some (Text.maxDigits + 1) := by
    have hwidth : Text.decimalWidth longStartHunk.oldStart = Text.maxDigits + 1 := by
      unfold longStartHunk
      rw [decimalWidth_ten_pow]
    rw [hwidth]
    exact firstOverlong_cons_of_lt (Nat.lt_add_one Text.maxDigits) _
  apply read_eq_error
  rw [hlines]
  simp only [overlongNumeral?, overlongNumeral?.go, hfile, hnot, Option.isSome_some,
    Option.isSome_none, Bool.false_eq_true, ↓reduceIte, hhunk, hw, Option.some_or]
end Diff

end ReviewPrep
