import ReviewPrep.Prompt.Request

/-!
# When building a review request fails

Building a request reads the source, outlines it with the grammar its language selects, views the
outline through the hunk marks of the diff and renders the context. `build_outcomes` says exactly
which stage fails: the source is unreadable when it is neither text nor strict UTF-8; a Python
path that names no file has no module name; a hunk mark too long fails the diff; otherwise the
request is built. Only the first is the error callers handle (`dot_path_names_no_module`).
-/

namespace ReviewPrep

/-- A path names no file exactly when it is not empty and every name between its separators is
empty or `.`. -/
theorem Outline.Python.moduleName?_eq_none_iff (p : String) :
    Outline.Python.moduleName? p = none ↔
      p ≠ "" ∧ ∀ name ∈ Text.splitOnText ['/'] (p.toList.map fun c => if c == '\\' then '/' else c),
        name = [] ∨ name = ['.'] := by
  unfold Outline.Python.moduleName?
  by_cases hp : p.isEmpty
  · simp [String.isEmpty_iff.mp hp]
  · have hne : p ≠ "" := fun h => by simp [h] at hp
    simp only [hp, Bool.false_eq_true, ↓reduceIte, Outline.Python.pathParts]
    split
    · next h =>
      have hnil := List.reverse_eq_nil_iff.mp h
      refine iff_of_true rfl ⟨hne, fun name hn => ?_⟩
      have hf := List.filter_eq_nil_iff.mp hnil name hn
      simp only [Bool.and_eq_true, Bool.not_eq_true', List.isEmpty_eq_false_iff, bne_iff_ne, ne_eq,
        not_and, Classical.not_not] at hf
      by_cases he : name = []
      · exact .inl he
      · exact .inr (hf he)
    · next last dirs h =>
      refine iff_of_false (by simp) fun ⟨_, hall⟩ => ?_
      have hmem : last ∈ (last :: dirs).reverse := by simp
      rw [← h, List.reverse_reverse, List.mem_filter] at hmem
      obtain ⟨hn, hkeep⟩ := hmem
      rcases hall last hn with rfl | rfl <;> simp at hkeep


/-- The only grammar that can fail is Python's, on a path that names no file. -/
theorem Grammar.scan_eq_none_iff {g : Grammar} {lines : List (List Char)} {o : Outline} :
    g.scan lines o = none ↔ g = .python ∧ Outline.Python.moduleName? o.filePath = none := by
  cases g <;> simp [Grammar.scan]

section
variable {language filePath : String} {code : Payload}

/-- A source of another kind is refused, naming the path. -/
theorem Outline.read_of_notText {kind : String} (h : code.strictText = .error (.notText kind)) :
    Outline.read language code filePath = .error (.notText filePath kind) := by
  unfold Outline.read
  rw [h]
  rfl

/-- Bytes that are not UTF-8 are refused, naming the path. -/
theorem Outline.read_of_invalidUtf8 {e : Text.Utf8Error}
    (h : code.strictText = .error (.invalidUtf8 e)) :
    Outline.read language code filePath = .error (.invalidUtf8 filePath e) := by
  unfold Outline.read
  rw [h]
  rfl

/-- A text source gives the outline its grammar reads. -/
theorem Outline.read_of_scan_some {t : String} {o : Outline} (h : code.strictText = .ok t)
    (hs : (Grammar.ofTag (sourceLanguage language filePath)).scan (Diff.textLines t)
      { language := sourceLanguage language filePath, filePath } = some o) :
    Outline.read language code filePath = .ok (Grammar.ofTag (sourceLanguage language filePath), o) := by
  simp only [Outline.read, h, pure_bind, hs]
  rfl

/-- A text source whose grammar cannot read it at its path is refused for the path. -/
theorem Outline.read_of_scan_none {t : String} (h : code.strictText = .ok t)
    (hs : (Grammar.ofTag (sourceLanguage language filePath)).scan (Diff.textLines t)
      { language := sourceLanguage language filePath, filePath } = none) :
    Outline.read language code filePath = .error (.noFileName filePath) := by
  simp only [Outline.read, h, pure_bind, hs]
  rfl

end

namespace Prompt

/-- A source that reads as text. -/
def Readable (code : Payload) : Prop := ∃ t, code.strictText = .ok t

/-- A path the chosen grammar can read a file at: any path, except that Python needs a path that
names a file, from which it forms the module path. -/
def NamesModule (language filePath : String) : Prop :=
  Grammar.ofTag (sourceLanguage language filePath) = .python →
    (Outline.Python.moduleName? filePath).isSome

/-- A diff whose hunk marks all read. -/
def MarksRead (diff : String) : Prop := ∃ ms, Diff.changedLines diff = .ok ms

variable {n : Int} {diff language filePath : String} {code : Payload}

/-- A source that does not read as text makes the request unreadable. -/
theorem build_of_not_readable (n : Int) (diff language filePath : String) (h : ¬ Readable code) :
    ∃ e, Request.build (.whole n) diff language filePath code = .error (.unreadable e) := by
  cases hc : code.strictText with
  | ok t => exact absurd ⟨t, hc⟩ h
  | error e =>
    cases e with
    | notText k => exact ⟨.notText filePath k, by simp [Request.build, Outline.read_of_notText hc]⟩
    | invalidUtf8 e =>
      exact ⟨.invalidUtf8 filePath e, by simp [Request.build, Outline.read_of_invalidUtf8 hc]⟩

/-- A text source at a path its grammar cannot read fails for the path. -/
theorem build_of_not_namesModule {t : String} (h : code.strictText = .ok t)
    (hm : ¬ NamesModule language filePath) :
    Request.build (.whole n) diff language filePath code = .error (.noFileName filePath) := by
  have hs : (Grammar.ofTag (sourceLanguage language filePath)).scan (Diff.textLines t)
      { language := sourceLanguage language filePath, filePath } = none := by
    rw [Grammar.scan_eq_none_iff]
    simp only [NamesModule, Classical.not_imp, Option.isSome_iff_ne_none, ne_eq, Classical.not_not]
      at hm
    exact hm
  simp [Request.build, Outline.read_of_scan_none h hs]

/-- Rendering with a whole-number limit always gives a text. -/
theorem render?_whole (o : Outline) (v? : Option ChangeView) :
    ∃ text, render? (.whole n) o v? = some text := by
  unfold render? truncate?
  split
  · split
    · exact ⟨_, rfl⟩
    · next x hx => simp [Quantity.positiveOr] at hx; split at hx <;> cases hx
  · exact ⟨_, rfl⟩

/-- At a path that suits the grammar, the grammar reads any lines. -/
theorem scan_eq_some_of_namesModule (hm : NamesModule language filePath)
    (lines : List (List Char)) :
    ∃ o, (Grammar.ofTag (sourceLanguage language filePath)).scan lines
      { language := sourceLanguage language filePath, filePath } = some o := by
  apply Option.ne_none_iff_exists'.mp
  rw [Ne, Grammar.scan_eq_none_iff]
  rintro ⟨hg, hmod⟩
  simpa [hmod] using hm hg

/-- A readable source at a suitable path fails exactly as the diff's hunk marks do. -/
theorem build_of_badDiff {t : String} {e : Diff.DiffError} (h : code.strictText = .ok t)
    (hm : NamesModule language filePath) (hd : Diff.changedLines diff = .error e) :
    Request.build (.whole n) diff language filePath code = .error (.badDiff e) := by
  obtain ⟨o, hs⟩ := scan_eq_some_of_namesModule hm (Diff.textLines t)
  simp [Request.build, Outline.read_of_scan_some h hs, Outline.changes, hd, Except.map]

/-- A readable source at a suitable path, with a diff whose marks read, gives a request. -/
theorem build_of_marksRead {t : String} {ms : List Nat} (h : code.strictText = .ok t)
    (hm : NamesModule language filePath) (hd : Diff.changedLines diff = .ok ms) :
    ∃ r, Request.build (.whole n) diff language filePath code = .ok r := by
  obtain ⟨o, hs⟩ := scan_eq_some_of_namesModule hm (Diff.textLines t)
  obtain ⟨text, htext⟩ := render?_whole (n := n) o (some (o.viewAt ms))
  exact ⟨⟨diff, language, filePath, text, (o.viewAt ms).summary⟩,
    by simp [Request.build, Outline.read_of_scan_some h hs, Outline.changes, hd, Except.map, htext]⟩

/-- The outcomes of building a request with a whole-number limit: an unreadable source exactly
when the source is not text, a path with no file name exactly when the source is text but the
Python grammar finds no module path, a bad diff exactly when both read but a hunk mark does not,
and a request exactly when all three read. No other failure occurs. -/
theorem build_outcomes (n : Int) (diff language filePath : String) (code : Payload) :
    ((∃ e, Request.build (.whole n) diff language filePath code = .error (.unreadable e)) ↔
        ¬ Readable code) ∧
      (Request.build (.whole n) diff language filePath code = .error (.noFileName filePath) ↔
        Readable code ∧ ¬ NamesModule language filePath) ∧
      ((∃ e, Request.build (.whole n) diff language filePath code = .error (.badDiff e)) ↔
        Readable code ∧ NamesModule language filePath ∧ ¬ MarksRead diff) ∧
      ((∃ r, Request.build (.whole n) diff language filePath code = .ok r) ↔
        Readable code ∧ NamesModule language filePath ∧ MarksRead diff) := by
  by_cases hr : Readable code
  · obtain ⟨t, ht⟩ := hr
    by_cases hm : NamesModule language filePath
    · cases hd : Diff.changedLines diff with
      | error e =>
        rw [build_of_badDiff ht hm hd]
        simp [Readable, MarksRead, ht, hm, hd]
      | ok ms =>
        obtain ⟨r, hb⟩ := build_of_marksRead ht hm hd
        rw [hb]
        simp [Readable, MarksRead, ht, hm, hd]
    · rw [build_of_not_namesModule ht hm]
      simp [Readable, ht, hm]
  · obtain ⟨e, he⟩ := build_of_not_readable n diff language filePath hr
    rw [he]
    simp [hr]

/-- A Python source that reads as text, at the path `.`, which names no file: building the
request fails for the path, not for the source. -/
theorem dot_path_names_no_module :
    Readable (.text "x = 1\n") ∧
      Request.build (.whole 2000) "" "python" "." (.text "x = 1\n") = .error (.noFileName ".") := by
  have hg : Grammar.ofTag (sourceLanguage "python" ".") = .python := by decide
  have hm : Outline.Python.moduleName? "." = none := by decide
  refine ⟨⟨_, rfl⟩, build_of_not_namesModule rfl fun h => ?_⟩
  simpa [hm] using h hg

end Prompt

end ReviewPrep
