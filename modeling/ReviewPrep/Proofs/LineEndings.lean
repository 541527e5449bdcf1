import ReviewPrep.Outline.Grammar
import ReviewPrep.Proofs.Lines
import ReviewPrep.Proofs.Diff.Header
import Mathlib.Data.List.TakeWhile

/-!
# Line endings

Writing every line feed of a text as a carriage return and a line feed changes nothing that the
readers of diffs and of source files see (`readers_ignore_crlf`). Cut at line feeds, the rewritten
text gives the same pieces, each but the last with one more carriage return (`splitOn_withCRLF`),
which stripping removes; and the loose hunk reader never looks past the closing `@@`.
-/

namespace ReviewPrep

namespace Text

/-- The text with every line feed written as a carriage return and a line feed, as a
replacement of every `"\n"` by `"\r\n"` writes it. -/
def withCRLF (text : String) : String := String.ofList (replaceAll ['\n'] ['\r', '\n'] text.toList)

/-- The pieces of a text with a carriage return after each but the last. -/
def markReturns : List (List Char) → List (List Char)
  | [] => []
  | [p] => [p]
  | p :: q :: ps => (p ++ ['\r']) :: markReturns (q :: ps)

/-- No piece of a text cut at a character holds that character. -/
theorem not_mem_of_mem_splitOn {c : Char} : ∀ {cs p : List Char}, p ∈ cs.splitOn c → c ∉ p
  | [], _, hp => by
    rw [List.splitOn_nil, List.mem_singleton] at hp
    subst hp
    exact List.not_mem_nil
  | x :: xs, p, hp => by
    rw [List.splitOn_cons_eq_if_modifyHead] at hp
    split at hp
    · rcases List.mem_cons.mp hp with rfl | hp
      · exact List.not_mem_nil
      · exact not_mem_of_mem_splitOn hp
    · next hx =>
      obtain ⟨r, rs, hr⟩ := List.exists_cons_of_ne_nil (List.splitOn_ne_nil c xs)
      rw [hr, List.modifyHead_cons] at hp
      rcases List.mem_cons.mp hp with rfl | hp
      · have hxc : x ≠ c := by simpa using hx
        have hr' : c ∉ r := not_mem_of_mem_splitOn (hr ▸ List.mem_cons_self)
        simp [Ne.symm hxc, hr']
      · exact not_mem_of_mem_splitOn (hr ▸ List.mem_cons_of_mem _ hp)

/-- Marking the pieces keeps at least one. -/
theorem markReturns_ne_nil : ∀ {P : List (List Char)}, P ≠ [] → markReturns P ≠ []
  | [_], _ => List.cons_ne_nil _ _
  | _ :: _ :: _, _ => List.cons_ne_nil _ _

/-- Marking adds no line feed. -/
theorem newline_not_mem_markReturns :
    ∀ {P : List (List Char)}, (∀ p ∈ P, '\n' ∉ p) → ∀ p ∈ markReturns P, '\n' ∉ p
  | [], _ => by simp [markReturns]
  | [p], h => by simpa [markReturns] using h
  | p :: q :: ps, h => by
    intro m hm
    rcases List.mem_cons.mp hm with rfl | hm
    · simpa using h p List.mem_cons_self
    · exact newline_not_mem_markReturns (fun r hr => h r (List.mem_cons_of_mem _ hr)) m hm

/-- Joining with a carriage return and a line feed is joining with a line feed the pieces marked
with their carriage returns. -/
theorem intercalate_crlf :
    ∀ P : List (List Char), ['\r', '\n'].intercalate P = ['\n'].intercalate (markReturns P)
  | [] => rfl
  | [p] => by simp [markReturns]
  | p :: q :: ps => by
    rw [List.intercalate_cons_cons, markReturns, intercalate_crlf (q :: ps),
      List.intercalate_cons_of_ne_nil (markReturns_ne_nil (List.cons_ne_nil q ps))]
    simp

/-- Cut at line feeds, the rewritten text gives the pieces of the text, each but the last
followed by a carriage return. -/
theorem splitOn_withCRLF (text : String) :
    (withCRLF text).toList.splitOn '\n' = markReturns (text.toList.splitOn '\n') := by
  rw [withCRLF, String.toList_ofList, replaceAll, splitOnText_singleton, joinWith_eq_intercalate,
    intercalate_crlf]
  exact List.splitOn_intercalate '\n'
    (newline_not_mem_markReturns fun p hp => not_mem_of_mem_splitOn hp)
    (markReturns_ne_nil (List.splitOn_ne_nil _ _))

/-- A view of the pieces that does not see a trailing carriage return does not see the marks. -/
theorem map_markReturns {β : Type} {f : List Char → β} (hf : ∀ p, f (p ++ ['\r']) = f p) :
    ∀ P : List (List Char), (markReturns P).map f = P.map f
  | [] => rfl
  | [p] => rfl
  | p :: q :: ps => by
    rw [markReturns, List.map_cons, hf, map_markReturns hf (q :: ps)]
    rfl

/-- A partial view of the pieces that does not see a trailing carriage return does not see the
marks. -/
theorem filterMap_markReturns {β : Type} {f : List Char → Option β}
    (hf : ∀ p, f (p ++ ['\r']) = f p) :
    ∀ P : List (List Char), (markReturns P).filterMap f = P.filterMap f
  | [] => rfl
  | [p] => rfl
  | p :: q :: ps => by
    rw [markReturns, List.filterMap_cons, hf, filterMap_markReturns hf (q :: ps)]
    rfl

/-- Stripping trailing carriage returns removes one more. -/
theorem dropRightOf_append_return (p : List Char) :
    dropRightOf ['\r'] (p ++ ['\r']) = dropRightOf ['\r'] p := by
  simp [dropRightOf]

end Text

namespace Diff

/-! ## Trailing white space and the loose hunk reader -/

section
variable {w : List Char} (hw : ∀ c ∈ w, Text.isBlank c = true ∧ Text.isDecimal c = false)
include hw

/-- A pattern without white space starts a text exactly when it starts the text followed by
white space. -/
theorem isPrefixOf_append_blanks {p : List Char} (hp : ∀ c ∈ p, Text.isBlank c = false)
    (x : List Char) : p.isPrefixOf (x ++ w) = p.isPrefixOf x := by
  induction p generalizing x with
  | nil => simp [List.isPrefixOf]
  | cons a p ih =>
    cases x with
    | nil =>
      cases w with
      | nil => rfl
      | cons c w' =>
        have hac : (a == c) = false := by
          rw [beq_eq_false_iff_ne]
          rintro rfl
          simp [(hw a List.mem_cons_self).1] at hp
        simp [List.isPrefixOf, hac]
    | cons b x =>
      simp only [List.cons_append, List.isPrefixOf]
      rw [ih (fun c hc => hp c (List.mem_cons_of_mem _ hc)) x]

/-- Skipping white space reaches the trailing white space only when the text is blank. -/
theorem dropWhile_blank_append (x : List Char) :
    (x ++ w).dropWhile Text.isBlank =
      if x.dropWhile Text.isBlank = [] then [] else x.dropWhile Text.isBlank ++ w := by
  have hw' : w.dropWhile Text.isBlank = [] := List.dropWhile_eq_nil_iff.mpr fun c hc => (hw c hc).1
  rw [List.dropWhile_append]
  by_cases h : x.dropWhile Text.isBlank = [] <;> simp [h, hw']

/-- Trailing white space does not change the character that follows skipped white space. -/
theorem head?_dropWhile_append_blanks (x : List Char) (c : Char) :
    (((x ++ w).dropWhile Text.isBlank).head? == some c) =
      ((x.dropWhile Text.isBlank).head? == some c) := by
  rw [dropWhile_blank_append hw]
  split
  · next h => rw [h]
  · next h => rw [List.head?_append_of_ne_nil _ h]

/-- After skipped white space and one more character, trailing white space stays behind. -/
theorem tail_dropWhile_append_blanks {x : List Char} (h : x.dropWhile Text.isBlank ≠ []) :
    ((x ++ w).dropWhile Text.isBlank).tail = (x.dropWhile Text.isBlank).tail ++ w := by
  rw [dropWhile_blank_append hw, if_neg h, List.tail_append_of_ne_nil h]

/-- After skipped white space, a pattern without white space sees no trailing white space. -/
theorem isPrefixOf_dropWhile_append_blanks {p : List Char} (hp : ∀ c ∈ p, Text.isBlank c = false)
    (x : List Char) :
    p.isPrefixOf ((x ++ w).dropWhile Text.isBlank) = p.isPrefixOf (x.dropWhile Text.isBlank) := by
  rw [dropWhile_blank_append hw]
  split
  · next h => rw [h]
  · exact isPrefixOf_append_blanks hw hp _

/-- A numeral stops before trailing white space, which stays in the rest. -/
theorem number?_append_blanks (x : List Char) :
    number? (x ++ w) = (number? x).map fun p => (p.1, p.2 ++ w) := by
  have ht : w.takeWhile Text.isDecimal = [] := by
    cases w with
    | nil => rfl
    | cons c w' => simp [(hw c List.mem_cons_self).2]
  have hd : w.dropWhile Text.isDecimal = w := by
    cases w with
    | nil => rfl
    | cons c w' => simp [(hw c List.mem_cons_self).2]
  have htake : (x ++ w).takeWhile Text.isDecimal = x.takeWhile Text.isDecimal := by
    rw [List.takeWhile_append, ht, List.append_nil]
    split
    · next h => exact ((List.takeWhile_prefix _).eq_of_length h).symm
    · rfl
  have hdrop : (x ++ w).dropWhile Text.isDecimal = x.dropWhile Text.isDecimal ++ w := by
    rw [List.dropWhile_append]
    split
    · next h => rw [List.isEmpty_iff.mp h, hd, List.nil_append]
    · rfl
  unfold number? digitRun
  rw [htake, hdrop]
  cases x.takeWhile Text.isDecimal <;> rfl

/-- An optional count stops before trailing white space, which stays in the rest. -/
theorem count?_append_blanks (x : List Char) :
    count? (x ++ w) = ((count? x).1, (count? x).2 ++ w) := by
  cases x with
  | nil =>
    cases w with
    | nil => rfl
    | cons c w' =>
      have hc : c ≠ ',' := by
        rintro rfl
        exact absurd (hw ',' List.mem_cons_self).1 (by decide)
      simp [count?, hc]
  | cons c r =>
    by_cases hc : c = ','
    · subst hc
      simp only [List.cons_append, count?, number?_append_blanks hw r]
      cases number? r <;> rfl
    · simp [count?, hc]

/-- The loose hunk reader does not see trailing white space: it reads nothing after the closing
`@@`, and white space cannot complete a header. -/
theorem hunkNewStart?_append_blanks (x : List Char) : hunkNewStart? (x ++ w) = hunkNewStart? x := by
  have hat : ∀ c ∈ "@@".toList, Text.isBlank c = false := by
    show ∀ c ∈ ['@', '@'], Text.isBlank c = false
    simp [Text.isBlank]
  unfold hunkNewStart?
  simp only [Option.bind_eq_bind, Option.bind_some, Option.bind_none,
    isPrefixOf_append_blanks hw hat]
  split
  case isFalse => rfl
  next h₁ =>
  have hlen : 2 ≤ x.length := by simpa using (List.isPrefixOf_iff_prefix.mp h₁).length_le
  rw [List.drop_append_of_le_length hlen, head?_dropWhile_append_blanks hw]
  split
  case isFalse => rfl
  next h₂ =>
  rw [tail_dropWhile_append_blanks hw (by rintro h; simp [h] at h₂), number?_append_blanks hw,
    Option.bind_map]
  congr 1
  funext p
  obtain ⟨a, s⟩ := p
  simp only [Function.comp_apply, count?_append_blanks hw, head?_dropWhile_append_blanks hw]
  split
  case isFalse => rfl
  next h₃ =>
  rw [tail_dropWhile_append_blanks hw (by rintro h; simp [h] at h₃), number?_append_blanks hw,
    Option.bind_map]
  congr 1
  funext q
  obtain ⟨c, s'⟩ := q
  simp only [Function.comp_apply, count?_append_blanks hw, isPrefixOf_dropWhile_append_blanks hw hat]

end

/-- A carriage return at the end of a line does not change its loose reading. -/
theorem hunkNewStart?_append_return (x : List Char) : hunkNewStart? (x ++ ['\r']) = hunkNewStart? x :=
  hunkNewStart?_append_blanks (fun c hc => by
    rw [List.mem_singleton.mp hc]
    exact ⟨by decide, by decide⟩) x

/-! ## Both readers on the rewritten text -/

/-- The lines the readers see are the same. -/
theorem textLines_withCRLF (text : String) : textLines (Text.withCRLF text) = textLines text := by
  rw [textLines, textLines, Text.splitOnText_singleton, Text.splitOnText_singleton,
    Text.splitOn_withCRLF, Text.map_markReturns Text.dropRightOf_append_return]

/-- The loose hunk starts are the same. -/
theorem hunkMarks_withCRLF (text : String) : hunkMarks (Text.withCRLF text) = hunkMarks text := by
  rw [hunkMarks, hunkMarks, Text.splitOnText_singleton, Text.splitOnText_singleton,
    Text.splitOn_withCRLF, Text.filterMap_markReturns fun p => by rw [hunkNewStart?_append_return]]

end Diff

/-- Writing line feeds as carriage returns and line feeds changes nothing the readers see:
the diff read from the text, with its header lines and line contents, its changed-line marks,
and the outline any grammar reads from it as a source file at any path are the same, or fail
the same way. -/
theorem readers_ignore_crlf (text : String) :
    Diff.read (Text.withCRLF text) = Diff.read text ∧
      Diff.changedLines (Text.withCRLF text) = Diff.changedLines text ∧
      ∀ language filePath : String,
        Outline.read language (.text (Text.withCRLF text)) filePath =
          Outline.read language (.text text) filePath := by
  refine ⟨?_, ?_, fun language filePath => ?_⟩
  · unfold Diff.read Diff.ofText
    rw [Diff.textLines_withCRLF]
  · unfold Diff.changedLines
    rw [Diff.hunkMarks_withCRLF]
  · simp only [Outline.read, Payload.strictText, pure_bind, Diff.textLines_withCRLF]

end ReviewPrep
