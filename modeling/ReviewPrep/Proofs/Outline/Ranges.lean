import ReviewPrep.Proofs.Outline.Within
import ReviewPrep.Proofs.Lines
import ReviewPrep.Outline.Grammar
import ReviewPrep.Proofs.Prompt.Outcome

/-!
# Every outline's ranges lie within its file

A declaration found on a line starts there and ends on the same line, where its braces close,
where its indented body ends, or, for a Go `type` block, where the scanner's own brace count
closes it. Each of these ends lies between the start and the last line, so every step of every
scanner keeps an outline within the file's lines (`read_ranges_within`).
-/

namespace ReviewPrep.Outline

variable {lines : List (List Char)} {line : List Char} {idx L : Nat}

/-- Line `idx` of the file, counted from 1, is one of its lines. -/
theorem lineWithin_succ (hidx : idx < lines.length) : 1 ≤ idx + 1 ∧ idx + 1 ≤ lines.length :=
  ⟨Nat.le_add_left 1 idx, hidx⟩

/-! ## Go -/

namespace Go

@[simp] theorem TypeBlock.collect_start (t : TypeBlock) (line : List Char) :
    (t.collect line).start = t.start := by
  unfold TypeBlock.collect
  dsimp only
  repeat' split
  all_goals rfl

@[simp] theorem TypeBlock.withinLines_close {t : TypeBlock} {o : Outline} {stop : Nat} :
    (t.close o stop).WithinLines L ↔ o.WithinLines L ∧ RangeWithin L t.start stop := by
  unfold TypeBlock.close
  split <;> simp

@[simp] theorem withinLines_addVariable {o : Outline} {kind name type value : String} {n : Nat} :
    (addVariable o kind name type value n).WithinLines L ↔ o.WithinLines L ∧ 1 ≤ n ∧ n ≤ L := by
  unfold addVariable
  split <;> simp

/-- Listing methods on their structs keeps every range. -/
theorem withinLines_bindMethods {o : Outline} (h : o.WithinLines L) : (bindMethods o).WithinLines L := by
  refine ⟨h.functions, ?_, h.interfaces, h.vars, h.constants⟩
  simp only [bindMethods, List.mem_map]
  rintro _ ⟨p, hp, rfl⟩
  have hc := h.classes p.1 (List.fst_mem_of_mem_zipIdx hp)
  split <;> exact hc

/-- What a Go scan keeps before reading line `idx`: the outline lies within the lines, and an
open type block started on a line before it. -/
structure Within (L idx : Nat) (s : State) : Prop where
  /-- The declarations found so far. -/
  outline : s.outline.WithinLines L
  /-- The open type block's first line. -/
  typeBlock : ∀ t ∈ s.typeBlock, 1 ≤ t.start ∧ t.start ≤ idx

theorem within_iff {s : State} :
    Within L idx s ↔ s.outline.WithinLines L ∧ ∀ t ∈ s.typeBlock, 1 ≤ t.start ∧ t.start ≤ idx :=
  ⟨fun h => ⟨h.1, h.2⟩, fun h => ⟨h.1, h.2⟩⟩

/-- Reading line `idx` keeps the scan within the lines. -/
theorem step_within {s : State} (hidx : idx < lines.length) (h : Within lines.length idx s) :
    Within lines.length (idx + 1) (step lines s line idx) := by
  obtain ⟨ho, ht⟩ := h
  have ht' : ∀ t ∈ s.typeBlock, 1 ≤ t.start ∧ t.start ≤ idx + 1 := fun t h =>
    ⟨(ht t h).1, Nat.le_succ_of_le (ht t h).2⟩
  have hclose : ∀ t ∈ s.typeBlock, RangeWithin lines.length t.start (idx + 1) := fun t h =>
    ⟨(ht t h).1, Nat.le_succ_of_le (ht t h).2, hidx⟩
  have hf : ∀ m, RangeWithin lines.length (function lines idx m).startLine
      (function lines idx m).endLine := fun _ => blockEnd_range hidx
  have hn : RangeWithin lines.length (idx + 1) (idx + 1) := rangeWithin_succ (Nat.le_refl _) hidx
  have hl := lineWithin_succ hidx
  unfold step
  dsimp only
  rw [within_iff]
  split
  · simpa [ho] using ht'
  split
  · simpa [ho] using ht'
  split
  · split
    · simpa [ho] using ht'
    · split <;> simpa [ho] using ht'
  split
  · split <;> simpa [ho] using ht'
  split
  · simpa [ho] using ht'
  split
  · split
    · simpa [ho] using ht'
    · split <;> simpa [ho, hl] using ht'
  split
  · split <;> simp [ho, hn]
  split
  · rename_i t heq
    split
    · simp [ho, hclose t heq]
    · split <;> simp [ho, ht' t heq]
  split
  · simpa [ho, hf] using ht'
  split
  · simpa [ho, hl] using ht'
  · simpa [ho] using ht'

/-- A Go scan keeps an outline within the lines. -/
theorem scan_within {o : Outline} (h : o.WithinLines lines.length) :
    (scan lines o).WithinLines lines.length := by
  have hrun := foldl_zipIdx_induction (fun s (p : List Char × Nat) => step lines s p.1 p.2)
    (Within lines.length) lines 0 { outline := o } ⟨h, nofun⟩
    fun p hp s hs => step_within (by simpa using List.snd_lt_add_of_mem_zipIdx hp) hs
  rw [Nat.zero_add] at hrun
  exact withinLines_bindMethods hrun.outline

end Go

/-! ## JavaScript and TypeScript -/

namespace Script

/-- A function found on line `idx` ends on it or where its block closes. -/
theorem function_range {name params : String} {returns : Option String} {stop? : Option Nat}
    (hidx : idx < lines.length) (hs : ∀ e ∈ stop?, e = idx) :
    RangeWithin lines.length (function lines idx name params returns stop?).startLine
      (function lines idx name params returns stop?).endLine := by
  cases stop? with
  | none => exact blockEnd_range hidx
  | some e =>
    rw [hs e rfl]
    exact rangeWithin_succ (Nat.le_refl _) hidx

/-- Reading line `idx` keeps an outline within the lines. -/
theorem step_within {typed : Bool} {o : Outline} (hidx : idx < lines.length)
    (h : o.WithinLines lines.length) : (step typed lines o line idx).WithinLines lines.length := by
  have hb := blockEnd_range hidx
  unfold step
  dsimp only
  split
  · simpa using h
  split
  · refine withinLines_addFunction.mpr ⟨h, function_range hidx ?_⟩
    simp
  split
  · refine withinLines_addFunction.mpr ⟨h, function_range hidx ?_⟩
    split <;> simp
  split
  · simp [h, hb]
  split
  · simp [h, hb]
  split
  · split
    · exact h
    · split <;> simp [h]
  · exact h

/-- A JavaScript or TypeScript scan keeps an outline within the lines. -/
theorem scan_within {typed : Bool} {o : Outline} (h : o.WithinLines lines.length) :
    (scan typed lines o).WithinLines lines.length := by
  have hrun := foldl_zipIdx_induction (fun o (p : List Char × Nat) => step typed lines o p.1 p.2)
    (fun _ o => o.WithinLines lines.length) lines 0 o h
    fun p hp o ho => step_within (by simpa using List.snd_lt_add_of_mem_zipIdx hp) ho
  exact hrun

end Script

/-! ## Python -/

namespace Python

/-- A signature ends on the line it starts on or a later one. -/
theorem le_signatureOf_fst (lines : List (List Char)) (idx : Nat) :
    idx ≤ (signatureOf lines idx).1 := by
  unfold signatureOf
  suffices ∀ rest i depth parts, idx ≤ i → idx ≤ (signatureOf.go lines idx rest i depth parts).1 from
    this _ _ _ _ (Nat.le_refl _)
  intro rest
  induction rest with
  | nil => intro _ _ _ _; exact Nat.le_refl _
  | cons l rest ih =>
    intro i depth parts hi
    simp only [signatureOf.go]
    split
    · exact hi
    · exact ih _ _ _ (Nat.le_succ_of_le hi)

@[simp] theorem function_startLine {name : String} {sig : List Char} {sigEnd stop : Nat} :
    (function lines idx name sig sigEnd stop).startLine = idx + 1 := by
  unfold function
  split <;> rfl

@[simp] theorem function_endLine {name : String} {sig : List Char} {sigEnd stop : Nat} :
    (function lines idx name sig sigEnd stop).endLine = stop + 1 := by
  unfold function
  split <;> rfl

@[simp] theorem classDecl_startLine {name : String} {sig : List Char} {stop : Nat} :
    (classDecl name sig idx stop).startLine = idx + 1 := by
  unfold classDecl
  split
  · split <;> rfl
  · rfl

@[simp] theorem classDecl_endLine {name : String} {sig : List Char} {stop : Nat} :
    (classDecl name sig idx stop).endLine = stop + 1 := by
  unfold classDecl
  split
  · split <;> rfl
  · rfl

/-- An assignment is recorded on the line it is read from. -/
theorem line_of_assignmentOf? {n : Nat} {b : Bool} {v : VariableDecl}
    (h : assignmentOf? line n = some (b, v)) : v.line = n := by
  unfold assignmentOf? at h
  obtain ⟨m, -, hm⟩ := Option.map_eq_some_iff.mp h
  cases hm
  rfl

/-- A block whose signature starts on line `idx` gives a range within the lines. -/
theorem block_range (hidx : idx < lines.length) :
    RangeWithin lines.length (idx + 1)
      (findIndentBlockEnd lines idx (some (signatureOf lines idx).1) + 1) := by
  have hb := @findIndentBlockEnd_bounds lines idx (some (signatureOf lines idx).1) hidx
    (le_signatureOf_fst lines idx)
  exact rangeWithin_succ hb.1 hb.2

/-- Reading line `idx` keeps the outline within the lines. -/
theorem step_within {s : State} (hidx : idx < lines.length) (h : s.outline.WithinLines lines.length) :
    (step lines s line idx).outline.WithinLines lines.length := by
  have hl := lineWithin_succ hidx
  have hr : RangeWithin lines.length (idx + 1)
      (findIndentBlockEnd lines idx (some (signatureOf lines idx).1) + 1) := block_range hidx
  unfold step
  dsimp only
  split
  · simpa using h
  cases hd : defLine.matchPrefix? line with
  | none =>
    cases hc : classLine.matchPrefix? line with
    | none =>
      simp only [Option.isNone_none, Option.isSome_none, Bool.and_self, Bool.false_eq_true,
        ite_true, ite_false]
      split
      · exact h
      split
      · rename_i v hv
        simp [h, line_of_assignmentOf? hv, hl]
      · rename_i v hv
        simp [h, line_of_assignmentOf? hv, hl]
      · exact h
    | some m =>
      simp only [Option.isNone_none, Option.isSome_none, Option.isNone_some, Bool.false_eq_true,
        ite_false, Bool.and_false]
      split
      · exact h
      · simp [h, hr]
  | some m =>
    simp only [Option.isNone_none, Option.isSome_some, Option.isNone_some, Bool.false_eq_true,
      ite_true, ite_false, Bool.false_and]
    split
    · exact h
    · split <;> simp [h, hr]

/-- A Python scan keeps an outline within the lines. -/
theorem scan_within {o : Outline} (h : o.WithinLines lines.length) :
    (scan lines o).WithinLines lines.length := by
  have hrun := foldl_zipIdx_induction (fun s (p : List Char × Nat) => step lines s p.1 p.2)
    (fun _ s => s.outline.WithinLines lines.length) lines 0 ⟨o, []⟩ h
    fun p hp s hs => step_within (by simpa using List.snd_lt_add_of_mem_zipIdx hp) hs
  exact hrun

end Python

/-! ## Java -/

namespace Java

/-- Reading a line that declares no type keeps the outline within the lines. -/
theorem methodStep_within {s : State} (hidx : idx < lines.length)
    (h : s.outline.WithinLines lines.length) :
    (methodStep lines s line idx).outline.WithinLines lines.length := by
  have hb := blockEnd_range hidx
  unfold methodStep
  dsimp only
  split
  · exact h
  split
  · simp [h]
  · exact h
  split
  · split <;> simp [h]
  · split <;> simp [h, hb]

/-- Reading line `idx` keeps the outline within the lines. -/
theorem step_within {s : State} (hidx : idx < lines.length) (h : s.outline.WithinLines lines.length) :
    (step lines s line idx).outline.WithinLines lines.length := by
  have hb := blockEnd_range hidx
  unfold step
  dsimp only
  split
  · simpa using h
  split
  · simpa using h
  split
  · simp [h, hb]
  split
  · simp [h, hb]
  · exact methodStep_within hidx h

/-- A Java scan keeps an outline within the lines. -/
theorem scan_within {o : Outline} (h : o.WithinLines lines.length) :
    (scan lines o).WithinLines lines.length := by
  have hrun := foldl_zipIdx_induction (fun s (p : List Char × Nat) => step lines s p.1 p.2)
    (fun _ s => s.outline.WithinLines lines.length) lines 0 ⟨o, []⟩ h
    fun p hp s hs => step_within (by simpa using List.snd_lt_add_of_mem_zipIdx hp) hs
  exact hrun

end Java

/-! ## Rust -/

namespace Rust

/-- Reading line `idx` keeps the outline within the lines. -/
theorem step_within {s : State} (hidx : idx < lines.length) (h : s.outline.WithinLines lines.length) :
    (step lines s line idx).outline.WithinLines lines.length := by
  have hb := blockEnd_range hidx
  have hn : RangeWithin lines.length (idx + 1) (idx + 1) := rangeWithin_succ (Nat.le_refl _) hidx
  have hend : ∀ c : Bool,
      RangeWithin lines.length (idx + 1) (if c then idx + 1 else blockEnd lines idx + 1) := by
    intro c
    split
    · exact hn
    · exact hb
  unfold step
  dsimp only
  split
  · simpa using h
  split
  · split
    · simp [h]
    · exact h
    · exact h
    · split <;> simp [h, hend]
  split
  · split
    · simp [h]
    · exact h
  split
  · exact withinLines_addClass.mpr ⟨h, hend _⟩
  split
  · simp [h, hb]
  split
  · simp [h, hb]
  · exact h

/-- A Rust scan keeps an outline within the lines. -/
theorem scan_within {o : Outline} (h : o.WithinLines lines.length) :
    (scan lines o).WithinLines lines.length := by
  have hrun := foldl_zipIdx_induction (fun s (p : List Char × Nat) => step lines s p.1 p.2)
    (fun _ s => s.outline.WithinLines lines.length) lines 0 ⟨o, []⟩ h
    fun p hp s hs => step_within (by simpa using List.snd_lt_add_of_mem_zipIdx hp) hs
  exact hrun

end Rust

/-! ## C and C++ -/

namespace CFamily

/-- Reading line `idx` keeps an outline within the lines. -/
theorem step_within {o : Outline} (hidx : idx < lines.length) (h : o.WithinLines lines.length) :
    (step lines o line idx).WithinLines lines.length := by
  have hb := blockEnd_range hidx
  unfold step
  dsimp only
  split
  · simpa using h
  split
  · simpa using h
  split
  · simp [h, hb]
  split
  · simp [h, hb]
  · exact h

/-- A C or C++ scan keeps an outline within the lines. -/
theorem scan_within {o : Outline} (h : o.WithinLines lines.length) :
    (scan lines o).WithinLines lines.length := by
  have hrun := foldl_zipIdx_induction (fun o (p : List Char × Nat) => step lines o p.1 p.2)
    (fun _ o => o.WithinLines lines.length) lines 0 o h
    fun p hp o ho => step_within (by simpa using List.snd_lt_add_of_mem_zipIdx hp) ho
  exact hrun

end CFamily

/-! ## Other languages -/

namespace Generic

/-- Reading line `idx` keeps an outline within the lines: it adds a function, a class, or
both, each ending where its braces close. -/
theorem step_within {o : Outline} (hidx : idx < lines.length) (h : o.WithinLines lines.length) :
    (step lines o line idx).WithinLines lines.length := by
  have hb := blockEnd_range hidx
  unfold step
  split <;> split <;> simp [h, hb]

/-- A scan of another language keeps an outline within the lines. -/
theorem scan_within {o : Outline} (h : o.WithinLines lines.length) :
    (scan lines o).WithinLines lines.length := by
  have hrun := foldl_zipIdx_induction (fun o (p : List Char × Nat) => step lines o p.1 p.2)
    (fun _ o => o.WithinLines lines.length) lines 0 o h
    fun p hp o ho => step_within (by simpa using List.snd_lt_add_of_mem_zipIdx hp) ho
  exact hrun

end Generic

end ReviewPrep.Outline

namespace ReviewPrep

open Outline

/-- Every grammar's scan keeps an outline within the lines. -/
theorem Grammar.scan_within {g : Grammar} {lines : List (List Char)} {o o' : Outline}
    (hs : g.scan lines o = some o') (h : o.WithinLines lines.length) :
    o'.WithinLines lines.length := by
  cases g with
  | go => cases hs; exact Go.scan_within h
  | javascript => cases hs; exact Script.scan_within h
  | typescript => cases hs; exact Script.scan_within h
  | python =>
    obtain ⟨m, -, rfl⟩ := Option.map_eq_some_iff.mp hs
    exact Python.scan_within (by simpa using h)
  | java => cases hs; exact Java.scan_within h
  | rust => cases hs; exact Rust.scan_within h
  | c => cases hs; exact CFamily.scan_within h
  | generic => cases hs; exact Generic.scan_within h

/-- Reading a source file, in any language and from any path, gives an outline whose every
function, class and interface runs from a line to the same or a later one, and whose every
variable and constant stands on a line, all among the lines of the text read. -/
theorem read_ranges_within {language filePath text : String} {code : Payload} {g : Grammar}
    {o : Outline} (htext : code.strictText = .ok text)
    (hread : Outline.read language code filePath = .ok (g, o)) :
    o.WithinLines (text.toList.splitOn '\n').length := by
  have hL : (Diff.textLines text).length = (text.toList.splitOn '\n').length := by
    simp [Diff.textLines, Text.splitOnText_singleton]
  rw [← hL]
  cases hs : (Grammar.ofTag (sourceLanguage language filePath)).scan (Diff.textLines text)
      { language := sourceLanguage language filePath, filePath } with
  | none =>
    rw [Outline.read_of_scan_none htext hs] at hread
    exact absurd hread nofun
  | some o' =>
    rw [Outline.read_of_scan_some htext hs] at hread
    obtain ⟨-, rfl⟩ := Prod.mk.inj (Except.ok.inj hread)
    exact Grammar.scan_within hs ⟨nofun, nofun, nofun, nofun, nofun⟩

/-- A Rust file of three lines, a function over two of them and a unit struct on the third: its
outline lies within the three lines. -/
theorem rust_outline_within_three_lines :
    Payload.strictText (.text "fn f() \x7b\n\x7d\nstruct S;") = .ok "fn f() \x7b\n\x7d\nstruct S;" ∧
      Outline.read "rust" (.text "fn f() \x7b\n\x7d\nstruct S;") "lib.rs" =
        .ok (.rust, Outline.Rust.scan (Diff.textLines "fn f() \x7b\n\x7d\nstruct S;")
          { language := "rust", filePath := "lib.rs" }) ∧
      (Outline.Rust.scan (Diff.textLines "fn f() \x7b\n\x7d\nstruct S;")
          { language := "rust", filePath := "lib.rs" }).WithinLines 3 := by
  have hl : sourceLanguage "rust" "lib.rs" = "rust" := by decide
  have hg : Grammar.ofTag "rust" = .rust := by decide
  have hread : Outline.read "rust" (.text "fn f() \x7b\n\x7d\nstruct S;") "lib.rs" =
      .ok (.rust, Outline.Rust.scan (Diff.textLines "fn f() \x7b\n\x7d\nstruct S;")
        { language := "rust", filePath := "lib.rs" }) := by
    have h := @Outline.read_of_scan_some "rust" "lib.rs" (.text "fn f() \x7b\n\x7d\nstruct S;")
      "fn f() \x7b\n\x7d\nstruct S;" (Outline.Rust.scan (Diff.textLines "fn f() \x7b\n\x7d\nstruct S;")
        { language := "rust", filePath := "lib.rs" }) rfl (by rw [hl, hg]; rfl)
    rwa [hl, hg] at h
  have hlen : ("fn f() \x7b\n\x7d\nstruct S;".toList.splitOn '\n').length = 3 := by decide
  exact ⟨rfl, hread, hlen ▸ read_ranges_within rfl hread⟩

end ReviewPrep
