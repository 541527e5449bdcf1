import ReviewPrep.Outline.Basic
import ReviewPrep.Outline.Scan
import Mathlib.Tactic.Tauto

/-!
# Declaration ranges within a file

An outline lies within `L` lines when every declaration range satisfies `1 ≤ start ≤ stop ≤ L`
and every variable and constant stands on one of the lines (`Outline.WithinLines`). Brace and
indented blocks end on their first line or later and never past the last (`blockEnd_bounds`,
`findIndentBlockEnd_bounds`), and a property each line's step carries holds of the whole scan
(`foldl_zipIdx_induction`).
-/

namespace ReviewPrep.Outline

/-- Lines `start` to `stop`, counted from 1 and inclusive, lie within `L` lines. -/
def RangeWithin (L start stop : Nat) : Prop := 1 ≤ start ∧ start ≤ stop ∧ stop ≤ L

instance (L start stop : Nat) : Decidable (RangeWithin L start stop) :=
  inferInstanceAs (Decidable (_ ∧ _ ∧ _))

/-- Every declaration of an outline lies within `L` lines. -/
structure WithinLines (L : Nat) (o : Outline) : Prop where
  /-- Every function's range. -/
  functions : ∀ f ∈ o.functions, RangeWithin L f.startLine f.endLine
  /-- Every class's range. -/
  classes : ∀ c ∈ o.classes, RangeWithin L c.startLine c.endLine
  /-- Every interface's range. -/
  interfaces : ∀ i ∈ o.interfaces, RangeWithin L i.startLine i.endLine
  /-- Every variable's line. -/
  vars : ∀ v ∈ o.vars, 1 ≤ v.line ∧ v.line ≤ L
  /-- Every constant's line. -/
  constants : ∀ v ∈ o.constants, 1 ≤ v.line ∧ v.line ≤ L

/-- The five conditions at once. -/
theorem withinLines_iff {L : Nat} {o : Outline} :
    o.WithinLines L ↔
      (∀ f ∈ o.functions, RangeWithin L f.startLine f.endLine) ∧
        (∀ c ∈ o.classes, RangeWithin L c.startLine c.endLine) ∧
        (∀ i ∈ o.interfaces, RangeWithin L i.startLine i.endLine) ∧
        (∀ v ∈ o.vars, 1 ≤ v.line ∧ v.line ≤ L) ∧ (∀ v ∈ o.constants, 1 ≤ v.line ∧ v.line ≤ L) :=
  ⟨fun h => ⟨h.1, h.2, h.3, h.4, h.5⟩, fun ⟨h₁, h₂, h₃, h₄, h₅⟩ => ⟨h₁, h₂, h₃, h₄, h₅⟩⟩

instance (L : Nat) (o : Outline) : Decidable (o.WithinLines L) :=
  decidable_of_iff _ withinLines_iff.symm

/-- Changing the members of one entry keeps every entry's property when the change keeps it. -/
theorem forall_mem_modify {α : Type} {P : α → Prop} {f : α → α} (hf : ∀ a, P a → P (f a)) :
    ∀ {l : List α} {i : Nat}, (∀ a ∈ l, P a) → ∀ a ∈ l.modify i f, P a
  | [], _, _ => by simp
  | b :: l, 0, h => by
    rw [List.modify_zero_cons, List.forall_mem_cons]
    exact ⟨hf b (h b List.mem_cons_self), fun a ha => h a (List.mem_cons_of_mem b ha)⟩
  | b :: l, i + 1, h => by
    rw [List.modify_succ_cons, List.forall_mem_cons]
    exact ⟨h b List.mem_cons_self,
      forall_mem_modify hf fun a ha => h a (List.mem_cons_of_mem b ha)⟩

section Operations

variable {L : Nat} {o : Outline}

/-- Only the declarations count: the language, path, package, module path and imports may be
anything. -/
@[simp] theorem withinLines_mk {language filePath package module : String} {imports : List Import} :
    (Outline.mk language filePath package module imports o.functions o.classes o.interfaces o.vars
      o.constants).WithinLines L ↔ o.WithinLines L :=
  ⟨fun h => ⟨h.1, h.2, h.3, h.4, h.5⟩, fun h => ⟨h.1, h.2, h.3, h.4, h.5⟩⟩

@[simp] theorem withinLines_addImport {i : Import} :
    (o.addImport i).WithinLines L ↔ o.WithinLines L :=
  ⟨fun h => ⟨h.1, h.2, h.3, h.4, h.5⟩, fun h => ⟨h.1, h.2, h.3, h.4, h.5⟩⟩

@[simp] theorem withinLines_addFunction {f : FunctionDecl} :
    (o.addFunction f).WithinLines L ↔ o.WithinLines L ∧ RangeWithin L f.startLine f.endLine := by
  simp only [withinLines_iff, Outline.addFunction, List.forall_mem_append, List.forall_mem_singleton]
  tauto

@[simp] theorem withinLines_addClass {c : ClassDecl} :
    (o.addClass c).WithinLines L ↔ o.WithinLines L ∧ RangeWithin L c.startLine c.endLine := by
  simp only [withinLines_iff, Outline.addClass, List.forall_mem_append, List.forall_mem_singleton]
  tauto

@[simp] theorem withinLines_addInterface {i : InterfaceDecl} :
    (o.addInterface i).WithinLines L ↔ o.WithinLines L ∧ RangeWithin L i.startLine i.endLine := by
  simp only [withinLines_iff, Outline.addInterface, List.forall_mem_append,
    List.forall_mem_singleton]
  tauto

@[simp] theorem withinLines_addVariable {v : VariableDecl} :
    (o.addVariable v).WithinLines L ↔ o.WithinLines L ∧ 1 ≤ v.line ∧ v.line ≤ L := by
  simp only [withinLines_iff, Outline.addVariable, List.forall_mem_append,
    List.forall_mem_singleton]
  tauto

@[simp] theorem withinLines_addConstant {v : VariableDecl} :
    (o.addConstant v).WithinLines L ↔ o.WithinLines L ∧ 1 ≤ v.line ∧ v.line ≤ L := by
  simp only [withinLines_iff, Outline.addConstant, List.forall_mem_append,
    List.forall_mem_singleton]
  tauto

/-- Changing a class's members keeps the ranges within the lines. -/
@[simp] theorem withinLines_modifyClass {i : Nat} {f : ClassDecl → ClassDecl}
    (hf : ∀ c, (f c).startLine = c.startLine ∧ (f c).endLine = c.endLine) (h : o.WithinLines L) :
    (o.modifyClass i f).WithinLines L :=
  ⟨h.1, forall_mem_modify (fun c hc => by rwa [(hf c).1, (hf c).2]) h.2, h.3, h.4, h.5⟩

/-- Changing an interface's members keeps the ranges within the lines. -/
@[simp] theorem withinLines_modifyInterface {i : Nat} {f : InterfaceDecl → InterfaceDecl}
    (hf : ∀ c, (f c).startLine = c.startLine ∧ (f c).endLine = c.endLine) (h : o.WithinLines L) :
    (o.modifyInterface i f).WithinLines L :=
  ⟨h.1, h.2, forall_mem_modify (fun c hc => by rwa [(hf c).1, (hf c).2]) h.3, h.4, h.5⟩

end Operations

/-! ## Where blocks end -/

/-- The brace scan stops on one of the lines it reads, or falls back to the last line. -/
theorem blockEnd_go_cases (lines : List (List Char)) (rest : List (List Char)) (i : Nat)
    (depth : Int) (started : Bool) :
    (∃ k < rest.length, blockEnd.go lines rest i depth started = i + k) ∨
      blockEnd.go lines rest i depth started = lines.length - 1 := by
  induction rest generalizing i depth started with
  | nil => exact .inr rfl
  | cons l rest ih =>
    simp only [blockEnd.go]
    split
    · exact .inl ⟨0, by simp, rfl⟩
    · rcases ih (i + 1) _ _ with ⟨k, hk, he⟩ | he
      · exact .inl ⟨k + 1, by simpa using hk, by rw [he]; omega⟩
      · exact .inr he

/-- A brace block opened on a line of the file ends on that line or a later one, and never past
the last. -/
theorem blockEnd_bounds {lines : List (List Char)} {start : Nat} (h : start < lines.length) :
    start ≤ blockEnd lines start ∧ blockEnd lines start < lines.length := by
  unfold blockEnd
  rcases blockEnd_go_cases lines (lines.drop start) start 0 false with ⟨k, hk, he⟩ | he
  · rw [List.length_drop] at hk
    omega
  · omega

/-- The indentation scan stops just before one of the lines it reads, or falls back to the last
line. -/
theorem findIndentBlockEnd_go_cases (lines : List (List Char)) (depth : Nat)
    (rest : List (List Char)) (i : Nat) :
    (∃ k < rest.length, findIndentBlockEnd.go lines depth rest i = i + k - 1) ∨
      findIndentBlockEnd.go lines depth rest i = lines.length - 1 := by
  induction rest generalizing i with
  | nil => exact .inr rfl
  | cons l rest ih =>
    simp only [findIndentBlockEnd.go]
    split
    · exact .inl ⟨0, by simp, rfl⟩
    · rcases ih (i + 1) with ⟨k, hk, he⟩ | he
      · exact .inl ⟨k + 1, by simpa using hk, by rw [he]; omega⟩
      · exact .inr he

/-- An indented block opened on a line of the file, whose body is looked for after a line at or
after it, ends on that line or a later one, and never past the last. -/
theorem findIndentBlockEnd_bounds {lines : List (List Char)} {start : Nat} {bodyFrom : Option Nat}
    (h : start < lines.length) (hb : start ≤ bodyFrom.getD start) :
    start ≤ findIndentBlockEnd lines start bodyFrom ∧
      findIndentBlockEnd lines start bodyFrom < lines.length := by
  simp only [findIndentBlockEnd, List.getElem?_eq_getElem h]
  rcases findIndentBlockEnd_go_cases lines (indentWidth lines[start]) (lines.drop (bodyFrom.getD start + 1))
      (bodyFrom.getD start + 1) with ⟨k, hk, he⟩ | he
  · rw [List.length_drop] at hk
    omega
  · omega

/-- A block measured from line `idx` of the file, ending at position `stop` no earlier and within
the lines, gives a range within the lines once counted from 1. -/
theorem rangeWithin_succ {L idx stop : Nat} (h₁ : idx ≤ stop) (h₂ : stop < L) :
    RangeWithin L (idx + 1) (stop + 1) :=
  ⟨Nat.le_add_left 1 idx, Nat.succ_le_succ h₁, h₂⟩

/-- A brace block opened on a line of the file gives a range within the lines. -/
theorem blockEnd_range {lines : List (List Char)} {idx : Nat} (h : idx < lines.length) :
    RangeWithin lines.length (idx + 1) (blockEnd lines idx + 1) :=
  rangeWithin_succ (blockEnd_bounds h).1 (blockEnd_bounds h).2

/-! ## Scans over numbered lines -/

/-- A fold over numbered entries keeps what each step keeps: a property of the state before the
entry numbered `i`, carried by that entry's step to the state before `i + 1`, holds once all
entries are read. -/
theorem foldl_zipIdx_induction {α σ : Type} (f : σ → α × Nat → σ) (I : Nat → σ → Prop)
    (l : List α) (k : Nat) (s : σ) (hs : I k s)
    (hstep : ∀ p ∈ l.zipIdx k, ∀ s, I p.2 s → I (p.2 + 1) (f s p)) :
    I (k + l.length) ((l.zipIdx k).foldl f s) := by
  induction l generalizing k s with
  | nil => exact hs
  | cons a l ih =>
    have h₁ : I (k + 1) (f s (a, k)) := hstep (a, k) List.mem_cons_self s hs
    have h₂ := ih (k + 1) _ h₁ fun p hp => hstep p (List.mem_cons_of_mem _ hp)
    rw [List.zipIdx_cons, List.foldl_cons, List.length_cons,
      show k + (l.length + 1) = k + 1 + l.length by omega]
    exact h₂

end ReviewPrep.Outline
