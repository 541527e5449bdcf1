import ReviewPrep.Proofs.Outline.Ranges
import Mathlib.Data.List.Induction
import Mathlib.Data.List.Nodup

/-!
# Nested declarations in outlines

Before recording a function, the Python, Java and Rust scanners skip it when the innermost scope
around its first line is a function. Python records classes only where it records functions, so
no declaration starts inside a function (`Nesting.not_nested`). Java and Rust record classes,
structs and `impl` blocks wherever they stand, so a function starts inside another only through a
class between them (`Nesting.through_class`). Both follow from one invariant of the scan
(`Nesting`), and `read_nesting` states them for any source read.
-/

namespace ReviewPrep

/-- A function's first and last line. -/
def FunctionDecl.range (f : FunctionDecl) : Nat × Nat := (f.startLine, f.endLine)

/-- A class's first and last line. -/
def ClassDecl.range (c : ClassDecl) : Nat × Nat := (c.startLine, c.endLine)

namespace Outline

variable {α : Type}

/-! ## The innermost scope -/

/-- A scope encloses line `n` when it starts before it and ends on it or later. -/
def Scope.Encloses (s : Scope α) (n : Nat) : Prop := s.start < n ∧ n ≤ s.stop

/-- A scope's first and last line. -/
def Scope.range (s : Scope α) : Nat × Nat := (s.start, s.stop)

/-- What the search for the innermost scope around line `n` has found after reading `scopes`:
one of them that encloses the line and starts no earlier than any other that does, found
whenever one encloses it. -/
structure Innermost (scopes : List (Scope α)) (n : Nat) (best : Option (Scope α)) : Prop where
  /-- What is found encloses the line, with the latest start. -/
  latest : ∀ b ∈ best, b ∈ scopes ∧ b.Encloses n ∧ ∀ s ∈ scopes, s.Encloses n → s.start ≤ b.start
  /-- Something is found when a scope encloses the line. -/
  found : (∃ s ∈ scopes, s.Encloses n) → best.isSome

/-- One more scope read: it replaces what was found when it encloses the line and starts later,
or when nothing was found. -/
theorem Innermost.snoc {pre : List (Scope α)} {n : Nat} {best : Option (Scope α)}
    (h : Innermost pre n best) (s : Scope α) :
    Innermost (pre ++ [s]) n
      (if s.start < n && n ≤ s.stop && (best.all fun b => s.start > b.start) then some s
        else best) := by
  by_cases hs : s.Encloses n
  · cases best with
    | none =>
      have hnone : ∀ x ∈ pre, ¬x.Encloses n := fun x hx hx' => by
        simpa using h.found ⟨x, hx, hx'⟩
      have hif : (s.start < n && n ≤ s.stop && (none : Option (Scope α)).all
          fun b => s.start > b.start) = true := by simpa [Scope.Encloses] using hs
      rw [if_pos hif]
      refine ⟨fun b hb => ?_, fun _ => rfl⟩
      obtain rfl := Option.mem_some_iff.mp hb
      refine ⟨by simp, hs, fun x hx hxn => ?_⟩
      rcases List.mem_append.mp hx with hx | hx
      · exact absurd hxn (hnone x hx)
      · obtain rfl := List.mem_singleton.mp hx
        exact Nat.le_refl _
    | some b =>
      obtain ⟨hb, hbn, hbmax⟩ := h.latest b rfl
      by_cases hlt : b.start < s.start
      · have hif : (s.start < n && n ≤ s.stop && (some b).all fun b => s.start > b.start) =
            true := by simpa [Scope.Encloses, hlt] using hs
        rw [if_pos hif]
        refine ⟨fun b' hb' => ?_, fun _ => rfl⟩
        obtain rfl := Option.mem_some_iff.mp hb'
        refine ⟨by simp, hs, fun x hx hxn => ?_⟩
        rcases List.mem_append.mp hx with hx | hx
        · exact Nat.le_of_lt (Nat.lt_of_le_of_lt (hbmax x hx hxn) hlt)
        · obtain rfl := List.mem_singleton.mp hx
          exact Nat.le_refl _
      · have hif : (s.start < n && n ≤ s.stop && (some b).all fun b => s.start > b.start) =
            false := by simp [Nat.not_lt.mp hlt]
        rw [if_neg (Bool.eq_false_iff.mp hif)]
        refine ⟨fun b' hb' => ?_, fun _ => rfl⟩
        obtain rfl := Option.mem_some_iff.mp hb'
        refine ⟨List.mem_append_left _ hb, hbn, fun x hx hxn => ?_⟩
        rcases List.mem_append.mp hx with hx | hx
        · exact hbmax x hx hxn
        · rw [List.mem_singleton.mp hx]
          exact Nat.le_of_not_lt hlt
  · have hif : (s.start < n && n ≤ s.stop && best.all fun b => s.start > b.start) = false := by
      simp only [Scope.Encloses, not_and_or, Nat.not_lt, Nat.not_le] at hs
      rcases hs with hs | hs
      · simp [Nat.not_lt.mpr hs]
      · simp [Nat.not_le.mpr hs]
    rw [if_neg (Bool.eq_false_iff.mp hif)]
    refine ⟨fun b hb => ?_, fun ⟨x, hx, hxn⟩ => ?_⟩
    · obtain ⟨hb, hbn, hbmax⟩ := h.latest b hb
      refine ⟨List.mem_append_left _ hb, hbn, fun x hx hxn => ?_⟩
      rcases List.mem_append.mp hx with hx | hx
      · exact hbmax x hx hxn
      · exact absurd (List.mem_singleton.mp hx ▸ hxn) hs
    · rcases List.mem_append.mp hx with hx | hx
      · exact h.found ⟨x, hx, hxn⟩
      · exact absurd (List.mem_singleton.mp hx ▸ hxn) hs

/-- The innermost scope around a line encloses it and starts no earlier than any other scope
that does; there is one whenever a scope encloses the line. -/
theorem innermostScope_spec (scopes : List (Scope α)) (n : Nat) :
    Innermost scopes n (innermostScope scopes n) := by
  unfold innermostScope
  induction scopes using List.reverseRecOn with
  | nil => exact ⟨fun _ hb => absurd hb (by simp), fun ⟨_, hx, _⟩ => absurd hx (by simp)⟩
  | append_singleton pre s ih =>
    rw [List.foldl_append, List.foldl_cons, List.foldl_nil]
    exact ih.snoc s

/-- What the scanners look at: the item of the innermost scope found. -/
theorem item_innermostScope {scopes : List (Scope α)} {n : Nat} {c : Scope α}
    (hc : c ∈ innermostScope scopes n) : (innermostScope scopes n).map (·.item) = some c.item := by
  rw [Option.mem_def.mp hc, Option.map_some]

/-- Where scopes start on distinct lines, the innermost scope around a line that a scope encloses
is that scope or starts after it. -/
theorem innermostScope_of_encloses {scopes : List (Scope α)}
    (hord : scopes.Pairwise fun a b => a.start < b.start) {a : Scope α} (ha : a ∈ scopes) {n : Nat}
    (hn : a.Encloses n) :
    ∃ c, innermostScope scopes n = some c ∧ c ∈ scopes ∧ c.Encloses n ∧
      (c = a ∨ a.start < c.start) := by
  have hspec := innermostScope_spec scopes n
  obtain ⟨c, hc⟩ := Option.isSome_iff_exists.mp (hspec.found ⟨a, ha, hn⟩)
  obtain ⟨hcm, hcn, hmax⟩ := hspec.latest c hc
  refine ⟨c, hc, hcm, hcn, ?_⟩
  rcases Nat.lt_or_eq_of_le (hmax a ha hn) with hlt | heq
  · exact .inr hlt
  · have hnodup : (scopes.map (·.start)).Nodup := (List.pairwise_map.mpr hord).imp Nat.ne_of_lt
    exact .inl (List.inj_on_of_nodup_map hnodup hcm ha heq.symm)

/-! ## Recording scopes -/

/-- The ranges of an outline's functions, in order. -/
def functionRanges (o : Outline) : List (Nat × Nat) := o.functions.map FunctionDecl.range

/-- The ranges of an outline's classes, in order. -/
def classRanges (o : Outline) : List (Nat × Nat) := o.classes.map ClassDecl.range

@[simp] theorem functionRanges_addFunction (o : Outline) (f : FunctionDecl) :
    functionRanges (o.addFunction f) = functionRanges o ++ [(f.startLine, f.endLine)] := by
  simp [functionRanges, Outline.addFunction, FunctionDecl.range]

@[simp] theorem classRanges_addClass (o : Outline) (c : ClassDecl) :
    classRanges (o.addClass c) = classRanges o ++ [(c.startLine, c.endLine)] := by
  simp [classRanges, Outline.addClass, ClassDecl.range]

@[simp] theorem functionRanges_addClass (o : Outline) (c : ClassDecl) :
    functionRanges (o.addClass c) = functionRanges o := rfl

@[simp] theorem classRanges_addFunction (o : Outline) (f : FunctionDecl) :
    classRanges (o.addFunction f) = classRanges o := rfl

@[simp] theorem functionRanges_addInterface (o : Outline) (i : InterfaceDecl) :
    functionRanges (o.addInterface i) = functionRanges o := rfl

@[simp] theorem classRanges_addInterface (o : Outline) (i : InterfaceDecl) :
    classRanges (o.addInterface i) = classRanges o := rfl

@[simp] theorem functionRanges_modifyClass (o : Outline) (i : Nat) (f : ClassDecl → ClassDecl) :
    functionRanges (o.modifyClass i f) = functionRanges o := rfl

@[simp] theorem functionRanges_modifyInterface (o : Outline) (i : Nat)
    (f : InterfaceDecl → InterfaceDecl) : functionRanges (o.modifyInterface i f) = functionRanges o :=
  rfl

@[simp] theorem classRanges_modifyInterface (o : Outline) (i : Nat)
    (f : InterfaceDecl → InterfaceDecl) : classRanges (o.modifyInterface i f) = classRanges o := rfl

/-- Changing a class's members keeps the class ranges. -/
theorem classRanges_modifyClass (o : Outline) (i : Nat) {f : ClassDecl → ClassDecl}
    (hf : ∀ c, (f c).range = c.range) : classRanges (o.modifyClass i f) = classRanges o := by
  unfold classRanges Outline.modifyClass
  dsimp only
  induction o.classes generalizing i with
  | nil => simp
  | cons c cs ih =>
    cases i with
    | zero => simp [List.modify_zero_cons, hf]
    | succ i => simp [List.modify_succ_cons, ih]

/-- What a grammar's scopes are: which are functions, which are classes, and which are recorded
only at top level or with a class as the innermost scope around them. Functions are always
so recorded, and no class is a function. -/
structure Kinds (α : Type) where
  /-- The scopes of functions. -/
  isFn : α → Bool
  /-- The scopes of classes. -/
  isCls : α → Bool
  /-- The scopes recorded only at top level or directly inside a class. -/
  guarded : α → Bool
  fn_guarded : ∀ x, isFn x = true → guarded x = true
  cls_not_fn : ∀ x, isCls x = true → isFn x = false

variable {K : Kinds α}

/-- How one line's reading changes what nesting depends on. Either no scope is recorded, and the
functions and the class ranges stay; or one scope starting on line `n` is recorded, with a
function or a class of its range when it is one, and, when it is guarded, the innermost scope
around the line, if any, is a class. -/
inductive ScopeStep (K : Kinds α) (n : Nat) (o : Outline) (scopes : List (Scope α)) :
    Outline → List (Scope α) → Prop
  | keep {o' : Outline} (hf : functionRanges o' = functionRanges o)
      (hc : classRanges o' = classRanges o) : ScopeStep K n o scopes o' scopes
  | record {o' : Outline} (stop : Nat) (item : α)
      (hf : functionRanges o' = functionRanges o ++ if K.isFn item then [(n, stop)] else [])
      (hc : classRanges o' = classRanges o ++ if K.isCls item then [(n, stop)] else [])
      (hg : K.guarded item = true → ∀ c ∈ innermostScope scopes n, K.isCls c.item = true) :
      ScopeStep K n o scopes o' (scopes ++ [⟨n, stop, item⟩])

/-- A function that starts inside another function starts inside a class that starts inside
that function. -/
def Through (K : Kinds α) (scopes : List (Scope α)) : Prop :=
  ∀ a ∈ scopes, ∀ b ∈ scopes, K.isFn a.item = true → K.isFn b.item = true → a.Encloses b.start →
    ∃ c ∈ scopes, K.isCls c.item = true ∧ a.start < c.start ∧ c.Encloses b.start

/-- No scope starts inside a function. -/
def Unnested (K : Kinds α) (scopes : List (Scope α)) : Prop :=
  ∀ a ∈ scopes, ∀ b ∈ scopes, K.isFn a.item = true → ¬a.Encloses b.start

/-- What a scan keeps before reading line `k` (counted from 0), with scopes recorded so far. -/
structure Nesting (K : Kinds α) (k : Nat) (o : Outline) (scopes : List (Scope α)) : Prop where
  /-- Scopes are recorded on strictly increasing lines, none after line `k`. -/
  ordered : scopes.Pairwise fun a b => a.start < b.start
  started : ∀ s ∈ scopes, s.start ≤ k
  /-- The outline's functions are the function scopes, range for range. -/
  functions : functionRanges o = (scopes.filter (K.isFn ·.item)).map Scope.range
  /-- The outline's classes are the class scopes, range for range. -/
  classes : classRanges o = (scopes.filter (K.isCls ·.item)).map Scope.range
  through : Through K scopes
  /-- Where every scope is guarded, nothing starts inside a function. -/
  unnested : (∀ x, K.guarded x = true) → Unnested K scopes

section Record

variable {scopes : List (Scope α)} {n stop : Nat} {item : α}

/-- A scope recorded on line `n` after scopes that all start before it: the scope a function
encloses is among the earlier ones, and the new scope encloses none of the starts. -/
theorem mem_record_cases (hlt : ∀ s ∈ scopes, s.start < n) {a b : Scope α}
    (ha : a ∈ scopes ++ [⟨n, stop, item⟩]) (hb : b ∈ scopes ++ [⟨n, stop, item⟩])
    (hab : a.Encloses b.start) :
    a ∈ scopes ∧ (b ∈ scopes ∨ b = ⟨n, stop, item⟩) := by
  have hbn : b.start ≤ n := by
    rcases List.mem_append.mp hb with hb | hb
    · exact Nat.le_of_lt (hlt b hb)
    · obtain rfl := List.mem_singleton.mp hb
      exact Nat.le_refl _
  refine ⟨?_, by simpa using List.mem_append.mp hb⟩
  rcases List.mem_append.mp ha with ha | ha
  · exact ha
  · rw [List.mem_singleton.mp ha] at hab
    exact absurd (Nat.lt_of_lt_of_le hab.1 hbn) (Nat.lt_irrefl n)

/-- Recording a scope under the guard keeps functions nested in functions only through a class:
a function recorded inside an earlier function has, as the innermost scope around it, a class
that starts after that function. -/
theorem Through.record (hord : scopes.Pairwise fun a b => a.start < b.start)
    (hlt : ∀ s ∈ scopes, s.start < n) (h : Through K scopes)
    (hg : K.guarded item = true → ∀ c ∈ innermostScope scopes n, K.isCls c.item = true) :
    Through K (scopes ++ [⟨n, stop, item⟩]) := by
  intro a ha b hb hfa hfb hab
  obtain ⟨ha, hb | rfl⟩ := mem_record_cases hlt ha hb hab
  · obtain ⟨c, hc, hcls, hac, hcb⟩ := h a ha b hb hfa hfb hab
    exact ⟨c, List.mem_append_left _ hc, hcls, hac, hcb⟩
  · obtain ⟨c, hc, hcm, hcn, hca⟩ := innermostScope_of_encloses hord ha hab
    have hcls : K.isCls c.item = true := hg (K.fn_guarded _ hfb) c hc
    rcases hca with rfl | hac
    · exact absurd hfa (by simp [K.cls_not_fn _ hcls])
    · exact ⟨c, List.mem_append_left _ hcm, hcls, hac, hcn⟩

/-- Recording a scope with a class, or nothing, as the innermost scope around it keeps every
scope out of every function. -/
theorem Unnested.record (hord : scopes.Pairwise fun a b => a.start < b.start)
    (hlt : ∀ s ∈ scopes, s.start < n) (h : Unnested K scopes)
    (hg : ∀ c ∈ innermostScope scopes n, K.isCls c.item = true) :
    Unnested K (scopes ++ [⟨n, stop, item⟩]) := by
  intro a ha b hb hfa hab
  obtain ⟨ha, hb | rfl⟩ := mem_record_cases hlt ha hb hab
  · exact h a ha b hb hfa hab
  · obtain ⟨c, hc, hcm, hcn, hca⟩ := innermostScope_of_encloses hord ha hab
    have hcls : K.isCls c.item = true := hg c hc
    rcases hca with rfl | hac
    · exact absurd hfa (by simp [K.cls_not_fn _ hcls])
    · exact h a ha c hcm hfa ⟨hac, Nat.le_trans (Nat.le_of_lt hcn.1) hab.2⟩

end Record

/-- Nothing recorded yet: the invariant holds of an outline with no functions and no classes. -/
theorem nesting_nil {o : Outline} (hf : o.functions = []) (hc : o.classes = []) :
    Nesting K 0 o [] :=
  ⟨List.Pairwise.nil, nofun, by simp [functionRanges, hf], by simp [classRanges, hc],
    fun _ h => absurd h (by simp), fun _ _ h => absurd h (by simp)⟩

/-- Reading line `k` keeps the invariant. -/
theorem Nesting.step {k : Nat} {o o' : Outline} {scopes scopes' : List (Scope α)}
    (h : Nesting K k o scopes) (hs : ScopeStep K (k + 1) o scopes o' scopes') :
    Nesting K (k + 1) o' scopes' := by
  cases hs with
  | keep hf hc =>
    exact ⟨h.ordered, fun s hs => Nat.le_succ_of_le (h.started s hs), hf ▸ h.functions,
      hc ▸ h.classes, h.through, h.unnested⟩
  | record stop item hf hc hg =>
    have hlt : ∀ s ∈ scopes, s.start < k + 1 := fun s hs => Nat.lt_succ_of_le (h.started s hs)
    refine ⟨?_, ?_, ?_, ?_, h.through.record h.ordered hlt hg,
      fun hall => (h.unnested hall).record h.ordered hlt (hg (hall item))⟩
    · exact List.pairwise_append.mpr ⟨h.ordered, List.pairwise_singleton _ _,
        fun a ha b hb => by rw [List.mem_singleton.mp hb]; exact hlt a ha⟩
    · intro s hs
      rcases List.mem_append.mp hs with hs | hs
      · exact Nat.le_of_lt (hlt s hs)
      · obtain rfl := List.mem_singleton.mp hs
        exact Nat.le_refl _
    · rw [hf, h.functions]
      cases hi : K.isFn item <;> simp [Scope.range, hi]
    · rw [hc, h.classes]
      cases hi : K.isCls item <;> simp [Scope.range, hi]

/-- A scan whose every step is a `ScopeStep` keeps the invariant over all the lines. -/
theorem Nesting.scan {σ : Type} (outline : σ → Outline) (scopes : σ → List (Scope α))
    (f : σ → List Char × Nat → σ)
    (hf : ∀ s p, ScopeStep K (p.2 + 1) (outline s) (scopes s) (outline (f s p)) (scopes (f s p)))
    (lines : List (List Char)) {s : σ} (h : Nesting K 0 (outline s) (scopes s)) :
    Nesting K lines.length (outline (lines.zipIdx.foldl f s)) (scopes (lines.zipIdx.foldl f s)) := by
  have hrun := foldl_zipIdx_induction f (fun k s => Nesting K k (outline s) (scopes s)) lines 0 s h
    fun p _ s hs => hs.step (hf s p)
  simpa using hrun

/-! ## From scopes to outlines -/

section Outline

variable {k : Nat} {o : Outline} {scopes : List (Scope α)}

/-- Each function of the outline is a function scope of its range. -/
theorem Nesting.function_scope (h : Nesting K k o scopes) {f : FunctionDecl}
    (hf : f ∈ o.functions) :
    ∃ a ∈ scopes, K.isFn a.item = true ∧ a.start = f.startLine ∧ a.stop = f.endLine := by
  have hr : f.range ∈ (scopes.filter (K.isFn ·.item)).map Scope.range := by
    rw [← h.functions]
    exact List.mem_map_of_mem hf
  obtain ⟨a, ha, har⟩ := List.mem_map.mp hr
  obtain ⟨ha, hfn⟩ := List.mem_filter.mp ha
  exact ⟨a, ha, hfn, congrArg Prod.fst har, congrArg Prod.snd har⟩

/-- Each class of the outline is a class scope of its range. -/
theorem Nesting.class_scope (h : Nesting K k o scopes) {c : ClassDecl} (hc : c ∈ o.classes) :
    ∃ a ∈ scopes, K.isCls a.item = true ∧ a.start = c.startLine ∧ a.stop = c.endLine := by
  have hr : c.range ∈ (scopes.filter (K.isCls ·.item)).map Scope.range := by
    rw [← h.classes]
    exact List.mem_map_of_mem hc
  obtain ⟨a, ha, har⟩ := List.mem_map.mp hr
  obtain ⟨ha, hcls⟩ := List.mem_filter.mp ha
  exact ⟨a, ha, hcls, congrArg Prod.fst har, congrArg Prod.snd har⟩

/-- Each class scope is a class of the outline of its range. -/
theorem Nesting.scope_class (h : Nesting K k o scopes) {a : Scope α} (ha : a ∈ scopes)
    (hcls : K.isCls a.item = true) : ∃ c ∈ o.classes, c.startLine = a.start ∧ c.endLine = a.stop := by
  have hr : a.range ∈ classRanges o := by
    rw [h.classes]
    exact List.mem_map_of_mem (List.mem_filter.mpr ⟨ha, hcls⟩)
  obtain ⟨c, hc, hcr⟩ := List.mem_map.mp hr
  exact ⟨c, hc, congrArg Prod.fst hcr, congrArg Prod.snd hcr⟩

/-- A function of the outline starts inside another only where it also starts inside a class
of the outline that starts inside that other function. -/
theorem Nesting.through_class (h : Nesting K k o scopes) :
    ∀ f ∈ o.functions, ∀ g ∈ o.functions, f.startLine < g.startLine → g.startLine ≤ f.endLine →
      ∃ c ∈ o.classes, f.startLine < c.startLine ∧ c.startLine < g.startLine ∧
        g.startLine ≤ c.endLine := by
  intro f hf g hg hfg hgf
  obtain ⟨a, ha, hfa, hfs, hfe⟩ := h.function_scope hf
  obtain ⟨b, hb, hfb, hgs, -⟩ := h.function_scope hg
  obtain ⟨c, hc, hcls, hac, hcb, hbc⟩ := h.through a ha b hb hfa hfb ⟨by omega, by omega⟩
  obtain ⟨cd, hcd, hstart, hstop⟩ := h.scope_class hc hcls
  exact ⟨cd, hcd, by omega, by omega, by omega⟩

/-- Where every scope is guarded, no function and no class of the outline starts inside a
function of the outline. -/
theorem Nesting.not_nested (h : Nesting K k o scopes) (hall : ∀ x, K.guarded x = true) :
    ∀ f ∈ o.functions, (∀ g ∈ o.functions, ¬(f.startLine < g.startLine ∧ g.startLine ≤ f.endLine)) ∧
      ∀ c ∈ o.classes, ¬(f.startLine < c.startLine ∧ c.startLine ≤ f.endLine) := by
  intro f hf
  obtain ⟨a, ha, hfa, hfs, hfe⟩ := h.function_scope hf
  refine ⟨fun g hg hfg => ?_, fun c hc hfc => ?_⟩
  · obtain ⟨b, hb, -, hgs, -⟩ := h.function_scope hg
    exact h.unnested hall a ha b hb hfa ⟨by omega, by omega⟩
  · obtain ⟨b, hb, -, hcs, -⟩ := h.class_scope hc
    exact h.unnested hall a ha b hb hfa ⟨by omega, by omega⟩

end Outline

/-! ## Python -/

namespace Python

/-- Whether a block is a function. -/
def Block.isFunction : Block → Bool
  | .function => true
  | .classAt _ => false

/-- Python's blocks: functions and classes, each recorded only at top level or directly inside
a class. -/
def kinds : Kinds Block where
  isFn := Block.isFunction
  isCls b := !b.isFunction
  guarded _ := true
  fn_guarded _ _ := rfl
  cls_not_fn b h := by simpa using h

/-- Where the innermost block around a line is no function, it is a class. -/
theorem isCls_of_not_function {scopes : List (Scope Block)} {n : Nat}
    (h : (innermostScope scopes n).map (·.item) = some .function → False) :
    ∀ c ∈ innermostScope scopes n, kinds.isCls c.item = true := by
  intro c hc
  cases hci : c.item with
  | function => exact absurd (hci ▸ item_innermostScope hc) h
  | classAt i => rfl

/-- Reading a line records nothing, or a function or a class on it whose innermost enclosing
block is no function. -/
theorem step_scopeStep (lines : List (List Char)) (s : State) (line : List Char) (idx : Nat) :
    ScopeStep kinds (idx + 1) s.outline s.scopes (step lines s line idx).outline
      (step lines s line idx).scopes := by
  unfold step
  dsimp only
  split
  · exact .keep rfl rfl
  cases hd : defLine.matchPrefix? line with
  | none =>
    cases hc : classLine.matchPrefix? line with
    | none =>
      simp only [Option.isNone_none, Option.isSome_none, Bool.and_self, Bool.false_eq_true,
        ite_true, ite_false]
      split
      · exact .keep rfl rfl
      split <;> exact .keep rfl rfl
    | some m =>
      simp only [Option.isNone_none, Option.isSome_none, Option.isNone_some, Bool.false_eq_true,
        ite_false, Bool.and_false]
      split
      · exact .keep rfl rfl
      · next hown =>
        exact .record _ _ (by simp [kinds, Block.isFunction]) (by simp [kinds, Block.isFunction])
          fun _ => isCls_of_not_function hown
  | some m =>
    simp only [Option.isNone_none, Option.isSome_some, Option.isNone_some, Bool.false_eq_true,
      ite_true, ite_false, Bool.false_and]
    split
    · exact .keep rfl rfl
    · next hown =>
      have hg := fun (_ : kinds.guarded Block.function = true) => isCls_of_not_function hown
      split
      · refine .record _ _ (by simp [kinds, Block.isFunction]) ?_ hg
        rw [classRanges_addFunction, classRanges_modifyClass]
        · simp [kinds, Block.isFunction]
        · exact fun _ => rfl
      · exact .record _ _ (by simp [kinds, Block.isFunction]) (by simp [kinds, Block.isFunction]) hg

/-- No function and no class of a Python outline starts inside one of its functions. -/
theorem scan_not_nested {lines : List (List Char)} {o : Outline} (hf : o.functions = [])
    (hc : o.classes = []) :
    ∀ f ∈ (scan lines o).functions,
      (∀ g ∈ (scan lines o).functions, ¬(f.startLine < g.startLine ∧ g.startLine ≤ f.endLine)) ∧
        ∀ c ∈ (scan lines o).classes, ¬(f.startLine < c.startLine ∧ c.startLine ≤ f.endLine) := by
  have h := Nesting.scan State.outline State.scopes (fun s p => step lines s p.1 p.2)
    (fun s p => step_scopeStep lines s p.1 p.2) lines (s := ⟨o, []⟩) (nesting_nil hf hc)
  exact h.not_nested fun _ => rfl

end Python

/-! ## Java -/

namespace Java

/-- Whether a scope is a method. -/
def Owner.isFunction : Owner → Bool
  | .function => true
  | _ => false

/-- Whether a scope is a class. -/
def Owner.isClass : Owner → Bool
  | .classAt _ => true
  | _ => false

/-- Java's scopes: methods, classes and interfaces; only methods are recorded under a guard. -/
def kinds : Kinds Owner where
  isFn := Owner.isFunction
  isCls := Owner.isClass
  guarded := Owner.isFunction
  fn_guarded _ h := h
  cls_not_fn x h := by cases x <;> simp_all [Owner.isClass, Owner.isFunction]

/-- Where the innermost scope around a line is neither an interface nor a method, it is a
class. -/
theorem isCls_of_owner {scopes : List (Scope Owner)} {n : Nat}
    (hi : ∀ i, (innermostScope scopes n).map (·.item) = some (.interfaceAt i) → False)
    (hf : (innermostScope scopes n).map (·.item) = some .function → False) :
    ∀ c ∈ innermostScope scopes n, kinds.isCls c.item = true := by
  intro c hc
  have hitem := item_innermostScope hc
  cases hci : c.item with
  | classAt i => rfl
  | interfaceAt i => exact absurd (hci ▸ hitem) (hi i)
  | function => exact absurd (hci ▸ hitem) hf

/-- Reading a line that declares no type records nothing, or a method whose innermost enclosing
scope is a class, if any. -/
theorem methodStep_scopeStep (lines : List (List Char)) (s : State) (line : List Char)
    (idx : Nat) :
    ScopeStep kinds (idx + 1) s.outline s.scopes (methodStep lines s line idx).outline
      (methodStep lines s line idx).scopes := by
  unfold methodStep
  dsimp only
  split
  · exact .keep rfl rfl
  split
  · exact .keep (by simp) (by simp)
  · exact .keep rfl rfl
  · next hi hf =>
    have hg := fun (_ : kinds.guarded Owner.function = true) => isCls_of_owner hi hf
    split
    · split
      · exact .keep rfl (classRanges_modifyClass _ _ fun _ => rfl)
      · exact .keep rfl rfl
    · split
      · refine .record _ _ (by simp [kinds, Owner.isFunction]) ?_ hg
        rw [classRanges_addFunction, classRanges_modifyClass]
        · simp [kinds, Owner.isClass]
        · exact fun _ => rfl
      · exact .record _ _ (by simp [kinds, Owner.isFunction]) (by simp [kinds, Owner.isClass]) hg

/-- Reading a line records nothing, a class or an interface on it, or a method whose innermost
enclosing scope is a class, if any. -/
theorem step_scopeStep (lines : List (List Char)) (s : State) (line : List Char) (idx : Nat) :
    ScopeStep kinds (idx + 1) s.outline s.scopes (step lines s line idx).outline
      (step lines s line idx).scopes := by
  unfold step
  dsimp only
  split
  · exact .keep rfl rfl
  split
  · exact .keep rfl rfl
  split
  · exact .record _ _ (by simp [kinds, Owner.isFunction]) (by simp [kinds, Owner.isClass])
      fun h => absurd h (by simp [kinds, Owner.isFunction])
  split
  · exact .record _ _ (by simp [kinds, Owner.isFunction]) (by simp [kinds, Owner.isClass])
      fun h => absurd h (by simp [kinds, Owner.isFunction])
  · exact methodStep_scopeStep lines s line idx

/-- A method of a Java outline starts inside another only where it also starts inside a class
that starts inside that other method. -/
theorem scan_through_class {lines : List (List Char)} {o : Outline} (hf : o.functions = [])
    (hc : o.classes = []) :
    ∀ f ∈ (scan lines o).functions, ∀ g ∈ (scan lines o).functions,
      f.startLine < g.startLine → g.startLine ≤ f.endLine →
        ∃ c ∈ (scan lines o).classes, f.startLine < c.startLine ∧ c.startLine < g.startLine ∧
          g.startLine ≤ c.endLine :=
  (Nesting.scan State.outline State.scopes (fun s p => step lines s p.1 p.2)
    (fun s p => step_scopeStep lines s p.1 p.2) lines (s := ⟨o, []⟩) (nesting_nil hf hc)).through_class

end Java

/-! ## Rust -/

namespace Rust

/-- Whether an item is a function. -/
def Owner.isFunction : Owner → Bool
  | .function => true
  | _ => false

/-- Whether an item is listed as a class: a struct, enum or union, or an `impl` block. -/
def Owner.isClass : Owner → Bool
  | .struct _ | .impl _ => true
  | _ => false

/-- Rust's items: functions, structs and `impl` blocks listed as classes, and traits; only
functions are recorded under a guard. -/
def kinds : Kinds Owner where
  isFn := Owner.isFunction
  isCls := Owner.isClass
  guarded := Owner.isFunction
  fn_guarded _ h := h
  cls_not_fn x h := by cases x <;> simp_all [Owner.isClass, Owner.isFunction]

/-- Where the innermost item around a line is neither a trait, a function nor a struct, it is an
`impl` block, so a class. -/
theorem isCls_of_owner {scopes : List (Scope Owner)} {n : Nat}
    (ht : ∀ i, (innermostScope scopes n).map (·.item) = some (.trait i) → False)
    (hf : (innermostScope scopes n).map (·.item) = some .function → False)
    (hs : ∀ i, (innermostScope scopes n).map (·.item) = some (.struct i) → False) :
    ∀ c ∈ innermostScope scopes n, kinds.isCls c.item = true := by
  intro c hc
  have hitem := item_innermostScope hc
  cases hci : c.item with
  | impl i => rfl
  | struct i => exact absurd (hci ▸ hitem) (hs i)
  | trait i => exact absurd (hci ▸ hitem) (ht i)
  | function => exact absurd (hci ▸ hitem) hf

/-- Reading a line records nothing, a struct, an `impl` block or a trait on it, or a function
whose innermost enclosing item is an `impl` block, if any. -/
theorem step_scopeStep (lines : List (List Char)) (s : State) (line : List Char) (idx : Nat) :
    ScopeStep kinds (idx + 1) s.outline s.scopes (step lines s line idx).outline
      (step lines s line idx).scopes := by
  have hng : ∀ {x : Owner}, x.isFunction = false →
      kinds.guarded x = true → ∀ c ∈ innermostScope s.scopes (idx + 1), kinds.isCls c.item = true :=
    fun hx h => absurd h (by simp [kinds, hx])
  unfold step
  dsimp only
  split
  · exact .keep rfl rfl
  split
  · split
    · exact .keep (by simp) (by simp)
    · exact .keep rfl rfl
    · exact .keep rfl rfl
    · next ht hf hs =>
      have hg := fun (_ : kinds.guarded Owner.function = true) => isCls_of_owner ht hf hs
      split
      · refine .record _ _ (by simp [kinds, Owner.isFunction]) ?_ hg
        rw [classRanges_addFunction, classRanges_modifyClass]
        · simp [kinds, Owner.isClass]
        · exact fun _ => rfl
      · exact .record _ _ (by simp [kinds, Owner.isFunction]) (by simp [kinds, Owner.isClass]) hg
  split
  · split
    · exact .keep rfl (classRanges_modifyClass _ _ fun _ => rfl)
    · exact .keep rfl rfl
  split
  · exact .record _ _ (by simp [kinds, Owner.isFunction]) (by simp [kinds, Owner.isClass])
      (hng rfl)
  split
  · exact .record _ _ (by simp [kinds, Owner.isFunction]) (by simp [kinds, Owner.isClass])
      (hng rfl)
  split
  · exact .record _ _ (by simp [kinds, Owner.isFunction]) (by simp [kinds, Owner.isClass])
      (hng rfl)
  · exact .keep rfl rfl

/-- A function of a Rust outline starts inside another only where it also starts inside a
struct or `impl` block that starts inside that other function. -/
theorem scan_through_class {lines : List (List Char)} {o : Outline} (hf : o.functions = [])
    (hc : o.classes = []) :
    ∀ f ∈ (scan lines o).functions, ∀ g ∈ (scan lines o).functions,
      f.startLine < g.startLine → g.startLine ≤ f.endLine →
        ∃ c ∈ (scan lines o).classes, f.startLine < c.startLine ∧ c.startLine < g.startLine ∧
          g.startLine ≤ c.endLine :=
  (Nesting.scan State.outline State.scopes (fun s p => step lines s p.1 p.2)
    (fun s p => step_scopeStep lines s p.1 p.2) lines (s := ⟨o, []⟩) (nesting_nil hf hc)).through_class

end Rust

end Outline

/-- A source that reads gives the outline that its grammar finds in its text, starting from an
outline with only the language and the path set. -/
theorem Outline.read_eq_ok_scan {language filePath : String} {code : Payload} {g : Grammar}
    {o : Outline} (h : Outline.read language code filePath = .ok (g, o)) :
    ∃ t, g.scan (Diff.textLines t) { language := sourceLanguage language filePath, filePath } =
      some o := by
  cases ht : code.strictText with
  | error e =>
    cases e with
    | notText k =>
      rw [Outline.read_of_notText ht] at h
      exact absurd h nofun
    | invalidUtf8 e =>
      rw [Outline.read_of_invalidUtf8 ht] at h
      exact absurd h nofun
  | ok t =>
    cases hs : (Grammar.ofTag (sourceLanguage language filePath)).scan (Diff.textLines t)
        { language := sourceLanguage language filePath, filePath } with
    | none =>
      rw [Outline.read_of_scan_none ht hs] at h
      exact absurd h nofun
    | some o' =>
      rw [Outline.read_of_scan_some ht hs] at h
      obtain ⟨rfl, rfl⟩ := Prod.mk.inj (Except.ok.inj h)
      exact ⟨t, hs⟩

/-- How declarations nest in an outline read from any source. Read as Python, no function and
no class starts inside the range of a function. Read as Java or Rust, a function may start
inside another function, but only where it also starts inside a class (for Rust, a struct or an
`impl` block) that starts inside that function: a method of a class declared in a function is
listed, as is a method of an `impl` block in a function. -/
theorem read_nesting {language filePath : String} {code : Payload} {g : Grammar} {o : Outline}
    (hread : Outline.read language code filePath = .ok (g, o)) :
    (g = .python → ∀ f ∈ o.functions,
      (∀ h ∈ o.functions, ¬(f.startLine < h.startLine ∧ h.startLine ≤ f.endLine)) ∧
        ∀ c ∈ o.classes, ¬(f.startLine < c.startLine ∧ c.startLine ≤ f.endLine)) ∧
    (g = .java ∨ g = .rust → ∀ f ∈ o.functions, ∀ h ∈ o.functions,
      f.startLine < h.startLine → h.startLine ≤ f.endLine →
        ∃ c ∈ o.classes, f.startLine < c.startLine ∧ c.startLine < h.startLine ∧
          h.startLine ≤ c.endLine) := by
  obtain ⟨t, hs⟩ := Outline.read_eq_ok_scan hread
  refine ⟨fun hg => ?_, fun hg => ?_⟩
  · subst hg
    obtain ⟨m, -, rfl⟩ := Option.map_eq_some_iff.mp hs
    exact Outline.Python.scan_not_nested rfl rfl
  · rcases hg with rfl | rfl
    · cases hs
      exact Outline.Java.scan_through_class rfl rfl
    · cases hs
      exact Outline.Rust.scan_through_class rfl rfl

/-- A Rust function with an `impl` block inside it, and a method in the block. -/
theorem read_impl_in_function :
    Outline.read "rust"
        (.text "fn f() \x7b\n    impl Foo \x7b\n        fn g() \x7b\x7d\n    \x7d\n\x7d\n") "a.rs" =
      .ok (.rust, Outline.Rust.scan
        (Diff.textLines "fn f() \x7b\n    impl Foo \x7b\n        fn g() \x7b\x7d\n    \x7d\n\x7d\n")
        { language := "rust", filePath := "a.rs" }) := by
  have hl : sourceLanguage "rust" "a.rs" = "rust" := by decide
  have hg : Grammar.ofTag "rust" = .rust := by decide
  have h := @Outline.read_of_scan_some "rust" "a.rs"
    (.text "fn f() \x7b\n    impl Foo \x7b\n        fn g() \x7b\x7d\n    \x7d\n\x7d\n")
    "fn f() \x7b\n    impl Foo \x7b\n        fn g() \x7b\x7d\n    \x7d\n\x7d\n"
    (Outline.Rust.scan
      (Diff.textLines "fn f() \x7b\n    impl Foo \x7b\n        fn g() \x7b\x7d\n    \x7d\n\x7d\n")
      { language := "rust", filePath := "a.rs" }) rfl (by rw [hl, hg]; rfl)
  rwa [hl, hg] at h

/-- The method `g` of an `impl` block inside the function `f` is listed and starts inside `f`;
the block, listed as a class, stands between them. -/
theorem read_nesting_impl_in_function :
    Outline.read "rust"
        (.text "fn f() \x7b\n    impl Foo \x7b\n        fn g() \x7b\x7d\n    \x7d\n\x7d\n") "a.rs" =
      .ok (.rust, Outline.Rust.scan
        (Diff.textLines "fn f() \x7b\n    impl Foo \x7b\n        fn g() \x7b\x7d\n    \x7d\n\x7d\n")
        { language := "rust", filePath := "a.rs" }) ∧
    (Grammar.rust = .java ∨ Grammar.rust = .rust → ∀ f ∈ (Outline.Rust.scan
        (Diff.textLines "fn f() \x7b\n    impl Foo \x7b\n        fn g() \x7b\x7d\n    \x7d\n\x7d\n")
        { language := "rust", filePath := "a.rs" }).functions, ∀ h ∈ (Outline.Rust.scan
        (Diff.textLines "fn f() \x7b\n    impl Foo \x7b\n        fn g() \x7b\x7d\n    \x7d\n\x7d\n")
        { language := "rust", filePath := "a.rs" }).functions,
      f.startLine < h.startLine → h.startLine ≤ f.endLine →
        ∃ c ∈ (Outline.Rust.scan
          (Diff.textLines "fn f() \x7b\n    impl Foo \x7b\n        fn g() \x7b\x7d\n    \x7d\n\x7d\n")
          { language := "rust", filePath := "a.rs" }).classes,
          f.startLine < c.startLine ∧ c.startLine < h.startLine ∧ h.startLine ≤ c.endLine) :=
  ⟨read_impl_in_function, (read_nesting read_impl_in_function).2⟩

/-- Reading a Rust function with an `impl` block inside it lists the block's method `g`, on line
3, as well as the function `f`, on lines 1 to 5: a function starts inside another. -/
theorem method_in_function_listed :
    Outline.read "rust"
        (.text "fn f() \x7b\n    impl Foo \x7b\n        fn g() \x7b\x7d\n    \x7d\n\x7d\n") "a.rs" =
      .ok (.rust, Outline.Rust.scan
        (Diff.textLines "fn f() \x7b\n    impl Foo \x7b\n        fn g() \x7b\x7d\n    \x7d\n\x7d\n")
        { language := "rust", filePath := "a.rs" }) ∧
    (Outline.Rust.scan
        (Diff.textLines "fn f() \x7b\n    impl Foo \x7b\n        fn g() \x7b\x7d\n    \x7d\n\x7d\n")
        { language := "rust", filePath := "a.rs" }).functions.map
      (fun f => (f.name, f.startLine, f.endLine)) = [("f", 1, 5), ("g", 3, 3)] :=
  ⟨read_impl_in_function, by decide⟩

end ReviewPrep
