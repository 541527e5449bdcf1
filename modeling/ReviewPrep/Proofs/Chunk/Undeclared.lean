import ReviewPrep.Proofs.Chunk.Partition

/-!
# Text without declarations

Where no line opens a declaration, splitting along declarations gives one raw chunk over all the
lines (`DeclSplit.run_of_undeclared`). Which lines open none is read off the boundary patterns:
failure passes from the first part of a sequence to the whole and from every alternative to a
choice (`Pattern.Fails`).
-/

namespace ReviewPrep.Pattern

/-- `p` matches at the cursor in no way, whatever is to follow it. -/
def Fails (p : Pattern) (st : Cursor) : Prop := ∀ k, run p st k = none

theorem run_seq (p q : Pattern) (st : Cursor) (k : Cursor → Option Cursor) :
    run (p ++ q) st k = run p st fun st' => run q st' k := by
  show run (.seq p q) st k = _
  rw [run]

/-- A sequence fails where its first part does. -/
theorem Fails.seq {p : Pattern} {st : Cursor} (h : Fails p st) (q : Pattern) : Fails (p ++ q) st := by
  intro k
  rw [run_seq]
  exact h _

theorem Fails.alt {p q : Pattern} {st : Cursor} (hp : Fails p st) (hq : Fails q st) :
    Fails (.alt p q) st := by
  intro k
  rw [run, hp, hq]
  rfl

/-- A choice fails where each alternative does. -/
theorem fails_choice {st : Cursor} : ∀ {ps : List Pattern}, (∀ p ∈ ps, Fails p st) →
    Fails (choice ps) st
  | [], _ => fun k => by rw [choice, run, run]
  | [p], h => h p (List.mem_singleton_self p)
  | p :: q :: ps, h => by
    show Fails (.alt p (choice (q :: ps))) st
    exact Fails.alt (h p List.mem_cons_self)
      (fails_choice fun r hr => h r (List.mem_cons_of_mem _ hr))

/-- One character of a set fails before a character outside it. -/
theorem fails_one {s : CharSet} {st : Cursor} {c : Char} {r : List Char} (hr : st.rest = c :: r)
    (hc : s.has c = false) : Fails (.one s) st := by
  intro k
  rw [run, hr]
  simp [hc]

/-- A text fails before a character other than its first. -/
theorem fails_lit {st : Cursor} {c d : Char} {r : List Char} (hr : st.rest = c :: r) (hcd : c ≠ d)
    {w : String} (hw : w.toList.head? = some d) : Fails (lit w) st := by
  have hd : Fails (oneOf [.char d]) st := fails_one hr (by simp [CharSet.has, ClassItem.has, hcd])
  obtain ⟨ds, hds⟩ : ∃ ds, w.toList = d :: ds := by
    cases hw' : w.toList with
    | nil => simp [hw'] at hw
    | cons d' ds => exact ⟨ds, by simp_all⟩
  unfold lit
  rw [hds]
  cases ds with
  | nil => exact hd
  | cons e es => exact hd.seq _

/-- At the start of the subject and before a character that is no white space, indentation
matches the empty text only, so what follows it must match there. -/
theorem run_indented_seq {st : Cursor} (h0 : st.pos = 0) {c : Char} {r : List Char}
    (hr : st.rest = c :: r) (hc : Text.isBlank c = false) (q : Pattern)
    (k : Cursor → Option Cursor) :
    run (Boundary.indented ++ q) st k = run q st k := by
  have hsp : Fails space st := fails_one hr (by simp [CharSet.has, ClassItem.has, hc])
  rw [run_seq, Boundary.indented, run_seq, run, h0]
  show run (.star space true) st _ = _
  rw [run_star_greedy, hsp]
  rfl

end ReviewPrep.Pattern

namespace ReviewPrep

open Pattern

/-- A line that starts with no white space and with none of the letters that begin the generic
keywords opens no declaration in a language without its own patterns. -/
theorem boundaryAt?_generic_eq_none {c : Char} {r : List Char} (hc : Text.isBlank c = false)
    (hf : c ≠ 'f') (hd : c ≠ 'd') (hcl : c ≠ 'c') :
    DeclSplit.boundaryAt? Boundary.generic (c :: r) = none := by
  let st : Cursor := ⟨0, none, c :: r, [], (c :: r).length⟩
  have hr : st.rest = c :: r := rfl
  have hkw : Fails (keywords ["func", "function", "def", "fn"]) st := by
    apply fails_choice
    simp only [List.map_cons, List.map_nil, List.mem_cons, List.not_mem_nil, or_false]
    rintro p (rfl | rfl | rfl | rfl)
    · exact fails_lit hr hf (by decide)
    · exact fails_lit hr hf (by decide)
    · exact fails_lit hr hd (by decide)
    · exact fails_lit hr hf (by decide)
  have hfun : Fails (Boundary.indented ++ keywords ["func", "function", "def", "fn"]) st :=
    fun k => by rw [run_indented_seq rfl hr hc]; exact hkw k
  have hcls : Fails (Boundary.indented ++ lit "class") st :=
    fun k => by rw [run_indented_seq rfl hr hc]; exact fails_lit hr hcl (by decide) k
  unfold DeclSplit.boundaryAt? Boundary.generic
  simp only [List.findSome?_cons, matchPrefix?, matchFrom]
  rw [((hfun.seq _).seq _) some, ((hcls.seq _).seq _) some]
  rfl

namespace DeclSplit

/-- After the lines `pre`, none of them a declaration line: no chunk closed, the lines gathered
from line 1, and no declaration open. -/
def Undeclared (pre : List (List Char)) (s : DeclSplit) : Prop :=
  ∃ d, s = ⟨[], pre.reverse, 1, "", .raw, false, d⟩

/-- A line that opens no declaration joins the gathered lines. -/
theorem Undeclared.step {bs : List Boundary} {pre : List (List Char)} {s : DeclSplit}
    (h : Undeclared pre s) {line : List Char} (hline : boundaryAt? bs line = none) :
    Undeclared (pre ++ [line]) (step bs s (1 + pre.length) line) := by
  obtain ⟨d, rfl⟩ := h
  have hopen : openAt bs ⟨[], pre.reverse, 1, "", .raw, false, d⟩ (1 + pre.length) line =
      ⟨[], pre.reverse, 1, "", .raw, false, d⟩ := by
    rw [openAt, hline]
  have hstart : (if pre.reverse.isEmpty then 1 + pre.length else 1) = 1 := by
    cases pre <;> simp
  refine ⟨d + (line.count '\x7b' : Int) - (line.count '\x7d' : Int), ?_⟩
  rw [step_eq, hopen]
  simp only [pushAt, closeAt, List.reverse_append, List.reverse_singleton, List.singleton_append]
  split <;> simp_all

/-- Reading lines none of which opens a declaration keeps them gathered. -/
theorem Undeclared.fold (bs : List Boundary) :
    ∀ (rest pre : List (List Char)) (s : DeclSplit), (∀ l ∈ rest, boundaryAt? bs l = none) →
      Undeclared pre s → Undeclared (pre ++ rest)
        ((rest.zipIdx (1 + pre.length)).foldl (fun s (line, n) => DeclSplit.step bs s n line) s)
  | [], pre, s, _, h => by simpa using h
  | line :: rest, pre, s, hrest, h => by
    have h' := Undeclared.fold bs rest (pre ++ [line]) _ (fun l hl => hrest l (by simp [hl]))
      (h.step (hrest line List.mem_cons_self))
    simp only [List.length_append, List.length_singleton, List.append_assoc,
      List.singleton_append] at h'
    simpa [Nat.add_assoc] using h'

/-- Lines none of which opens a declaration make one raw chunk, with no name, over all of
them. -/
theorem run_of_undeclared (bs : List Boundary) {lines : List (List Char)} (hne : lines ≠ [])
    (h : ∀ l ∈ lines, boundaryAt? bs l = none) :
    run bs lines = [⟨.raw, "", 1, lines.length, 0, lines.flatten⟩] := by
  obtain ⟨d, hd⟩ := Undeclared.fold bs lines [] init h ⟨0, rfl⟩
  simp only [List.nil_append, List.length_nil, Nat.add_zero] at hd
  unfold run
  rw [hd]
  have hbuf : lines.reverse.isEmpty = false := by simpa using hne
  simp only [hbuf, Bool.false_eq_true, if_false, flush, List.reverse_reverse]
  rfl

end DeclSplit

end ReviewPrep
