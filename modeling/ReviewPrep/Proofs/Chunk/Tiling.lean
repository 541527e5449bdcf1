import ReviewPrep.Proofs.Lines

/-!
# Chunks that tile lines

`Tiling first L cs` says that the chunks `cs` cut the lines `L`, numbered from `first`, into
consecutive non-empty runs, each chunk's content its lines. Tilings compose by concatenation and
read only ranges and contents. `LinePartition text cs` states the same for the lines of a whole
text by indices; a tiling from line 1 is one.
-/

namespace ReviewPrep

/-- The chunks cut the lines, numbered from `first`, into consecutive non-empty runs, each
chunk holding exactly its run. -/
inductive Tiling : Nat → List (List Char) → List Chunk → Prop
  /-- No lines, no chunks. -/
  | nil (first : Nat) : Tiling first [] []
  /-- A chunk for the next run `ls`, then a tiling of the rest. -/
  | cons {first : Nat} {ls rest : List (List Char)} {c : Chunk} {cs : List Chunk} :
      ls ≠ [] → c.startLine = first → c.endLine + 1 = first + ls.length → c.content = ls.flatten →
      Tiling (first + ls.length) rest cs → Tiling first (ls ++ rest) (c :: cs)

/-- The part of a chunk a tiling reads: its line range and its content. -/
def Chunk.span (c : Chunk) : Nat × Nat × List Char := (c.startLine, c.endLine, c.content)

namespace Tiling

/-- One chunk tiles a non-empty run of lines that it holds. -/
theorem single {first : Nat} {ls : List (List Char)} {c : Chunk} (hne : ls ≠ [])
    (hs : c.startLine = first) (he : c.endLine + 1 = first + ls.length) (hc : c.content = ls.flatten) :
    Tiling first ls [c] := by
  simpa using cons hne hs he hc (nil (first + ls.length))

/-- Tilings of consecutive runs of lines compose. -/
theorem append {first : Nat} {L₁ L₂ : List (List Char)} {cs₁ cs₂ : List Chunk}
    (h₁ : Tiling first L₁ cs₁) (h₂ : Tiling (first + L₁.length) L₂ cs₂) :
    Tiling first (L₁ ++ L₂) (cs₁ ++ cs₂) := by
  induction h₁ with
  | nil => simpa using h₂
  | cons hne hs he hc _ ih =>
    rw [List.append_assoc, List.cons_append]
    refine cons hne hs he hc (ih ?_)
    simpa [Nat.add_assoc] using h₂

/-- A tiling reads only the line ranges and contents of its chunks. -/
theorem of_span {first : Nat} {L : List (List Char)} {cs cs' : List Chunk}
    (h : Tiling first L cs) (hs : cs'.map Chunk.span = cs.map Chunk.span) : Tiling first L cs' := by
  induction h generalizing cs' with
  | nil first =>
    rw [List.map_nil, List.map_eq_nil_iff] at hs
    subst hs
    exact nil first
  | @cons first ls rest c cs hne hstart hend hcontent _ ih =>
    obtain ⟨c', cs', rfl⟩ := List.exists_cons_of_length_eq_add_one
      (by simpa using congrArg List.length hs)
    simp only [List.map_cons, List.cons.injEq, Chunk.span, Prod.mk.injEq] at hs
    obtain ⟨⟨h₁, h₂, h₃⟩, hrest⟩ := hs
    exact cons hne (h₁.trans hstart) (h₂ ▸ hend) (h₃.trans hcontent) (ih hrest)

/-- The first chunk starts at `first`. -/
theorem head_start {first : Nat} {L : List (List Char)} {cs : List Chunk} (h : Tiling first L cs) :
    ∀ c ∈ cs.head?, c.startLine = first := by
  cases h with
  | nil => simp
  | cons _ hs => simpa using hs

/-- A tiling has chunks exactly when there are lines. -/
theorem eq_nil_iff {first : Nat} {L : List (List Char)} {cs : List Chunk} (h : Tiling first L cs) :
    cs = [] ↔ L = [] := by
  cases h with
  | nil => simp
  | cons hne => simp [hne]

/-- The chunks hold the lines, in order. -/
theorem flatten_content {first : Nat} {L : List (List Char)} {cs : List Chunk}
    (h : Tiling first L cs) : (cs.map (·.content)).flatten = L.flatten := by
  induction h with
  | nil => rfl
  | cons _ _ _ hc _ ih => simp [hc, ih]

/-- A tiling ends on the line before `first + L.length`. -/
theorem getLast?_end {first : Nat} {L : List (List Char)} {cs : List Chunk}
    (h : Tiling first L cs) : ∀ c ∈ cs.getLast?, c.endLine + 1 = first + L.length := by
  induction h with
  | nil => simp
  | @cons first ls rest c cs _ _ he _ hrest ih =>
    intro d hd
    cases cs with
    | nil =>
      cases hrest
      simp_all
    | cons c' cs' =>
      rw [List.getLast?_cons_cons] at hd
      simpa [Nat.add_assoc] using ih d hd

/-- Each chunk starts on the line after the previous one ends. -/
theorem succ_start {first : Nat} {L : List (List Char)} {cs : List Chunk}
    (h : Tiling first L cs) : ∀ (i : Nat) (hi : i + 1 < cs.length),
      cs[i + 1].startLine = cs[i].endLine + 1 := by
  induction h with
  | nil => simp
  | @cons first ls rest c cs _ _ he _ hrest ih =>
    intro i hi
    cases i with
    | zero =>
      cases hrest with
      | nil => simp at hi
      | cons _ hs' => simp [hs', he]
    | succ i => simpa using ih i (by simpa using hi)

/-- Each chunk sits at its place among the lines: it starts at or after `first`, ends at or
after its start, and holds the lines from its start to its end. -/
theorem mem {first : Nat} {L : List (List Char)} {cs : List Chunk} (h : Tiling first L cs) :
    ∀ c ∈ cs, first ≤ c.startLine ∧ c.startLine ≤ c.endLine ∧
      c.content = ((L.drop (c.startLine - first)).take (c.endLine + 1 - c.startLine)).flatten := by
  induction h with
  | nil => simp
  | @cons first ls rest c cs hne hs he hc hrest ih =>
    intro d hd
    have hlen : 0 < ls.length := List.length_pos_iff.mpr hne
    rcases List.mem_cons.mp hd with rfl | hd
    · refine ⟨by omega, by omega, ?_⟩
      have hk : d.endLine + 1 - d.startLine = ls.length := by omega
      rw [hk, hs, Nat.sub_self, List.drop_zero, List.take_left, hc]
    · obtain ⟨h₁, h₂, h₃⟩ := ih d hd
      refine ⟨by omega, h₂, ?_⟩
      have hk : d.startLine - first = ls.length + (d.startLine - (first + ls.length)) := by omega
      rw [hk, ← List.drop_drop, List.drop_left]
      exact h₃

/-- Over non-empty lines, no chunk is empty. -/
theorem content_ne_nil {first : Nat} {L : List (List Char)} {cs : List Chunk}
    (h : Tiling first L cs) (hL : ∀ l ∈ L, l ≠ []) : ∀ c ∈ cs, c.content ≠ [] := by
  induction h with
  | nil => simp
  | @cons first ls rest c cs hne _ _ hc _ ih =>
    intro d hd
    rcases List.mem_cons.mp hd with rfl | hd
    · obtain ⟨l, ls', rfl⟩ := List.exists_cons_of_ne_nil hne
      have hl : l ≠ [] := hL l (by simp)
      simp [hc, hl]
    · exact ih (fun l hl => hL l (List.mem_append_right _ hl)) d hd

end Tiling

/-- The chunks of a text cut its lines (kept with their line feeds) into a partition of
consecutive runs, in the words of line numbers counted from 1. -/
structure LinePartition (text : List Char) (cs : List Chunk) : Prop where
  /-- There are chunks exactly when there is text. -/
  eq_nil_iff : cs = [] ↔ text = []
  /-- The first chunk starts on line 1. -/
  head_start : ∀ c ∈ cs.head?, c.startLine = 1
  /-- Each next chunk starts on the line after the previous one ends. -/
  succ_start : ∀ (i : Nat) (hi : i + 1 < cs.length), cs[i + 1].startLine = cs[i].endLine + 1
  /-- The last chunk ends on the last line. -/
  last_end : ∀ c ∈ cs.getLast?, c.endLine = (splitKeepEnds text).length
  /-- No chunk ends before it starts. -/
  start_le_end : ∀ c ∈ cs, c.startLine ≤ c.endLine
  /-- Each chunk holds exactly its lines. -/
  content_eq : ∀ c ∈ cs,
    c.content = (((splitKeepEnds text).drop (c.startLine - 1)).take (c.endLine + 1 - c.startLine)).flatten
  /-- No chunk is empty. -/
  content_ne_nil : ∀ c ∈ cs, c.content ≠ []
  /-- The contents concatenate back to the text. -/
  flatten_content : (cs.map (·.content)).flatten = text

/-- A tiling of the lines of a text from line 1 is a partition of the text. -/
theorem Tiling.linePartition {text : List Char} {cs : List Chunk}
    (h : Tiling 1 (splitKeepEnds text) cs) : LinePartition text cs := by
  obtain ⟨hlines, hflat⟩ := splitKeepEnds_spec text
  have hempty : splitKeepEnds text = [] ↔ text = [] := by
    constructor
    · intro he
      rw [← hflat, he]
      rfl
    · rintro rfl
      rfl
  refine ⟨(h.eq_nil_iff).trans hempty, h.head_start, h.succ_start, ?_, ?_, ?_, ?_, ?_⟩
  · intro c hc
    have := h.getLast?_end c hc
    omega
  · exact fun c hc => (h.mem c hc).2.1
  · exact fun c hc => (h.mem c hc).2.2
  · exact h.content_ne_nil hlines.ne_nil
  · rw [h.flatten_content, hflat]

end ReviewPrep
