import ReviewPrep.Diff.Header
import Mathlib.Data.List.Infix

/-!
# Reading header lines

A numeral takes every decimal digit at the start of a line, so what follows a numeral changes
nothing before it. A strict hunk header, with anything after it, also reads loosely as a hunk
start with the same new start, also once its trailing carriage returns are stripped.
-/

namespace ReviewPrep.Diff

open scoped List

/-- A numeral is the non-empty run of decimal digits at the start, and the rest follows it. -/
theorem number?_eq_some_iff {cs rest : List Char} {n : Numeral} :
    number? cs = some (n, rest) ↔ cs.takeWhile Text.isDecimal ≠ [] ∧
      n = ⟨digitsValue (cs.takeWhile Text.isDecimal), (cs.takeWhile Text.isDecimal).length⟩ ∧
      rest = cs.dropWhile Text.isDecimal := by
  unfold number? digitRun
  split
  · next ds r hdr =>
    simp only [Prod.mk.injEq] at hdr
    simp [hdr.1]
  · next ds r hne hdr =>
    simp only [Prod.mk.injEq] at hdr
    obtain ⟨rfl, rfl⟩ := hdr
    simp only [Option.some.injEq, Prod.mk.injEq]
    constructor
    · rintro ⟨rfl, rfl⟩
      exact ⟨hne, rfl, rfl⟩
    · rintro ⟨-, rfl, rfl⟩
      exact ⟨rfl, rfl⟩

/-- A numeral that stops before the end is read the same at the start of a longer text. -/
theorem number?_append {cs rest : List Char} {n : Numeral} (h : number? cs = some (n, rest))
    (hr : rest ≠ []) (t : List Char) : number? (cs ++ t) = some (n, rest ++ t) := by
  obtain ⟨hne, rfl, rfl⟩ := number?_eq_some_iff.mp h
  have hlen : (cs.takeWhile Text.isDecimal).length ≠ cs.length := by
    intro heq
    have hsum := congrArg List.length
      (List.takeWhile_append_dropWhile (p := Text.isDecimal) (l := cs))
    rw [List.length_append] at hsum
    exact hr (List.length_eq_zero_iff.mp (by omega))
  have htake : (cs ++ t).takeWhile Text.isDecimal = cs.takeWhile Text.isDecimal := by
    rw [List.takeWhile_append, if_neg hlen]
  have hdrop : (cs ++ t).dropWhile Text.isDecimal = cs.dropWhile Text.isDecimal ++ t := by
    have hne' : (cs.dropWhile Text.isDecimal).isEmpty = false := by simpa using hr
    rw [List.dropWhile_append, hne']
    rfl
  rw [number?_eq_some_iff, htake, hdrop]
  exact ⟨hne, rfl, rfl⟩

/-- An optional count followed by a blank is read the same at the start of a longer text. -/
theorem count?_append {cs rest : List Char} {b : Option Numeral} (h : count? cs = (b, rest))
    (hr : rest.head? = some ' ') (t : List Char) : count? (cs ++ t) = (b, rest ++ t) := by
  unfold count? at h
  split at h
  · next rest₀ =>
    split at h
    · next n r hn =>
      simp only [Prod.mk.injEq] at h
      obtain ⟨rfl, rfl⟩ := h
      have hr' : r ≠ [] := by
        rintro rfl
        simp at hr
      simp [count?, number?_append hn hr' t]
    · simp only [Prod.mk.injEq] at h
      obtain ⟨-, rfl⟩ := h
      simp at hr
  · next hcs =>
    simp only [Prod.mk.injEq] at h
    obtain ⟨rfl, rfl⟩ := h
    cases cs with
    | nil => simp at hr
    | cons x cs' =>
      have hx : x ≠ ',' := by
        rintro rfl
        exact hcs cs' rfl
      unfold count?
      rw [List.cons_append]
      split
      · next heq =>
        simp only [List.cons.injEq] at heq
        exact absurd heq.1 hx
      · rfl

/-- A text that a pattern starts is the pattern followed by the rest. -/
theorem eq_append_of_isPrefixOf {p l : List Char} (h : p.isPrefixOf l = true) :
    l = p ++ l.drop p.length :=
  (List.prefix_iff_eq_append.mp (List.isPrefixOf_iff_prefix.mp h)).symm

/-- What a strict hunk header is made of: `@@ -`, the old start and optional count, ` +`, the new
start and optional count, ` @@`, and the section. -/
theorem hunkHeader?_eq_some {line : List Char} {hh : HunkHeader} (h : hunkHeader? line = some hh) :
    ∃ s₁ a s₂ b s₄ c s₅ d s₇, line = "@@ -".toList ++ s₁ ∧ number? s₁ = some (a, s₂) ∧
      count? s₂ = (b, ' ' :: '+' :: s₄) ∧ number? s₄ = some (c, s₅) ∧
      count? s₅ = (d, ' ' :: '@' :: '@' :: s₇) ∧
      hh = ⟨a.value, (b.map (·.value)).getD 1, c.value, (d.map (·.value)).getD 1, Text.trim s₇,
        firstOverlong (a :: b.toList ++ c :: d.toList)⟩ := by
  unfold hunkHeader? at h
  simp only [Option.bind_eq_bind, Option.bind_none, Option.bind_some, Option.pure_def] at h
  split at h
  case isFalse => cases h
  next hp₁ =>
  obtain ⟨⟨a, s₂⟩, ha, h⟩ := Option.bind_eq_some_iff.mp h
  split at h
  case isFalse => cases h
  next hp₂ =>
  obtain ⟨⟨c, s₅⟩, hc, h⟩ := Option.bind_eq_some_iff.mp h
  split at h
  case isFalse => cases h
  next hp₃ =>
  cases h
  exact ⟨_, a, s₂, (count? s₂).1, _, c, s₅, (count? s₅).1, _, eq_append_of_isPrefixOf hp₁, ha,
    Prod.ext rfl (eq_append_of_isPrefixOf hp₂), hc, Prod.ext rfl (eq_append_of_isPrefixOf hp₃), rfl⟩

/-- A strict hunk header is no file header: it starts with `@@`. -/
theorem fileHeader?_eq_none_of_hunkHeader? {line : List Char} {hh : HunkHeader}
    (h : hunkHeader? line = some hh) : fileHeader? line = none := by
  obtain ⟨s₁, -, -, -, -, -, -, -, -, rfl, -⟩ := hunkHeader?_eq_some h
  simp [fileHeader?, List.isPrefixOf]

/-- A file header is no strict hunk header. -/
theorem hunkHeader?_eq_none_of_fileHeader? {line old new : List Char}
    (h : fileHeader? line = some (old, new)) : hunkHeader? line = none := by
  cases hh : hunkHeader? line with
  | none => rfl
  | some hh' => simp [fileHeader?_eq_none_of_hunkHeader? hh] at h

/-- The empty line is no strict hunk header. -/
theorem hunkHeader?_nil : hunkHeader? [] = none := rfl

/-- A strict hunk header, with anything after it, reads loosely as a hunk start with the same
new start. -/
theorem hunkNewStart?_append_of_hunkHeader? {line : List Char} {hh : HunkHeader}
    (h : hunkHeader? line = some hh) (t : List Char) :
    ∃ c d, hunkNewStart? (line ++ t) = some (c, d) ∧ c.value = hh.newStart := by
  obtain ⟨s₁, a, s₂, b, s₄, c, s₅, d, s₇, rfl, ha, hb, hc, hd, rfl⟩ := hunkHeader?_eq_some h
  have hs₂ : s₂ ≠ [] := by
    rintro rfl
    simp [count?] at hb
  have hs₅ : s₅ ≠ [] := by
    rintro rfl
    simp [count?] at hd
  have hsp : Text.isBlank ' ' = true := by decide
  have hminus : Text.isBlank '-' = false := by decide
  have hplus : Text.isBlank '+' = false := by decide
  have hat : Text.isBlank '@' = false := by decide
  refine ⟨c, d.map (·.value), ?_, rfl⟩
  simp [hunkNewStart?, number?_append ha hs₂, count?_append hb rfl, number?_append hc hs₅,
    count?_append hd rfl, hsp, hminus, hplus, hat, List.isPrefixOf]

/-- Stripping characters at the end leaves a line that the stripped characters complete. -/
theorem exists_eq_dropRightOf_append (set cs : List Char) :
    ∃ r, cs = Text.dropRightOf set cs ++ r := by
  refine ⟨(cs.reverse.takeWhile (set.contains ·)).reverse, ?_⟩
  rw [Text.dropRightOf, ← List.reverse_append, List.takeWhile_append_dropWhile, List.reverse_reverse]

/-- A raw line that reads, stripped of its trailing carriage returns, as a strict hunk header
reads loosely as a hunk start with the same new start. -/
theorem hunkNewStart?_of_hunkHeader?_strip {line : List Char} {hh : HunkHeader}
    (h : hunkHeader? (Text.dropRightOf ['\r'] line) = some hh) :
    ∃ c d, hunkNewStart? line = some (c, d) ∧ c.value = hh.newStart := by
  obtain ⟨r, hr⟩ := exists_eq_dropRightOf_append ['\r'] line
  rw [hr]
  exact hunkNewStart?_append_of_hunkHeader? h r

/-- A separator that does not occur gives no split. -/
theorem splitsAt_eq_nil {sep cs : List Char} (h : ¬ sep <:+: cs) : Text.splitsAt sep cs = [] := by
  induction cs with
  | nil => rfl
  | cons c rest ih =>
    have hpre : sep.isPrefixOf (c :: rest) = false := by
      rw [Bool.eq_false_iff]
      intro hp
      exact h (List.IsPrefix.isInfix (List.isPrefixOf_iff_prefix.mp hp))
    have hrest : ¬ sep <:+: rest := fun hr => h (hr.trans (List.suffix_cons c rest).isInfix)
    simp [Text.splitsAt, hpre, ih hrest]

/-- The splits of `u ++ w` end with the splits of `w`, `u` put in front of each. -/
theorem splitsAt_append (sep u w : List Char) :
    ∃ X, Text.splitsAt sep (u ++ w) = X ++ (Text.splitsAt sep w).map fun p => (u ++ p.1, p.2) := by
  induction u with
  | nil => exact ⟨[], by simp⟩
  | cons c u ih =>
    obtain ⟨X, hX⟩ := ih
    refine ⟨(if sep.isPrefixOf (c :: (u ++ w)) then [([], (c :: (u ++ w)).drop sep.length)] else []) ++
      X.map fun p => (c :: p.1, p.2), ?_⟩
    rw [List.cons_append, Text.splitsAt, hX]
    simp [Function.comp_def]

/-- A file header with no ` b/` in its new path is split just before the new path. -/
theorem fileHeader?_eq_some {old new : List Char} (ho : old ≠ []) (hn : new ≠ [])
    (hsep : ¬ " b/".toList <:+: new) :
    fileHeader? ("diff --git a/".toList ++ old ++ " b/".toList ++ new) = some (old, new) := by
  obtain ⟨X, hX⟩ := splitsAt_append " b/".toList old (" b/".toList ++ new)
  have htail : Text.splitsAt " b/".toList (" b/".toList ++ new) = [([], new)] := by
    have hb : ¬ [' ', 'b', '/'] <:+: new := hsep
    simp [Text.splitsAt, List.isPrefixOf, splitsAt_eq_nil hb]
  have hpre : "diff --git a/".toList.isPrefixOf ("diff --git a/".toList ++ old ++ " b/".toList ++ new) = true := by
    simp
  rw [fileHeader?, if_pos hpre]
  have hdrop : ("diff --git a/".toList ++ old ++ " b/".toList ++ new).drop "diff --git a/".length =
      old ++ (" b/".toList ++ new) := by
    have hlen : ("diff --git a/".toList).length = "diff --git a/".length := rfl
    rw [List.append_assoc, List.append_assoc, List.drop_left' hlen]
  rw [hdrop, hX, htail]
  simp [ho, hn]

/-- An ASCII digit has its usual value. -/
theorem digitValue?_of_isDigit {c : Char} (h : c.isDigit = true) :
    Text.digitValue? c = some (c.toNat - 48) := by
  have hlt : c.toNat < 0x80 := by
    simp only [Char.isDigit, Bool.and_eq_true, decide_eq_true_eq] at h
    have hle : c.val.toNat ≤ 57 := by simpa [UInt32.le_iff_toNat_le] using h.2
    show c.val.toNat < 0x80
    omega
  simp [Text.digitValue?, hlt, h]

/-- Written digits are read back as the number. -/
theorem digitsValue_toDigits (n : Nat) : digitsValue (Nat.toDigits 10 n) = n := by
  have hdig : ∀ c ∈ Nat.toDigits 10 n, c.isDigit = true :=
    fun c hc => Nat.isDigit_of_mem_toDigits (by decide) (by decide) hc
  have key : ∀ (ds : List Char) (acc : Nat), (∀ c ∈ ds, c.isDigit = true) →
      ds.foldl (fun acc d => 10 * acc + (Text.digitValue? d).getD 0) acc = Nat.ofDigitChars 10 ds acc := by
    intro ds
    induction ds with
    | nil => intro acc _; rfl
    | cons d ds ih =>
      intro acc h
      rw [List.foldl_cons, Nat.ofDigitChars_cons, digitValue?_of_isDigit (h d (by simp))]
      exact ih _ fun c hc => h c (by simp [hc])
  rw [digitsValue, key _ 0 hdig, Nat.ofDigitChars_ten_toDigits]

/-- Written digits are decimal digits. -/
theorem isDecimal_of_mem_toDigits {n : Nat} {c : Char} (h : c ∈ Nat.toDigits 10 n) :
    Text.isDecimal c = true := by
  simp [Text.isDecimal, digitValue?_of_isDigit (Nat.isDigit_of_mem_toDigits (by decide) (by decide) h)]

/-- A written number followed by a character that is no digit is read back whole. -/
theorem number?_toDigits (n : Nat) {c : Char} (hc : Text.isDecimal c = false) (rest : List Char) :
    number? (Nat.toDigits 10 n ++ c :: rest) = some (⟨n, Text.decimalWidth n⟩, c :: rest) := by
  have hall : ∀ d ∈ Nat.toDigits 10 n, Text.isDecimal d = true := fun d hd => isDecimal_of_mem_toDigits hd
  rw [number?_eq_some_iff, List.takeWhile_append_of_pos hall, List.dropWhile_append_of_pos hall,
    List.takeWhile_cons_of_neg (by simp [hc]), List.dropWhile_cons_of_neg (by simp [hc]),
    List.append_nil]
  exact ⟨Nat.toDigits_ne_nil, by rw [digitsValue_toDigits]; rfl, rfl⟩

/-- A written count followed by a character that is no digit is read back whole. -/
theorem count?_toDigits (n : Nat) {c : Char} (hc : Text.isDecimal c = false) (rest : List Char) :
    count? (',' :: (Nat.toDigits 10 n ++ c :: rest)) = (some ⟨n, Text.decimalWidth n⟩, c :: rest) := by
  simp [count?, number?_toDigits n hc rest]

/-- Numerals of at most `Text.maxDigits` digits are all read. -/
theorem firstOverlong_eq_none {ns : List Numeral} (h : ∀ n ∈ ns, n.width ≤ Text.maxDigits) :
    firstOverlong ns = none := by
  rw [firstOverlong, Option.map_eq_none_iff, List.find?_eq_none]
  intro n hn
  simpa using h n hn

/-- A numeral of more than `Text.maxDigits` digits read first is the one refused. -/
theorem firstOverlong_cons_of_lt {v w : Nat} (h : Text.maxDigits < w) (ns : List Numeral) :
    firstOverlong (⟨v, w⟩ :: ns) = some w := by
  rw [firstOverlong, List.find?_cons_of_pos (by simpa using h), Option.map_some]

end ReviewPrep.Diff
