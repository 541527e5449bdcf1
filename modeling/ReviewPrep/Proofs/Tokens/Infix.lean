import ReviewPrep.Proofs.Tokens.Rounding
import ReviewPrep.Tokens.Estimate

/-!
# Estimates of part of a text

Where the estimate of a text has a value, so does the estimate of every infix of it
(`estimate_ok_mono`): an infix is no longer, code-like only if the text is, and the later
factors are at most one, so binary64 rounding keeps its estimate below a finite value. Code
indicators are found in the lower case of the text, taken one character at a time.
-/

namespace ReviewPrep

namespace Text

/-- The occurrence check is the infix relation. -/
theorem occursIn_iff (p cs : List Char) : occursIn p cs = true ↔ p <:+: cs := by
  induction cs with
  | nil =>
    simp only [occursIn, List.isEmpty_iff]
    exact ⟨fun h => h ▸ List.infix_refl [], List.eq_nil_of_infix_nil⟩
  | cons c cs ih =>
    simp only [occursIn, Bool.or_eq_true, List.isPrefixOf_iff_prefix, ih, List.infix_cons_iff]

/-- The final sigma read as the small sigma. -/
def foldSigma (c : Char) : Char := if c = Char.ofNat 0x3C2 then Char.ofNat 0x3C3 else c

/-- The lower case of one character, a capital sigma lowering to the small sigma. -/
def lowerChar (c : Char) : List Char :=
  if c.toNat == 0x130 then ['i', Char.ofNat 0x307]
  else if c.toNat == 0x3A3 then [Char.ofNat 0x3C3]
  else [lowerSimple c]

/-- With both sigmas read as one letter, lowering is done one character at a time. -/
theorem map_foldSigma_lowerFrom (before cs : List Char) :
    (lowerFrom before cs).map foldSigma = (cs.flatMap lowerChar).map foldSigma := by
  induction cs generalizing before with
  | nil => rfl
  | cons c cs ih =>
    have hhere : (if c.toNat == 0x130 then ['i', Char.ofNat 0x307]
        else if c.toNat == 0x3A3 then
          [if sigmaIsFinal before cs then Char.ofNat 0x3C2 else Char.ofNat 0x3C3]
        else [lowerSimple c]).map foldSigma = (lowerChar c).map foldSigma := by
      unfold lowerChar
      split
      · rfl
      · split
        · split <;> rfl
        · rfl
    simp only [lowerFrom, List.map_append, List.flatMap_cons, ih, hhere]

/-- Folding keeps a text without the final sigma. -/
theorem map_foldSigma_of_not_mem {l : List Char} (h : Char.ofNat 0x3C2 ∉ l) :
    l.map foldSigma = l := by
  calc l.map foldSigma = l.map id := List.map_congr_left fun c hc => by
        have hc' : c ≠ Char.ofNat 0x3C2 := fun heq => h (heq ▸ hc)
        simp [foldSigma, hc']
    _ = l := List.map_id l

/-- A text without sigmas occurs where it occurs once both sigmas read as one letter. -/
theorem infix_of_infix_map_foldSigma {p l : List Char} (hσ : Char.ofNat 0x3C3 ∉ p)
    (h : p <:+: l.map foldSigma) : p <:+: l := by
  obtain ⟨s, u, hsu⟩ := h
  obtain ⟨l₁, l₃, rfl, h₁, -⟩ := List.map_eq_append_iff.mp hsu.symm
  obtain ⟨l₀, l₂, rfl, -, h₂⟩ := List.map_eq_append_iff.mp h₁
  have hς : Char.ofNat 0x3C2 ∉ l₂ := by
    intro hm
    have hmem := List.mem_map_of_mem (f := foldSigma) hm
    rw [h₂] at hmem
    exact hσ (by simpa [foldSigma] using hmem)
  rw [map_foldSigma_of_not_mem hς] at h₂
  subst h₂
  exact ⟨l₀, l₃, rfl⟩

/-- Lower cases, taken one character at a time, keep infixes. -/
theorem infix_flatMap_lowerChar {t' t : List Char} (h : t' <:+: t) :
    t'.flatMap lowerChar <:+: t.flatMap lowerChar := by
  obtain ⟨s, u, rfl⟩ := h
  exact ⟨s.flatMap lowerChar, u.flatMap lowerChar, by simp only [List.flatMap_append]⟩

/-- A text without sigmas that occurs in the lower case of an infix occurs in the lower case of
the whole. -/
theorem occursIn_toLowerChars_mono {p t' t : List Char} (hσ : Char.ofNat 0x3C3 ∉ p)
    (hς : Char.ofNat 0x3C2 ∉ p) (h : t' <:+: t) (hp : occursIn p (toLowerChars t') = true) :
    occursIn p (toLowerChars t) = true := by
  rw [occursIn_iff] at hp ⊢
  apply infix_of_infix_map_foldSigma hσ
  have hmap := hp.map foldSigma
  rw [map_foldSigma_of_not_mem hς, toLowerChars, map_foldSigma_lowerFrom] at hmap
  rw [toLowerChars, map_foldSigma_lowerFrom]
  exact hmap.trans ((infix_flatMap_lowerChar h).map foldSigma)

end Text

namespace Tokens

open Decimal Exact

/-! ## Code indicators -/

/-- The code indicators are written in ASCII. -/
theorem codeIndicators_ascii : ∀ ind ∈ codeIndicators, ∀ c ∈ ind.toList, c.toNat < 128 := by
  simp [codeIndicators]

/-- Every code indicator present in an infix is present in the text. -/
theorem indicatorCount_mono {t' t : List Char} (h : t' <:+: t) :
    indicatorCount t' ≤ indicatorCount t := by
  unfold indicatorCount
  dsimp only
  rw [← List.countP_eq_length_filter, ← List.countP_eq_length_filter]
  apply List.countP_mono_left
  intro ind hind hocc
  have hascii := codeIndicators_ascii ind hind
  have hσ : Char.ofNat 0x3C3 ∉ ind.toList := fun hm => absurd (hascii _ hm) (by decide)
  have hς : Char.ofNat 0x3C2 ∉ ind.toList := fun hm => absurd (hascii _ hm) (by decide)
  exact Text.occursIn_toLowerChars_mono hσ hς h hocc

/-- A text with a code-like infix is code-like. -/
theorem isCodeLike_mono {t' t : List Char} (h : t' <:+: t) (hc : isCodeLike t' = true) :
    isCodeLike t = true := by
  unfold isCodeLike at hc ⊢
  have := indicatorCount_mono h
  simp only [decide_eq_true_eq] at hc ⊢
  omega

/-! ## The quotient and its factors -/

/-- The quotient of a shorter text is no larger, and both are held by binary64. -/
theorem divideLength_below {d : Quantity} {len' len : Nat} {b : Exact} (hlen : len' ≤ len)
    (h : divideLength d len = .ok b) :
    ∃ b', divideLength d len' = .ok b' ∧ Below b' b ∧ b.Representable ∧ b'.Representable := by
  cases d with
  | whole n =>
    simp only [divideLength] at h ⊢
    by_cases hn : n = 0
    · rw [if_pos hn] at h
      cases h
    · rw [if_neg hn] at h ⊢
      obtain rfl := Except.ok.inj h
      have hpos : 0 < n.natAbs := Int.natAbs_pos.mpr hn
      exact ⟨_, rfl, below_ofRatio _ _ hpos hpos (Nat.mul_le_mul_right _ hlen),
        representable_ofRatio _ hpos, representable_ofRatio _ hpos⟩
  | real x =>
    simp only [divideLength] at h ⊢
    by_cases hx : (ofFloat x).isZero = true
    · rw [if_pos hx] at h
      cases h
    · rw [if_neg hx] at h ⊢
      obtain rfl := Except.ok.inj h
      have hlen' : Below (ofNat len') (ofNat len) :=
        below_ofRatio _ _ Nat.one_pos Nat.one_pos (Nat.mul_le_mul_right 1 hlen)
      exact ⟨_, rfl, hlen'.div _, representable_div _ _, representable_div _ _⟩

/-- The factor of code-like text is at least one. -/
theorem codeMultiplier_ge_one : ∃ l, codeMultiplier = .finite false l ∧ unitScale ≤ l := by
  refine ⟨roundUnits 13 10, ?_, by decide +kernel⟩
  unfold codeMultiplier Exact.ofRatio
  rw [if_pos (by decide +kernel)]

/-- The factor of text with much white space is at most one. -/
theorem whitespaceMultiplier_le_one :
    ∃ l, whitespaceMultiplier = .finite false l ∧ l ≤ unitScale := by
  refine ⟨roundUnits 9 10, ?_, by decide +kernel⟩
  unfold whitespaceMultiplier Exact.ofRatio
  rw [if_pos (by decide +kernel)]

/-- The factor of the model is at most one. -/
theorem modelMultiplier_le_one : ∃ l, modelMultiplier = .finite false l ∧ l ≤ unitScale := by
  refine ⟨roundUnits 1 1, ?_, by decide +kernel⟩
  unfold modelMultiplier Exact.ofRatio
  rw [if_pos (by decide +kernel)]

/-- The code-scaled quotient of an infix stays below that of the whole text. -/
theorem coded_below {c' c : Bool} (hc : c' = true → c = true) {b' b : Exact} (hb : Below b' b)
    (hrep : b.Representable) :
    Below (if c' then b'.mul codeMultiplier else b') (if c then b.mul codeMultiplier else b) := by
  obtain ⟨l, hl, hge⟩ := codeMultiplier_ge_one
  cases c' <;> cases c <;> simp only [Bool.false_eq_true, if_false, if_true]
  · exact hb
  · rw [hl]
    exact hb.trans (below_mul_self hrep hge)
  · exact absurd (hc rfl) Bool.false_ne_true
  · exact hb.mul _

/-- Scaling for white space and for the model leaves a held value no larger. -/
theorem finish_below {y : Exact} (hy : y.Representable) (s : Bool) :
    Below ((if s then y.mul whitespaceMultiplier else y).mul modelMultiplier) y := by
  obtain ⟨lw, hw, hlw⟩ := whitespaceMultiplier_le_one
  obtain ⟨lm, hm, hlm⟩ := modelMultiplier_le_one
  have hspaced : Below (if s then y.mul whitespaceMultiplier else y) y ∧
      (if s then y.mul whitespaceMultiplier else y).Representable := by
    cases s <;> simp only [Bool.false_eq_true, if_false, if_true]
    · exact ⟨Below.refl y, hy⟩
    · rw [hw]
      exact ⟨mul_below_self hy hlw, representable_mul _ _⟩
  rw [hm]
  exact (mul_below_self hspaced.2 hlm).trans hspaced.1

/-- A finite scaled quotient was finite before the white space factor. -/
theorem exists_finite_of_finish {y : Exact} {s a : Bool} {k : Nat}
    (h : (if s then y.mul whitespaceMultiplier else y).mul modelMultiplier = .finite a k) :
    ∃ a' k', y = .finite a' k' := by
  obtain ⟨a₁, k₁, -, -, hspaced, -, -⟩ := mul_eq_finite h
  cases s <;> simp only [Bool.false_eq_true, if_false, if_true] at hspaced
  · exact ⟨a₁, k₁, hspaced⟩
  · obtain ⟨a₂, k₂, -, -, hy, -, -⟩ := mul_eq_finite hspaced
    exact ⟨a₂, k₂, hy⟩

/-- A count is read only from a finite value. -/
theorem countOf_eq_ok {x : Exact} {n : Int} (h : countOf x = .ok n) : ∃ a k, x = .finite a k := by
  cases x with
  | nan => cases h
  | inf => cases h
  | finite a k => exact ⟨a, k, rfl⟩

/-- Where the estimate of a text has a value, so has the estimate of every infix of it. -/
theorem estimate_ok_mono (est : Estimator) {t' t : List Char} (h : t' <:+: t) {n : Int}
    (hn : est.estimate t = .ok n) : ∃ n', est.estimate t' = .ok n' := by
  by_cases ht' : t' = []
  · subst ht'
    exact ⟨0, rfl⟩
  have ht : t ≠ [] := fun ht => ht' (List.eq_nil_of_infix_nil (ht ▸ h))
  simp only [Estimator.estimate, List.isEmpty_eq_false_iff.mpr ht,
    List.isEmpty_eq_false_iff.mpr ht', Bool.false_eq_true, if_false] at hn ⊢
  cases hd : divideLength est.density t.length with
  | error e =>
    rw [hd] at hn
    cases hn
  | ok b =>
    rw [hd] at hn
    obtain ⟨b', hd', hb, hrep, hrep'⟩ := divideLength_below h.length_le hd
    rw [hd']
    obtain ⟨a, k, hx⟩ := countOf_eq_ok hn
    unfold scaleQuotient at hx ⊢
    dsimp only at hx ⊢
    obtain ⟨a₁, k₁, hcoded⟩ := exists_finite_of_finish hx
    have hcoded' : (if isCodeLike t' then b'.mul codeMultiplier else b').Representable := by
      split
      · exact representable_mul _ _
      · exact hrep'
    have hbelow := (finish_below hcoded' (decide (whitespaceRatio t' > 0.3))).trans
      (coded_below (isCodeLike_mono h) hb hrep)
    obtain ⟨a₂, k₂, hfin, -⟩ := hbelow a₁ k₁ hcoded
    exact ⟨_, congrArg countOf hfin⟩

end Tokens

end ReviewPrep
