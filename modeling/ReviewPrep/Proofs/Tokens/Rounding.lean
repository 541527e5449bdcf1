import ReviewPrep.Decimal.Exact
import Mathlib.Tactic.Linarith
import Mathlib.Tactic.Ring

/-!
# Rounding to binary64 is monotone

Rounding to nearest, ties to even, never reverses an order (`roundUnits_mono`): within a binade
rounding a quotient to the nearest integer is monotone, and across binades a rational rounds
no further than the power of two between them. On values, `Below x y` says that `x` is finite
with no more units wherever `y` is; products and quotients keep it.
-/

namespace ReviewPrep.Decimal

/-! ## Rounding a quotient to the nearest integer -/

/-- Floor division is monotone in the quotient, compared by cross-multiplying. -/
theorem div_le_div_of_mul_le {a b a' b' : Nat} (hb : 0 < b) (hb' : 0 < b')
    (h : a * b' ≤ a' * b) : a / b ≤ a' / b' := by
  rw [Nat.le_div_iff_mul_le hb']
  have h₁ : a / b * b ≤ a := Nat.div_mul_le_self a b
  have h₂ : a / b * b' * b ≤ a' * b := by
    calc a / b * b' * b = a / b * b * b' := by ring
      _ ≤ a * b' := Nat.mul_le_mul_right b' h₁
      _ ≤ a' * b := h
  exact Nat.le_of_mul_le_mul_right h₂ hb

/-- The nearest integer is the quotient rounded down, or one more. -/
theorem div_le_roundHalfEven (a b : Nat) :
    a / b ≤ roundHalfEven a b ∧ roundHalfEven a b ≤ a / b + 1 := by
  unfold roundHalfEven
  dsimp only
  split <;> omega

/-- A quotient below `n` rounds to at most `n`. -/
theorem roundHalfEven_le_of_lt_mul {a b n : Nat} (h : a < n * b) : roundHalfEven a b ≤ n := by
  have hq : a / b < n := Nat.div_lt_of_lt_mul (by rwa [Nat.mul_comm] at h)
  have := (div_le_roundHalfEven a b).2
  omega

/-- A quotient of at least `n` rounds to at least `n`. -/
theorem le_roundHalfEven_of_mul_le {a b n : Nat} (hb : 0 < b) (h : n * b ≤ a) :
    n ≤ roundHalfEven a b :=
  ((Nat.le_div_iff_mul_le hb).mpr h).trans (div_le_roundHalfEven a b).1

/-- A whole quotient rounds to itself. -/
theorem roundHalfEven_mul {n b : Nat} (hb : 0 < b) : roundHalfEven (n * b) b = n := by
  unfold roundHalfEven
  dsimp only
  rw [Nat.mul_div_cancel n hb, Nat.mul_mod_left]
  split
  · omega
  · rfl

/-- Rounding a quotient to the nearest integer, ties to even, is monotone. -/
theorem roundHalfEven_mono {a b a' b' : Nat} (hb : 0 < b) (hb' : 0 < b')
    (h : a * b' ≤ a' * b) : roundHalfEven a b ≤ roundHalfEven a' b' := by
  have hq := div_le_div_of_mul_le hb hb' h
  rcases Nat.lt_or_eq_of_le hq with hlt | heq
  · have h₁ := (div_le_roundHalfEven a b).2
    have h₂ := (div_le_roundHalfEven a' b').1
    omega
  · have ha := Nat.div_add_mod a b
    have ha' := Nat.div_add_mod a' b'
    have hr : a % b * b' ≤ a' % b' * b := by
      have hq' : b * (a / b) * b' = b' * (a' / b') * b := by rw [heq]; ring
      nlinarith
    unfold roundHalfEven
    dsimp only
    rw [heq]
    split
    · next hup =>
      have hup' : 2 * (a' % b') > b' ∨ 2 * (a' % b') = b' ∧ a' / b' % 2 = 1 := by
        rcases hup with hgt | ⟨htie, hodd⟩
        · left
          nlinarith
        · by_cases hgt' : 2 * (a' % b') > b'
          · exact Or.inl hgt'
          · refine Or.inr ⟨?_, hodd⟩
            nlinarith
      rw [if_pos hup']
    · split <;> omega

/-! ## Rounding a rational to binary64 -/

namespace Exact

theorem unitScale_pos : 0 < unitScale := by decide +kernel

/-- A number lies below `2^53` quanta of its own binade. -/
theorem lt_pow_quantumExp (n : Nat) : n < Nat.pow 2 (53 + quantumExp n) :=
  calc n < Nat.pow 2 (n.log2 + 1) := Nat.lt_log2_self
    _ ≤ Nat.pow 2 (53 + quantumExp n) :=
      Nat.pow_le_pow_right (by decide) (by unfold quantumExp; omega)

/-- Above the lowest binade, a number is at least `2^52` quanta of its binade. -/
theorem pow_quantumExp_le {n : Nat} (h : 0 < quantumExp n) :
    Nat.pow 2 (52 + quantumExp n) ≤ n := by
  have hn : n ≠ 0 := by
    rintro rfl
    simp [quantumExp] at h
  have hlog : 52 + quantumExp n = n.log2 := by
    unfold quantumExp at h ⊢
    omega
  rw [hlog]
  exact Nat.log2_self_le hn

/-- The quantum grows with the number. -/
theorem quantumExp_mono {n n' : Nat} (h : n ≤ n') : quantumExp n ≤ quantumExp n' := by
  unfold quantumExp
  rcases Nat.eq_zero_or_pos n with rfl | hn
  · simp
  · have : n.log2 ≤ n'.log2 :=
      (Nat.le_log2 (by omega)).mpr ((Nat.log2_self_le (by omega)).trans h)
    omega

section
variable {num den : Nat}

/-- A rational rounds to at most `2^53` quanta of its binade. -/
theorem roundUnits_le_pow (hden : 0 < den) :
    roundUnits num den ≤ Nat.pow 2 (53 + quantumExp (num * unitScale / den)) := by
  unfold roundUnits
  dsimp only
  generalize hj : quantumExp (num * unitScale / den) = j
  have hlt : num * unitScale < Nat.pow 2 53 * (den * Nat.pow 2 j) := by
    have h := (Nat.div_lt_iff_lt_mul hden).mp (lt_pow_quantumExp (num * unitScale / den))
    rw [hj] at h
    simp only [Nat.pow_eq, Nat.pow_add] at h ⊢
    calc num * unitScale < 2 ^ 53 * 2 ^ j * den := h
      _ = 2 ^ 53 * (den * 2 ^ j) := by ring
  have hr := roundHalfEven_le_of_lt_mul hlt
  simp only [Nat.pow_eq, Nat.pow_add] at hr ⊢
  exact Nat.mul_le_mul_right _ hr

/-- Above the lowest binade, a rational rounds to at least `2^52` quanta of its binade. -/
theorem pow_le_roundUnits (hden : 0 < den) (hj : 0 < quantumExp (num * unitScale / den)) :
    Nat.pow 2 (52 + quantumExp (num * unitScale / den)) ≤ roundUnits num den := by
  have hN := pow_quantumExp_le hj
  unfold roundUnits
  dsimp only
  generalize quantumExp (num * unitScale / den) = j at hN ⊢
  have hle : Nat.pow 2 52 * (den * Nat.pow 2 j) ≤ num * unitScale := by
    have h := (Nat.le_div_iff_mul_le hden).mp hN
    simp only [Nat.pow_eq, Nat.pow_add] at h ⊢
    calc 2 ^ 52 * (den * 2 ^ j) = 2 ^ 52 * 2 ^ j * den := by ring
      _ ≤ num * unitScale := h
  have hr := le_roundHalfEven_of_mul_le (Nat.mul_pos hden (Nat.two_pow_pos j)) hle
  simp only [Nat.pow_eq, Nat.pow_add] at hr ⊢
  exact Nat.mul_le_mul_right _ hr

/-- Rounding to binary64 is monotone: a larger rational rounds to at least as many units. -/
theorem roundUnits_mono {num' den' : Nat} (hden : 0 < den) (hden' : 0 < den')
    (h : num * den' ≤ num' * den) : roundUnits num den ≤ roundUnits num' den' := by
  have ha : num * unitScale * den' ≤ num' * unitScale * den := by
    calc num * unitScale * den' = num * den' * unitScale := by ring
      _ ≤ num' * den * unitScale := Nat.mul_le_mul_right _ h
      _ = num' * unitScale * den := by ring
  have hj := quantumExp_mono (div_le_div_of_mul_le hden hden' ha)
  rcases Nat.lt_or_eq_of_le hj with hlt | heq
  · calc roundUnits num den ≤ Nat.pow 2 (53 + quantumExp (num * unitScale / den)) :=
          roundUnits_le_pow hden
      _ ≤ Nat.pow 2 (52 + quantumExp (num' * unitScale / den')) :=
          Nat.pow_le_pow_right (by decide) (by omega)
      _ ≤ roundUnits num' den' := pow_le_roundUnits hden' (by omega)
  · unfold roundUnits
    dsimp only
    rw [heq]
    generalize quantumExp (num' * unitScale / den') = j
    apply Nat.mul_le_mul_right
    apply roundHalfEven_mono (Nat.mul_pos hden (Nat.two_pow_pos j))
      (Nat.mul_pos hden' (Nat.two_pow_pos j))
    calc num * unitScale * (den' * Nat.pow 2 j) = num * unitScale * den' * Nat.pow 2 j := by ring
      _ ≤ num' * unitScale * den * Nat.pow 2 j := Nat.mul_le_mul_right _ ha
      _ = num' * unitScale * (den * Nat.pow 2 j) := by ring

end

/-- A whole number of quanta of its own binade is its own rounding. -/
theorem roundUnits_of_dvd {k : Nat} (h : Nat.pow 2 (quantumExp k) ∣ k) :
    roundUnits k unitScale = k := by
  unfold roundUnits
  dsimp only
  rw [Nat.mul_div_cancel k unitScale_pos]
  generalize quantumExp k = j at h ⊢
  obtain ⟨m, rfl⟩ := h
  have hk : Nat.pow 2 j * m * unitScale = m * (unitScale * Nat.pow 2 j) := by ring
  have hb : 0 < unitScale * Nat.pow 2 j := Nat.mul_pos unitScale_pos (Nat.two_pow_pos j)
  rw [hk, roundHalfEven_mul hb]
  ring

/-- A rounded value is a whole number of quanta of its own binade. -/
theorem pow_quantumExp_dvd_roundUnits {num den : Nat} (hden : 0 < den) :
    Nat.pow 2 (quantumExp (roundUnits num den)) ∣ roundUnits num den := by
  have hdvd : Nat.pow 2 (quantumExp (num * unitScale / den)) ∣ roundUnits num den :=
    Dvd.intro_left _ rfl
  have hle : roundUnits num den ≤ Nat.pow 2 (53 + quantumExp (num * unitScale / den)) :=
    roundUnits_le_pow hden
  generalize roundUnits num den = r at hdvd hle ⊢
  generalize quantumExp (num * unitScale / den) = j at hdvd hle ⊢
  rcases Nat.lt_or_eq_of_le hle with hlt | rfl
  · have hq : quantumExp r ≤ j := by
      rcases Nat.eq_zero_or_pos r with rfl | hr
      · simp [quantumExp]
      · have := (Nat.log2_lt (Nat.pos_iff_ne_zero.mp hr)).mpr hlt
        unfold quantumExp
        omega
    exact (Nat.pow_dvd_pow 2 hq).trans hdvd
  · apply Nat.pow_dvd_pow 2
    simp only [quantumExp, Nat.pow_eq, Nat.log2_two_pow]
    omega

/-- A rounded value rounds to itself. -/
theorem roundUnits_roundUnits {num den : Nat} (hden : 0 < den) :
    roundUnits (roundUnits num den) unitScale = roundUnits num den :=
  roundUnits_of_dvd (pow_quantumExp_dvd_roundUnits hden)

/-! ## Magnitudes of binary64 values -/

/-- A value binary64 holds: a finite one is below `2^1024` and rounds to itself. -/
def Representable (x : Exact) : Prop :=
  ∀ s k, x = .finite s k → k < overflowUnits ∧ roundUnits k unitScale = k

/-- `x` is at most `y` in magnitude wherever `y` is finite: below a finite value lies only a
finite value with no more units, below a non-finite one anything. -/
def Below (x y : Exact) : Prop :=
  ∀ s k, y = .finite s k → ∃ s' k', x = .finite s' k' ∧ k' ≤ k

theorem Below.refl (x : Exact) : Below x x := fun s k h => ⟨s, k, h, Nat.le_refl k⟩

theorem Below.trans {x y z : Exact} (hxy : Below x y) (hyz : Below y z) : Below x z := by
  intro s k hz
  obtain ⟨t, l, hy, hl⟩ := hyz s k hz
  obtain ⟨u, m, hx, hm⟩ := hxy t l hy
  exact ⟨u, m, hx, Nat.le_trans hm hl⟩

theorem representable_ofRatio (neg : Bool) {num den : Nat} (hden : 0 < den) :
    Representable (ofRatio neg num den) := by
  intro s k h
  unfold ofRatio at h
  split at h
  · next hlt =>
    obtain ⟨-, rfl⟩ := Exact.finite.inj h
    exact ⟨hlt, roundUnits_roundUnits hden⟩
  · cases h

/-- A rational no larger than another rounds to a value below the other's. -/
theorem below_ofRatio (s s' : Bool) {num den num' den' : Nat} (hden : 0 < den) (hden' : 0 < den')
    (h : num' * den ≤ num * den') : Below (ofRatio s' num' den') (ofRatio s num den) := by
  have hmono := roundUnits_mono hden' hden h
  intro t k hx
  unfold ofRatio at hx
  split at hx
  · next hlt =>
    obtain ⟨-, rfl⟩ := Exact.finite.inj hx
    refine ⟨s', roundUnits num' den', ?_, hmono⟩
    unfold ofRatio
    rw [if_pos (Nat.lt_of_le_of_lt hmono hlt)]
  · cases hx

/-- A finite product is the rounded product of two finite values. -/
theorem mul_eq_finite {x y : Exact} {s : Bool} {k : Nat} (h : x.mul y = .finite s k) :
    ∃ a m b l, x = .finite a m ∧ y = .finite b l ∧
      ofRatio (a != b) (m * l) (unitScale * unitScale) = .finite s k := by
  cases x with
  | nan => cases h
  | inf a =>
    cases y with
    | nan => cases h
    | inf b => cases h
    | finite b l =>
      simp only [Exact.mul] at h
      split at h <;> cases h
  | finite a m =>
    cases y with
    | nan => cases h
    | inf b =>
      simp only [Exact.mul] at h
      split at h <;> cases h
    | finite b l => exact ⟨a, m, b, l, rfl, rfl, h⟩

/-- A finite quotient is a finite value over an infinity, which is zero, or the rounded quotient
of two finite values, the divisor not zero. -/
theorem div_eq_finite {x y : Exact} {s : Bool} {k : Nat} (h : x.div y = .finite s k) :
    ∃ a m, x = .finite a m ∧ ((∃ b, y = .inf b ∧ k = 0) ∨
      ∃ b l, y = .finite b l ∧ l ≠ 0 ∧ ofRatio (a != b) m l = .finite s k) := by
  cases x with
  | nan => cases h
  | inf a =>
    cases y with
    | nan => cases h
    | inf b => cases h
    | finite b l => cases h
  | finite a m =>
    refine ⟨a, m, rfl, ?_⟩
    cases y with
    | nan => cases h
    | inf b =>
      obtain ⟨-, rfl⟩ := Exact.finite.inj h
      exact Or.inl ⟨b, rfl, rfl⟩
    | finite b l =>
      simp only [Exact.div] at h
      by_cases hl : l = 0
      · subst hl
        simp only [BEq.rfl, if_true] at h
        split at h <;> cases h
      · rw [if_neg (by simpa using hl)] at h
        exact Or.inr ⟨b, l, rfl, hl, h⟩

theorem representable_zero (s : Bool) : Representable (.finite s 0) := by
  intro _ _ h
  obtain ⟨-, rfl⟩ := Exact.finite.inj h
  exact ⟨by decide +kernel, roundUnits_of_dvd (Nat.dvd_zero _)⟩

theorem representable_mul (x y : Exact) : Representable (x.mul y) := by
  intro s k h
  obtain ⟨a, m, b, l, -, -, hr⟩ := mul_eq_finite h
  exact representable_ofRatio _ (Nat.mul_pos unitScale_pos unitScale_pos) s k hr

theorem representable_div (x y : Exact) : Representable (x.div y) := by
  intro s k h
  obtain ⟨a, m, -, ⟨b, -, rfl⟩ | ⟨b, l, -, hl, hr⟩⟩ := div_eq_finite h
  · exact representable_zero s s 0 rfl
  · exact representable_ofRatio _ (Nat.pos_of_ne_zero hl) s k hr

/-- Multiplying by one value keeps a value below another. -/
theorem Below.mul {x' x : Exact} (h : Below x' x) (y : Exact) : Below (x'.mul y) (x.mul y) := by
  intro s k hxy
  obtain ⟨a, m, b, l, rfl, rfl, hr⟩ := mul_eq_finite hxy
  obtain ⟨a', m', rfl, hm⟩ := h a m rfl
  have hprod : m' * l * (unitScale * unitScale) ≤ m * l * (unitScale * unitScale) :=
    Nat.mul_le_mul_right _ (Nat.mul_le_mul_right l hm)
  have hpos := Nat.mul_pos unitScale_pos unitScale_pos
  exact below_ofRatio (a != b) (a' != b) hpos hpos hprod s k hr

/-- Dividing by one value keeps a value below another. -/
theorem Below.div {x' x : Exact} (h : Below x' x) (y : Exact) : Below (x'.div y) (x.div y) := by
  intro s k hxy
  obtain ⟨a, m, rfl, ⟨b, rfl, rfl⟩ | ⟨b, l, rfl, hl, hr⟩⟩ := div_eq_finite hxy
  · obtain ⟨a', m', rfl, -⟩ := h a m rfl
    exact ⟨a' != b, 0, rfl, Nat.le_refl 0⟩
  · obtain ⟨a', m', rfl, hm⟩ := h a m rfl
    have hl' : (l == 0) = false := by simpa using hl
    have hbelow := below_ofRatio (a != b) (a' != b) (Nat.pos_of_ne_zero hl)
      (Nat.pos_of_ne_zero hl) (Nat.mul_le_mul_right l hm) s k hr
    simpa only [Exact.div, hl', Bool.false_eq_true, if_false] using hbelow

/-- Multiplying a held value by at most one leaves it no larger. -/
theorem mul_below_self {x : Exact} (hx : Representable x) {t : Bool} {l : Nat}
    (hl : l ≤ unitScale) : Below (x.mul (.finite t l)) x := by
  intro s k hx'
  subst hx'
  obtain ⟨hk, hround⟩ := hx s k rfl
  have hle : roundUnits (k * l) (unitScale * unitScale) ≤ k := by
    have hcross : k * l * unitScale ≤ k * (unitScale * unitScale) := by
      rw [← Nat.mul_assoc]
      exact Nat.mul_le_mul_right _ (Nat.mul_le_mul_left k hl)
    calc roundUnits (k * l) (unitScale * unitScale) ≤ roundUnits k unitScale :=
          roundUnits_mono (Nat.mul_pos unitScale_pos unitScale_pos) unitScale_pos hcross
      _ = k := hround
  refine ⟨s != t, _, ?_, hle⟩
  simp only [Exact.mul, ofRatio]
  rw [if_pos (Nat.lt_of_le_of_lt hle hk)]

/-- Multiplying a held value by at least one leaves it no smaller. -/
theorem below_mul_self {x : Exact} (hx : Representable x) {t : Bool} {l : Nat}
    (hl : unitScale ≤ l) : Below x (x.mul (.finite t l)) := by
  intro s k h
  obtain ⟨a, m, b, l', rfl, hy, hr⟩ := mul_eq_finite h
  obtain ⟨-, hl'⟩ := Exact.finite.inj hy
  subst hl'
  obtain ⟨-, hround⟩ := hx a m rfl
  refine ⟨a, m, rfl, ?_⟩
  unfold ofRatio at hr
  split at hr
  · obtain ⟨-, rfl⟩ := Exact.finite.inj hr
    have hcross : m * (unitScale * unitScale) ≤ m * l * unitScale := by
      rw [← Nat.mul_assoc]
      exact Nat.mul_le_mul_right _ (Nat.mul_le_mul_left m hl)
    calc m = roundUnits m unitScale := hround.symm
      _ ≤ roundUnits (m * l) (unitScale * unitScale) :=
          roundUnits_mono unitScale_pos (Nat.mul_pos unitScale_pos unitScale_pos) hcross
  · cases hr

end Exact

end ReviewPrep.Decimal
