/-!
# Binary64 values as exact numbers

A finite binary64 value is `± m · 2^q` for natural numbers `m`, `q`. This module decodes values
into that form, cuts them to the integer toward zero, and rounds the quotient of two natural
numbers to the nearest value, ties to the even significand, as binary64 division does.
-/

namespace ReviewPrep.Decimal

/-- A finite non-negative binary64 value, `m · 2^q`. -/
structure Binary where
  /-- The significand. -/
  m : Nat
  /-- The binary exponent. -/
  q : Int
  /-- The gap to the value below is half the gap to the value above. -/
  narrowBelow : Bool

/-- The magnitude of a finite value, decoded from its bits. -/
def Binary.ofBits (b : UInt64) : Binary :=
  let e := ((b >>> 52) &&& 0x7FF).toNat
  let f := (b &&& 0xFFFFFFFFFFFFF).toNat
  if e == 0 then ⟨f, -1074, false⟩
  else ⟨Nat.pow 2 52 + f, (e : Int) - 1075, f == 0 && e > 1⟩

/-- The integer part of a finite value, cut toward zero; `none` for a NaN or an infinity. -/
def truncate? (x : Float) : Option Int :=
  if x.isNaN || x.isInf then none
  else
    let bits := x.toBits
    let b := Binary.ofBits bits
    let mag : Nat := if 0 ≤ b.q then b.m * Nat.pow 2 b.q.toNat else b.m / Nat.pow 2 (-b.q).toNat
    some (if bits >>> 63 == 1 then -(mag : Int) else mag)

/-- `num / den` rounded to the nearest integer, ties to the even one. -/
def roundHalfEven (num den : Nat) : Nat :=
  let q := num / den
  let r := num % den
  if 2 * r > den ∨ (2 * r = den ∧ q % 2 = 1) then q + 1 else q

/-- The binary64 value `r · 2^-s`, for `r` at most `2^53` and at least `2^52` unless `s` is
`1074`, built from its bits: an infinity where it is too large. -/
def ofUnits (r : Nat) (s : Int) : Float :=
  -- a carry into the 54th bit moves to the next binade
  let (r, s) := if r = Nat.pow 2 53 then (Nat.pow 2 52, s - 1) else (r, s)
  if r < Nat.pow 2 52 then Float.ofBits r.toUInt64
  else if 2047 ≤ 1075 - s then Float.ofBits 0x7FF0000000000000
  else Float.ofBits (((1075 - s).toNat.toUInt64 <<< 52) ||| (r - Nat.pow 2 52).toUInt64)

/-- The binary64 value nearest to `num / den`, ties to the even significand. The quotient is taken
with 53 significant bits, or to the unit `2^-1074` where the values thin out, so that it is the
significand of the value. -/
def ofRatio (num den : Nat) : Float :=
  if num = 0 ∨ den = 0 then 0
  else
    -- `s` puts the quotient `num · 2^s / den` in `[2^52, 2^53)`, or caps it at the finest unit
    let t : Int := (num.log2 : Int) - den.log2
    let scaled (s : Int) : Nat × Nat :=
      if 0 ≤ s then (num * Nat.pow 2 s.toNat, den) else (num, den * Nat.pow 2 (-s).toNat)
    let s0 := 53 - t
    let s1 := if (scaled s0).1 / (scaled s0).2 ≥ Nat.pow 2 53 then s0 - 1 else s0
    let s := min s1 1074
    let (n, d) := scaled s
    ofUnits (roundHalfEven n d) s

end ReviewPrep.Decimal
