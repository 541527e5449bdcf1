import ReviewPrep.Decimal.Binary

/-!
# Quantities

A quantity is a number as a request gives it: a whole number or a binary64 value, which may be an
infinity or NaN. Quantities of the two kinds are compared exactly, by the numbers they stand for,
so `2 < 2.5 < 3`; NaN is unordered with every quantity, itself included. The sum or difference
of two whole numbers is whole. Any other is taken in binary64, after the whole operand is rounded
to the nearest binary64 value; that rounding fails for a whole number beyond the largest finite
value.

The comparisons with whole counts are what limits use: a count exceeds a bound (`exceededBy`)
or fits within it (`fits`), and at NaN it does neither.
-/

namespace ReviewPrep

/-- A number as a request gives it: a whole number or a binary64 value. -/
inductive Quantity where
  | whole (n : Int)
  | real (x : Float)
  deriving Inhabited, Repr

/-- Why arithmetic on quantities has no value. -/
inductive QuantityError where
  /-- A whole number too large in magnitude to be rounded to a finite binary64 value. -/
  | tooLargeForReal
  deriving DecidableEq, Repr

/-- The message of an arithmetic failure. -/
def QuantityError.message : QuantityError → String
  | .tooLargeForReal => "int too large to convert to float"

namespace Quantity

/-- The order of two whole numbers. -/
def orderOf (a b : Int) : Ordering := if a < b then .lt else if a = b then .eq else .gt

/-- The exact order of a binary64 value and a whole number; `none` when the value is NaN. A
finite value is `± m · 2^q`, compared after both sides are scaled to whole numbers. -/
def compareReal (x : Float) (n : Int) : Option Ordering :=
  if x.isNaN then none
  else if x.isInf then some (if 0 < x then .gt else .lt)
  else
    let bits := x.toBits
    let b := Decimal.Binary.ofBits bits
    let m : Int := if bits >>> 63 == 1 then -(b.m : Int) else b.m
    if 0 ≤ b.q then some (orderOf (m * Int.pow 2 b.q.toNat) n)
    else some (orderOf m (n * Int.pow 2 (-b.q).toNat))

/-- The exact order of two quantities; `none` when either is NaN. -/
def compare? : Quantity → Quantity → Option Ordering
  | whole m, whole n => some (orderOf m n)
  | real x, whole n => compareReal x n
  | whole m, real y => (compareReal y m).map Ordering.swap
  | real x, real y =>
    if x < y then some .lt else if x == y then some .eq else if y < x then some .gt else none

/-- Whether `a` is less than `b`. -/
def lt (a b : Quantity) : Bool := a.compare? b == some .lt

/-- Whether `a` is at most `b`. -/
def le (a b : Quantity) : Bool :=
  match a.compare? b with
  | some .lt | some .eq => true
  | _ => false

/-- Whether a count is greater than the bound. -/
def exceededBy (q : Quantity) (n : Int) : Bool := q.lt (whole n)

/-- Whether a count is at most the bound. -/
def fits (q : Quantity) (n : Int) : Bool := (whole n).le q

/-- Whether the quantity is at most zero; NaN is not. -/
def atMostZero (q : Quantity) : Bool := q.le (whole 0)

/-- A quantity, or `fallback` when it is at most zero. -/
def positiveOr (q : Quantity) (fallback : Int) : Quantity :=
  if q.atMostZero then whole fallback else q

/-- The binary64 value nearest a whole number, ties to the even significand; an error when that
is beyond the largest finite value. -/
def wholeToReal (n : Int) : Except QuantityError Float :=
  let x := Decimal.ofRatio n.natAbs 1
  if x.isInf then .error .tooLargeForReal else .ok (if n < 0 then -x else x)

/-- The quantity as a binary64 value. -/
def toReal : Quantity → Except QuantityError Float
  | whole n => wholeToReal n
  | real x => .ok x

/-- The sum: whole for two whole numbers, else in binary64. -/
def add : Quantity → Quantity → Except QuantityError Quantity
  | whole m, whole n => .ok (whole (m + n))
  | a, b => do return real ((← a.toReal) + (← b.toReal))

/-- The difference: whole for two whole numbers, else in binary64. -/
def sub : Quantity → Quantity → Except QuantityError Quantity
  | whole m, whole n => .ok (whole (m - n))
  | a, b => do return real ((← a.toReal) - (← b.toReal))

/-- For a whole bound, `fits` is the negation of `exceededBy`. -/
theorem fits_whole (m n : Int) : (whole m).fits n = !(whole m).exceededBy n := by
  simp only [fits, exceededBy, le, lt, compare?, orderOf]
  rcases Int.lt_trichotomy n m with h | h | h
  · have h' : ¬m < n := Int.not_lt.mpr (Int.le_of_lt h)
    have h'' : m ≠ n := fun e => by omega
    rw [if_pos h, if_neg h', if_neg h'']
    rfl
  · subst h
    rw [if_neg (Int.lt_irrefl n), if_pos rfl]
    rfl
  · have h' : ¬n < m := Int.not_lt.mpr (Int.le_of_lt h)
    have h'' : n ≠ m := fun e => by omega
    rw [if_neg h', if_neg h'', if_pos h]
    rfl

/-- Two whole numbers add as whole numbers. -/
theorem add_whole (m n : Int) : (whole m).add (whole n) = .ok (whole (m + n)) := rfl

/-- Two whole numbers subtract as whole numbers. -/
theorem sub_whole (m n : Int) : (whole m).sub (whole n) = .ok (whole (m - n)) := rfl

/-- Two whole numbers compare as integers. -/
theorem le_whole (m n : Int) : (whole m).le (whole n) = decide (m ≤ n) := by
  simp only [le, compare?, orderOf]
  by_cases hlt : m < n
  · rw [if_pos hlt, decide_eq_true (Int.le_of_lt hlt)]
  · by_cases heq : m = n
    · rw [if_neg hlt, if_pos heq, decide_eq_true (Int.le_of_eq heq)]
    · rw [if_neg hlt, if_neg heq, decide_eq_false (by omega)]

/-- A whole number is kept when positive and replaced by the fallback otherwise. -/
theorem positiveOr_whole (m fallback : Int) :
    (whole m).positiveOr fallback = whole (if 0 < m then m else fallback) := by
  unfold positiveOr atMostZero
  rw [le_whole]
  by_cases h : 0 < m
  · rw [if_pos h, decide_eq_false (by omega)]
    rfl
  · rw [if_neg h, decide_eq_true (by omega)]
    rfl

end Quantity

end ReviewPrep
