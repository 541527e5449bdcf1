import ReviewPrep.Decimal.Binary

/-!
# Binary64 arithmetic on exact numbers

Every finite binary64 value is a whole multiple of the smallest positive one, `2^-1074`; here a
value is its sign and that multiple, its *units*. A rational is rounded as IEEE 754 rounds to
nearest: to the nearest multiple of its quantum, ties to the even multiple, where the quantum is
one unit below `2^53` units and doubles with each binade above. A result of `2^2098` units
(`2^1024`) or more is an infinity. Quotients and products are rounded once, as binary64 division
and multiplication round them, so a computation here gives the binary64 result exactly, with no
floating-point operation involved.
-/

namespace ReviewPrep.Decimal

/-- A binary64 value as the number it stands for. -/
inductive Exact where
  /-- Not a number. -/
  | nan
  /-- An infinity, negative or positive. -/
  | inf (neg : Bool)
  /-- `± units · 2^-1074`. -/
  | finite (neg : Bool) (units : Nat)
  deriving DecidableEq, Repr, Inhabited

namespace Exact

/-- The units in one: `2^1074`. -/
def unitScale : Nat := Nat.pow 2 1074

/-- The units of `2^1024`, the least magnitude that rounds to an infinity. -/
def overflowUnits : Nat := Nat.pow 2 2098

/-- The exponent of the quantum near `n` units: `0` below `2^53` units, one more for each binade
above. -/
def quantumExp (n : Nat) : Nat := n.log2 - 52

/-- The units of the value nearest `num / den`, ties to the even multiple of the quantum, with
no bound on the exponent. -/
def roundUnits (num den : Nat) : Nat :=
  let a := num * unitScale
  let j := quantumExp (a / den)
  roundHalfEven a (den * Nat.pow 2 j) * Nat.pow 2 j

/-- The value nearest `num / den` with a sign: an infinity when it rounds to `2^1024` or more. -/
def ofRatio (neg : Bool) (num den : Nat) : Exact :=
  if roundUnits num den < overflowUnits then .finite neg (roundUnits num den) else .inf neg

/-- The value nearest a natural number. -/
def ofNat (n : Nat) : Exact := ofRatio false n 1

/-- The value of a binary64 bit pattern: sign, biased exponent and fraction. -/
def ofBits (b : UInt64) : Exact :=
  let neg := b >>> 63 == 1
  let e := ((b >>> 52) &&& 0x7FF).toNat
  let f := (b &&& 0xFFFFFFFFFFFFF).toNat
  if e == 0x7FF then (if f == 0 then .inf neg else .nan)
  else .finite neg (if e == 0 then f else (Nat.pow 2 52 + f) * Nat.pow 2 (e - 1))

/-- The value of a binary64 number. -/
def ofFloat (x : Float) : Exact := ofBits x.toBits

/-- Whether the value is a zero of either sign. -/
def isZero : Exact → Bool
  | .finite _ 0 => true
  | _ => false

/-- The product, rounded once. -/
def mul : Exact → Exact → Exact
  | .nan, _ => .nan
  | _, .nan => .nan
  | .inf s, .inf t => .inf (s != t)
  | .inf s, .finite t k => if k == 0 then .nan else .inf (s != t)
  | .finite s k, .inf t => if k == 0 then .nan else .inf (s != t)
  | .finite s k, .finite t l => ofRatio (s != t) (k * l) (unitScale * unitScale)

/-- The quotient, rounded once; a non-zero value over zero is an infinity. -/
def div : Exact → Exact → Exact
  | .nan, _ => .nan
  | _, .nan => .nan
  | .inf _, .inf _ => .nan
  | .inf s, .finite t _ => .inf (s != t)
  | .finite s _, .inf t => .finite (s != t) 0
  | .finite s k, .finite t l =>
    if l == 0 then (if k == 0 then .nan else .inf (s != t)) else ofRatio (s != t) k l

/-- The integer part of a finite value, cut toward zero. -/
def truncate (neg : Bool) (units : Nat) : Int :=
  if neg then -((units / unitScale : Nat) : Int) else ((units / unitScale : Nat) : Int)

end Exact

end ReviewPrep.Decimal
