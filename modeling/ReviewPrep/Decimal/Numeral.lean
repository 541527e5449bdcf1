import ReviewPrep.Decimal.Binary

/-!
# Reading decimal numerals

A numeral `-ddd.ddde±dd` stands for `± M · 10^E`, where `M` is its digits without the point and
`E` its exponent less the number of digits after the point. Its binary64 value is the nearest
one, ties to the even significand: an infinity beyond the largest finite value, zero below half
the least positive one, with the numeral's sign either way. An exponent far outside the range
of binary64 decides the value without the power being computed.
-/

namespace ReviewPrep.Decimal

/-- The decimal digits at the front of a text, and the rest. -/
def spanDigits (cs : List Char) : List Char × List Char :=
  (cs.takeWhile Char.isDigit, cs.dropWhile Char.isDigit)

/-- The number that decimal digits stand for. -/
def digitsValue (ds : List Char) : Nat :=
  ds.foldl (fun n c => 10 * n + (c.toNat - '0'.toNat)) 0

/-- The binary64 value nearest `m · 10^e`. A value of `s` digits before the point lies in
`[10^(s-1), 10^s)`: at `s > 310` it is beyond `1.8 · 10^308`, at `s < -330` below `2.4 · 10^-324`. -/
def ofDecimal (m : Nat) (e : Int) : Float :=
  if m = 0 then 0
  else
    let size : Int := ((Nat.toDigits 10 m).length : Int) + e
    if 310 < size then 1 / 0
    else if size < -330 then 0
    else if 0 ≤ e then ofRatio (m * Nat.pow 10 e.toNat) 1
    else ofRatio m (Nat.pow 10 (-e).toNat)

/-- The exponent of a numeral after its `e`: an optional sign and at least one digit, with the
rest of the text. -/
def readExponent? (cs : List Char) : Option (Int × List Char) :=
  let (neg, cs) := match cs with
    | '-' :: r => (true, r)
    | '+' :: r => (false, r)
    | r => (false, r)
  let (ds, rest) := spanDigits cs
  if ds.isEmpty then none
  else some (if neg then -(digitsValue ds : Int) else digitsValue ds, rest)

/-- The binary64 value of a numeral: an optional minus, digits, an optional point with digits
after it and an optional exponent; `none` for any other text. -/
def readNumeral? (cs : List Char) : Option Float := do
  let (neg, cs) := match cs with
    | '-' :: r => (true, r)
    | r => (false, r)
  let (whole, cs) := spanDigits cs
  if whole.isEmpty then none
  let (frac, cs) ← match cs with
    | '.' :: r =>
      let (f, r) := spanDigits r
      if f.isEmpty then none else some (f, r)
    | r => some ([], r)
  let (exp, cs) ← match cs with
    | c :: r => if c == 'e' || c == 'E' then readExponent? r else none
    | [] => some (0, [])
  if !cs.isEmpty then none
  let x := ofDecimal (digitsValue (whole ++ frac)) (exp - frac.length)
  return if neg then -x else x

end ReviewPrep.Decimal
