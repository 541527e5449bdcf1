import ReviewPrep.Decimal.Binary

/-!
# Shortest decimals of binary64 values

A finite binary64 value `m · 2^q` stands for the interval of reals that round to it: from halfway
to its neighbour below to halfway to its neighbour above, ends included exactly when `m` is even.
The shortest decimal of the value is a decimal of that interval with the fewest significant
digits, the nearest to the value among those, and of two equally near the one with the even last
digit. All comparisons cross-multiply natural numbers; no floating-point operation is involved.
-/

namespace ReviewPrep.Decimal

/-- A decimal `digits · 10^exp`. -/
structure Dec where
  /-- The significant digits, as a number. -/
  digits : Nat
  /-- The power of ten that scales them. -/
  exp : Int
  deriving Repr, DecidableEq

/-- Compares `a · 10^i` with `n · 2^j`, exactly. -/
def cmpScaled (a : Nat) (i : Int) (n : Nat) (j : Int) : Ordering :=
  compare (a * Nat.pow 10 i.toNat * Nat.pow 2 (-j).toNat)
    (n * Nat.pow 2 j.toNat * Nat.pow 10 (-i).toNat)

/-- Whether the decimal lies among the reals that round to the value (to nearest, ties to even). -/
def Binary.readsBack (x : Binary) (d : Dec) : Bool :=
  let lo := if x.narrowBelow then 4 * x.m - 1 else 4 * x.m - 2
  let hi := 4 * x.m + 2
  let incl := x.m % 2 == 0
  let cl := cmpScaled d.digits d.exp lo (x.q - 2)
  let ch := cmpScaled d.digits d.exp hi (x.q - 2)
  (cl == .gt || (incl && cl == .eq)) && (ch == .lt || (incl && ch == .eq))

/-- The number of decimal digits of a positive number. -/
def digitCount (n : Nat) : Nat := (Nat.toDigits 10 n).length

/-- The least `k` with `m · 2^q < 10^k`, for `m > 0`: the position of the leading digit plus one. -/
def Binary.scale (x : Binary) : Int :=
  -- `m · 2^q` as the fraction `num / den`
  let num := x.m * Nat.pow 2 x.q.toNat
  let den := Nat.pow 2 (-x.q).toNat
  if den ≤ num then (digitCount (num / den) : Int)
  else
    -- `num < den`: the least `j ≥ 1` with `den ≤ num · 10^j` is one of two
    let j := digitCount den - digitCount num
    if den ≤ num * Nat.pow 10 j ∧ 0 < j then -(j : Int) + 1 else -(j : Int)

/-- The value's neighbours on the grid `10^e`: `⌊value / 10^e⌋` and the one above it. -/
def Binary.floorOnGrid (x : Binary) (e : Int) : Nat :=
  (x.m * Nat.pow 2 x.q.toNat * Nat.pow 10 (-e).toNat) /
    (Nat.pow 2 (-x.q).toNat * Nat.pow 10 e.toNat)

/-- Of two decimals on one grid, both reading back, the one nearer to the value; a tie goes to
the even one. -/
def Binary.nearer (x : Binary) (a : Nat) (e : Int) : Nat :=
  -- compare twice the value with the sum of the neighbours `a` and `a + 1`
  match cmpScaled (2 * a + 1) e (2 * x.m) x.q with
  | .gt => a
  | .lt => a + 1
  | .eq => if a % 2 == 0 then a else a + 1

/-- The decimal of the value with `n` significant digits that reads back, if one does. -/
def Binary.onGrid? (x : Binary) (n : Nat) : Option Dec :=
  let e := x.scale - n
  let a := x.floorOnGrid e
  let loOk := x.readsBack ⟨a, e⟩
  let hiOk := x.readsBack ⟨a + 1, e⟩
  if loOk && hiOk then some ⟨x.nearer a e, e⟩
  else if loOk then some ⟨a, e⟩
  else if hiOk then some ⟨a + 1, e⟩
  else none

/-- Moves trailing zeros of the digits into the exponent. -/
def Dec.normalize (d : Dec) : Dec :=
  go d.digits.log2 d
where
  /-- At most `fuel` zeros are moved; a number has fewer trailing zeros than bits. -/
  go : Nat → Dec → Dec
    | 0, d => d
    | fuel + 1, d =>
      if d.digits ≠ 0 ∧ d.digits % 10 = 0 then go fuel ⟨d.digits / 10, d.exp + 1⟩ else d

/-- The exact decimal value of `m · 2^q`. -/
def Binary.exact (x : Binary) : Dec :=
  if 0 ≤ x.q then ⟨x.m * Nat.pow 2 x.q.toNat, 0⟩
  else ⟨x.m * Nat.pow 5 (-x.q).toNat, x.q⟩

/-- The shortest decimal of a positive finite value: the first grid of 1, 2, …, 17 digits with a
neighbour that reads back. Seventeen digits always suffice; the exact value stands behind. -/
def Binary.shortest (x : Binary) : Dec :=
  match (List.range 17).findSome? fun i => x.onGrid? (i + 1) with
  | some d => d.normalize
  | none => x.exact.normalize

/-! ## Writing a binary64 value in decimal

A value is written with its shortest decimal digits. Where the decimal point falls decides the
notation: near the digits the point is written into them, and a value with no fraction keeps a
`.0`; far from them the digits take an exponent of at least two digits with its sign. The choices
are gathered in one `Layout` record.
-/

/-- The choices of a decimal notation for binary64 values. -/
structure Layout where
  /-- The decimal point may stand this many places left of the digits at most, written with zeros. -/
  zerosAfterPoint : Nat
  /-- The decimal point may stand this many places right of the first digit at most. -/
  pointPlaces : Nat
  /-- The least number of digits of an exponent. -/
  exponentDigits : Nat
  /-- The text of a value that is not a number. -/
  nan : String
  /-- The text of the positive infinity, written after a minus sign for the negative one. -/
  infinity : String

/-- Reports write a value positionally from `0.0001` to below `10^16`, an integral one with `.0`,
others as `1.5e-05` or `1e+16`, and the non-finite ones as `NaN` and `Infinity`. -/
def Layout.report : Layout := ⟨3, 16, 2, "NaN", "Infinity"⟩

/-- The text of a decimal with digits `ds` whose point stands `point` places right of the first digit. -/
def Layout.place (l : Layout) (ds : List Char) (point : Int) : List Char :=
  if point ≤ -(l.zerosAfterPoint : Int) - 1 ∨ (l.pointPlaces : Int) < point then
    let exp := point - 1
    let mag := Nat.toDigits 10 exp.natAbs
    let padded := List.replicate (l.exponentDigits - mag.length) '0' ++ mag
    (ds.take 1 ++ (if ds.length > 1 then '.' :: ds.drop 1 else [])) ++
      'e' :: (if exp < 0 then '-' else '+') :: padded
  else if point ≤ 0 then
    ['0', '.'] ++ List.replicate point.natAbs '0' ++ ds
  else if ds.length ≤ point.toNat then
    ds ++ List.replicate (point.toNat - ds.length) '0' ++ ['.', '0']
  else ds.take point.toNat ++ '.' :: ds.drop point.toNat

/-- The text of a binary64 value in the layout. -/
def Layout.write (l : Layout) (x : Float) : String :=
  let bits := x.toBits
  let sign := if bits >>> 63 == 1 then "-" else ""
  if x.isNaN then l.nan
  else if x.isInf then sign ++ l.infinity
  else
    let b := Binary.ofBits bits
    if b.m == 0 then sign ++ "0.0"
    else
      let d := b.shortest
      let ds := Nat.toDigits 10 d.digits
      sign ++ String.ofList (l.place ds (ds.length + d.exp))

end ReviewPrep.Decimal
