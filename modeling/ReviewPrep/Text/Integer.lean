import ReviewPrep.Text.Basic

/-!
# Reading integers

An integer is written as an optional sign and decimal digits of any script, with single
underscores allowed between digits, and may be surrounded by white space. Leading zeros are
allowed. Nothing else is read: no base prefix, no exponent, no inner space.

A numeral of more than `maxDigits` digits is refused, when read and when written: conversion
between decimal text and numbers costs time quadratic in the length, so the length is bounded.
Underscores and signs are not digits.

The white space around a number is narrower than `isBlank`: in ASCII only the space, tab, line
feed, vertical tab, form feed and carriage return count, so the information separators
`U+001C` to `U+001F` do not; beyond ASCII every blank character counts.
-/

namespace ReviewPrep.Text

/-! ## Decimal digits

The characters of general category Nd in Unicode 14.0. Every range of the table starts at a
digit zero and runs through whole blocks of ten, so a digit's value is its offset from the
start of its range, modulo ten.
-/

/-- The decimal digits (general category Nd). -/
def decimalTable : RangeTable where
  bounds := #[
    0x30, 0x39, 0x660, 0x669, 0x6F0, 0x6F9, 0x7C0, 0x7C9,
    0x966, 0x96F, 0x9E6, 0x9EF, 0xA66, 0xA6F, 0xAE6, 0xAEF,
    0xB66, 0xB6F, 0xBE6, 0xBEF, 0xC66, 0xC6F, 0xCE6, 0xCEF,
    0xD66, 0xD6F, 0xDE6, 0xDEF, 0xE50, 0xE59, 0xED0, 0xED9,
    0xF20, 0xF29, 0x1040, 0x1049, 0x1090, 0x1099, 0x17E0, 0x17E9,
    0x1810, 0x1819, 0x1946, 0x194F, 0x19D0, 0x19D9, 0x1A80, 0x1A89,
    0x1A90, 0x1A99, 0x1B50, 0x1B59, 0x1BB0, 0x1BB9, 0x1C40, 0x1C49,
    0x1C50, 0x1C59, 0xA620, 0xA629, 0xA8D0, 0xA8D9, 0xA900, 0xA909,
    0xA9D0, 0xA9D9, 0xA9F0, 0xA9F9, 0xAA50, 0xAA59, 0xABF0, 0xABF9,
    0xFF10, 0xFF19, 0x104A0, 0x104A9, 0x10D30, 0x10D39, 0x11066, 0x1106F,
    0x110F0, 0x110F9, 0x11136, 0x1113F, 0x111D0, 0x111D9, 0x112F0, 0x112F9,
    0x11450, 0x11459, 0x114D0, 0x114D9, 0x11650, 0x11659, 0x116C0, 0x116C9,
    0x11730, 0x11739, 0x118E0, 0x118E9, 0x11950, 0x11959, 0x11C50, 0x11C59,
    0x11D50, 0x11D59, 0x11DA0, 0x11DA9, 0x16A60, 0x16A69, 0x16AC0, 0x16AC9,
    0x16B50, 0x16B59, 0x1D7CE, 0x1D7FF, 0x1E140, 0x1E149, 0x1E2F0, 0x1E2F9,
    0x1E950, 0x1E959, 0x1FBF0, 0x1FBF9]

/-- The start of the range of decimal digits that holds `n`, if any. -/
def digitRangeStart? (n : Nat) : Option Nat :=
  go 0 decimalTable.count
where
  /-- Halving search over the ranges `a ≤ i < b`. -/
  go (a b : Nat) : Option Nat :=
    if h : a < b then
      let mid := a + (b - a) / 2
      if n < decimalTable.lo mid then go a mid
      else if n ≤ decimalTable.hi mid then some (decimalTable.lo mid)
      else go (mid + 1) b
    else none
  termination_by b - a

/-- The value of a decimal digit of any script, or `none` for a character that is no digit. -/
def digitValue? (c : Char) : Option Nat :=
  if c.toNat < 0x80 then
    if c.isDigit then some (c.toNat - 0x30) else none
  else (digitRangeStart? c.toNat).map fun lo => (c.toNat - lo) % 10

/-- Whether the character is a decimal digit of any script. -/
def isDecimal (c : Char) : Bool := (digitValue? c).isSome

/-! ## Reading integers -/

/-- The most digits a decimal numeral may have to be read or written. -/
def maxDigits : Nat := 4300

/-- The number of decimal digits of a natural number; zero has one. -/
def decimalWidth (n : Nat) : Nat := (Nat.toDigits 10 n).length

/-- Whether an integer can be written in decimal: at most `maxDigits` digits, the sign aside. -/
def fitsDigits (n : Int) : Bool := decimalWidth n.natAbs ≤ maxDigits

/-- Reads digits with single underscores between them, most significant first, onto `acc`. -/
def readDigits (acc : Nat) : List Char → Option Nat
  | [] => some acc
  | '_' :: d :: rest =>
    match digitValue? d with
    | some v => readDigits (10 * acc + v) rest
    | none => none
  | c :: rest =>
    match digitValue? c with
    | some v => readDigits (10 * acc + v) rest
    | none => none

/-- Reads an unsigned run of digits: it starts with a digit, ends with one, and has at most
`maxDigits` of them. -/
def readUnsigned? (cs : List Char) : Option Nat :=
  match cs with
  | c :: _ =>
    if isDecimal c && cs.countP isDecimal ≤ maxDigits then readDigits 0 cs else none
  | [] => none

/-- Whether a character may surround a number. -/
def isNumberSpace (c : Char) : Bool :=
  if c.toNat < 0x7F then c == ' ' || (0x09 ≤ c.toNat && c.toNat ≤ 0x0D) else isBlank c

/-- Reads an integer: white space, an optional sign, digits with single underscores between them,
white space. -/
def readInteger? (cs : List Char) : Option Int :=
  match ((cs.dropWhile isNumberSpace).reverse.dropWhile isNumberSpace).reverse with
  | '+' :: rest => (readUnsigned? rest).map Int.ofNat
  | '-' :: rest => (readUnsigned? rest).map fun n => -(n : Int)
  | rest => (readUnsigned? rest).map Int.ofNat

end ReviewPrep.Text
