/-!
# Base64

Bytes written four digits to three bytes in the base64 alphabet `A`–`Z`, `a`–`z`, `0`–`9`, `+`,
`/`. Reading is lenient: a character outside the alphabet is skipped, and padding `=` ends the
text once it completes a group of four, whatever follows; a `=` where fewer than two digits of a
group are read is skipped too. The text must be ASCII. At its end, a group of one digit cannot
be bytes, and a group of two or three must have been completed by padding.
-/

namespace ReviewPrep.Text

/-- Why a text is not base64. -/
inductive Base64Error where
  /-- A character outside ASCII. -/
  | notAscii
  /-- One digit over a whole number of groups. -/
  | strayDigit
  /-- A group of two or three digits without its padding. -/
  | missingPadding
  deriving DecidableEq, Repr

/-- The value of one base64 digit. -/
def base64Digit (c : Char) : Option Nat :=
  if 'A' ≤ c && c ≤ 'Z' then some (c.toNat - 'A'.toNat)
  else if 'a' ≤ c && c ≤ 'z' then some (c.toNat - 'a'.toNat + 26)
  else if '0' ≤ c && c ≤ '9' then some (c.toNat - '0'.toNat + 52)
  else if c == '+' then some 62
  else if c == '/' then some 63
  else none

/-- Reads the rest of a text: `phase` digits of the current group are read, their bits not yet
written are `carry`, `pads` padding characters follow them, and `out` holds the bytes so far,
latest first. -/
def readBase64 : List Char → Nat → Nat → Nat → List UInt8 → Except Base64Error (List UInt8)
  | [], phase, _, _, out =>
    if phase = 0 then .ok out.reverse
    else if phase = 1 then .error .strayDigit
    else .error .missingPadding
  | c :: rest, phase, carry, pads, out =>
    if c == '=' then
      if 2 ≤ phase then
        if 4 ≤ phase + (pads + 1) then .ok out.reverse
        else readBase64 rest phase carry (pads + 1) out
      else readBase64 rest phase carry pads out
    else
      match base64Digit c, phase with
      | none, _ => readBase64 rest phase carry pads out
      | some d, 0 => readBase64 rest 1 d 0 out
      | some d, 1 => readBase64 rest 2 (d % 16) 0 ((carry * 4 + d / 16).toUInt8 :: out)
      | some d, 2 => readBase64 rest 3 (d % 4) 0 ((carry * 16 + d / 4).toUInt8 :: out)
      | some d, _ => readBase64 rest 0 0 0 ((carry * 64 + d).toUInt8 :: out)

/-- The bytes a base64 text stands for. -/
def decodeBase64 (cs : List Char) : Except Base64Error (List UInt8) :=
  if cs.all fun c => c.toNat < 0x80 then readBase64 cs 0 0 0 [] else .error .notAscii

/-- A text with no base64 digits stands for no bytes. -/
theorem readBase64_nil (out : List UInt8) : readBase64 [] 0 0 0 out = .ok out.reverse := rfl

end ReviewPrep.Text
