/-!
# Lone surrogates

JSON text is a sequence of UTF-16 code units, and a string may hold a surrogate that is not half
of a pair. Such a unit has no Unicode scalar value, so no character is it. A document that holds
lone surrogates is read with a table of stand-ins: for each surrogate, a character that the
document does not hold, taken from planes 4 to 13, which Unicode leaves unassigned. Writers given
the table write each stand-in back as its surrogate. Like the surrogates, unassigned characters
are not letters, digits or spaces, have no case and are not printable, so every rule on
characters treats a stand-in as it treats its surrogate; and since no other character of the
document is a stand-in, texts compare as the surrogates would.
-/

namespace ReviewPrep.Text

/-- Whether a code unit is a surrogate that opens a pair. -/
def isHighSurrogate (u : Nat) : Bool := 0xD800 ≤ u && u < 0xDC00

/-- Whether a code unit is a surrogate that closes a pair. -/
def isLowSurrogate (u : Nat) : Bool := 0xDC00 ≤ u && u < 0xE000

/-- The code point of a surrogate pair. -/
def pairCodePoint (high low : Nat) : Nat := 0x10000 + (high - 0xD800) * 0x400 + (low - 0xDC00)

/-- The first code point of plane 4. -/
def unassignedStart : Nat := 0x40000

/-- The code point after plane 13. -/
def unassignedEnd : Nat := 0xE0000

/-- Whether a code point lies in planes 4 to 13. -/
def isUnassignedPlane (n : Nat) : Bool := unassignedStart ≤ n && n < unassignedEnd

/-- The characters that stand for the lone surrogates of one document, each with its surrogate. -/
structure StandIns where
  /-- Each stand-in with the surrogate it stands for. -/
  pairs : List (Char × Nat) := []
  deriving DecidableEq, Repr, Inhabited

namespace StandIns

/-- The surrogate a character stands for, if it is a stand-in. -/
def surrogate? (t : StandIns) (c : Char) : Option Nat :=
  (t.pairs.find? fun p => p.1 == c).map Prod.snd

/-- The stand-in of a surrogate, if it has one. -/
def standIn? (t : StandIns) (u : Nat) : Option Char :=
  (t.pairs.find? fun p => p.2 == u).map Prod.fst

/-- Stand-ins for the surrogates `us`: the least code points of planes 4 to 13 that are not the
code point of a character in `used`, given in order to the surrogates in order of first
appearance. Of the first `k + m` code points there, at most `m` are used, so `k` surrogates
always find theirs among them. -/
def choose (us : List Nat) (used : List Nat) : StandIns :=
  let surrogates := us.eraseDups
  let taken := used.filter isUnassignedPlane
  let free := (List.range (surrogates.length + taken.length)).map (unassignedStart + ·)
    |>.filter fun n => !taken.contains n
  ⟨(free.zip surrogates).map fun (n, u) => (Char.ofNat n, u)⟩

end StandIns

/-- No character stands for a surrogate in the empty table. -/
theorem StandIns.surrogate?_empty (c : Char) : StandIns.surrogate? {} c = none := rfl

end ReviewPrep.Text
