/-!
# Text

Text held as a list of characters: its white space, trimming, searching and splitting, and the
sorted tables of code point ranges that store the character classes of Unicode.
-/

namespace ReviewPrep.Text

/-! ## White space

The white space of Unicode text: the ASCII tab, line feed, vertical tab, form feed and carriage
return, the four ASCII information separators, the space, the next-line control, and the
Unicode space and line/paragraph separators. Trimming and splitting into words use this set.
-/

/-- Whether the character is white space. -/
def isBlank (c : Char) : Bool :=
  let n := c.toNat
  (0x09 ≤ n && n ≤ 0x0D) || (0x1C ≤ n && n ≤ 0x20) || n == 0x85 || n == 0xA0 || n == 0x1680 ||
    (0x2000 ≤ n && n ≤ 0x200A) || n == 0x2028 || n == 0x2029 || n == 0x202F || n == 0x205F ||
    n == 0x3000

/-- Core's notion of white space is part of this one. -/
theorem isBlank_of_isWhitespace {c : Char} (h : c.isWhitespace = true) : isBlank c = true := by
  simp only [Char.isWhitespace, Bool.or_eq_true, decide_eq_true_eq] at h
  simp only [isBlank, Bool.or_eq_true, Bool.and_eq_true, decide_eq_true_eq, beq_iff_eq]
  rcases h with ((h | h) | h) | h <;> simp [h]

/-! ## Operations on text

Trimming and splitting into words use the white space of `isBlank`; splitting on a separator cuts
at its non-overlapping occurrences from the left, so that joining the pieces with the separator
gives the text back.
-/

/-- Drops the white space at the start. -/
def trimLeft (cs : List Char) : List Char := cs.dropWhile isBlank

/-- Drops the white space at the end. -/
def trimRight (cs : List Char) : List Char := (cs.reverse.dropWhile isBlank).reverse

/-- Drops the white space at both ends. -/
def trim (cs : List Char) : List Char := trimRight (trimLeft cs)

/-- Drops the characters of `set` at the start. -/
def dropLeftOf (set : List Char) (cs : List Char) : List Char := cs.dropWhile (set.contains ·)

/-- Drops the characters of `set` at the end. -/
def dropRightOf (set : List Char) (cs : List Char) : List Char :=
  (cs.reverse.dropWhile (set.contains ·)).reverse

/-- Drops the characters of `set` at both ends. -/
def dropBothOf (set : List Char) (cs : List Char) : List Char :=
  dropRightOf set (dropLeftOf set cs)

/-- Whether `p` occurs in `cs` as a contiguous part. -/
def occursIn (p : List Char) : List Char → Bool
  | [] => p.isEmpty
  | c :: rest => p.isPrefixOf (c :: rest) || occursIn p rest

/-- Whether `cs` ends with `p`. -/
def endsWith (cs p : List Char) : Bool := p.reverse.isPrefixOf cs.reverse

/-- The words of a text: its maximal runs of characters other than white space. -/
def words (cs : List Char) : List (List Char) :=
  (cs.splitBy fun a b => isBlank a == isBlank b).filter fun w => w.any (!isBlank ·)

/-- The first occurrence of a non-empty `sep` in `cs`, as the text before it and after it. -/
def breakOn? (sep : List Char) : List Char → Option (List Char × List Char)
  | [] => none
  | c :: rest =>
    if sep ≠ [] ∧ sep.isPrefixOf (c :: rest) then some ([], (c :: rest).drop sep.length)
    else (breakOn? sep rest).map fun (a, b) => (c :: a, b)

/-- The text cut at every occurrence of `sep`, from the left; an empty separator cuts nowhere. -/
def splitOnText (sep : List Char) (cs : List Char) : List (List Char) :=
  go cs.length cs
where
  /-- Cuts `cs`, whose length is at most `n`. -/
  go : Nat → List Char → List (List Char)
    | 0, cs => [cs]
    | n + 1, cs =>
      match breakOn? sep cs with
      | some (a, b) => a :: go n b
      | none => [cs]

/-- Every way to split the text at an occurrence of a non-empty `sep`, as the text before and
after the occurrence, leftmost occurrence first. -/
def splitsAt (sep : List Char) : List Char → List (List Char × List Char)
  | [] => []
  | c :: rest =>
    let here := if sep.isPrefixOf (c :: rest) then [([], (c :: rest).drop sep.length)] else []
    here ++ (splitsAt sep rest).map fun (a, b) => (c :: a, b)

/-- The text before and after the last occurrence of a non-empty `sep`. -/
def breakOnLast? (sep : List Char) (cs : List Char) : Option (List Char × List Char) :=
  (breakOn? sep.reverse cs.reverse).map fun (a, b) => (b.reverse, a.reverse)

/-- The number of non-overlapping occurrences of a non-empty `p`, counted from the left. -/
def countOf (p : List Char) (cs : List Char) : Nat := (splitOnText p cs).length - 1

/-- The text joined with `sep` between consecutive pieces. -/
def joinWith (sep : List Char) : List (List Char) → List Char
  | [] => []
  | [p] => p
  | p :: q :: ps => p ++ sep ++ joinWith sep (q :: ps)

/-- Every occurrence of `old` replaced by `new`, from the left and without overlaps. -/
def replaceAll (old new : List Char) (cs : List Char) : List Char :=
  joinWith new (splitOnText old cs)

/-! ## Sorted tables of code point ranges

A character property of the Unicode standard is stored as its sorted, disjoint ranges of code
points, flattened into one array of bounds `lo₀, hi₀, lo₁, hi₁, …` with both ends included.
Membership halves the interval of candidate ranges, so a lookup reads a logarithmic number of
bounds.
-/

/-- Sorted, disjoint, closed ranges of code points, stored as consecutive pairs of bounds. -/
structure RangeTable where
  /-- The bounds `lo₀, hi₀, lo₁, hi₁, …`, increasing. -/
  bounds : Array Nat

namespace RangeTable

/-- The number of ranges in the table. -/
def count (t : RangeTable) : Nat := t.bounds.size / 2

/-- The lower bound of range `i`. -/
def lo (t : RangeTable) (i : Nat) : Nat := t.bounds.getD (2 * i) 0

/-- The upper bound of range `i`. -/
def hi (t : RangeTable) (i : Nat) : Nat := t.bounds.getD (2 * i + 1) 0

/-- Whether `n` lies in one of the ranges `a ≤ i < b`: a range that starts above `n` rules out
every later one, a range that ends below `n` every earlier one. -/
def containsIn (t : RangeTable) (n : Nat) (a b : Nat) : Bool :=
  if h : a < b then
    let mid := a + (b - a) / 2
    if n < t.lo mid then t.containsIn n a mid
    else if n ≤ t.hi mid then true
    else t.containsIn n (mid + 1) b
  else false
termination_by b - a

/-- Whether the code point `n` lies in one of the table's ranges. -/
def contains (t : RangeTable) (n : Nat) : Bool := t.containsIn n 0 t.count

/-- Whether the character lies in one of the table's ranges. -/
def has (t : RangeTable) (c : Char) : Bool := t.contains c.toNat

end RangeTable

end ReviewPrep.Text
