import ReviewPrep.Text.Integer
import ReviewPrep.Text.WordChar
import ReviewPrep.Text.Basic

/-!
# Line patterns

Patterns over characters with the constructs that line-oriented recognisers need: character
sets built from single characters, ranges and the Unicode classes of digits, word characters and
white space; sequence; ordered choice; greedy and lazy repetition; numbered capture groups; the
anchors for the start and the end of the subject; word boundaries; and negative look-ahead.
Patterns are built with the combinators of this module and matched by `ReviewPrep.Pattern.Match`.
-/

namespace ReviewPrep.Pattern

/-- One member of a character set. -/
inductive ClassItem where
  | char (c : Char)
  | range (lo hi : Char)
  /-- A decimal digit of any script. -/
  | digit
  /-- A word character: a letter, digit or numeric character of any script, or `_`. -/
  | word
  /-- White space. -/
  | space
  deriving Repr, DecidableEq

/-- Whether the item holds the character. -/
def ClassItem.has : ClassItem → Char → Bool
  | .char d, c => c == d
  | .range lo hi, c => lo ≤ c && c ≤ hi
  | .digit, c => Text.isDecimal c
  | .word, c => Text.isWordChar c
  | .space, c => Text.isBlank c

/-- A set of characters: the union of its items, or everything outside it when negated. -/
structure CharSet where
  /-- The members of the set. -/
  items : List ClassItem
  /-- Whether the set is the complement of its items. -/
  negated : Bool
  deriving Repr, DecidableEq

/-- Whether the set holds the character. -/
def CharSet.has (s : CharSet) (c : Char) : Bool := s.items.any (·.has c) != s.negated

end ReviewPrep.Pattern

namespace ReviewPrep

/-- A pattern over characters. -/
inductive Pattern where
  /-- Matches the empty text. -/
  | empty
  /-- Matches one character of the set. -/
  | one (s : Pattern.CharSet)
  /-- `p` followed by `q`. -/
  | seq (p q : Pattern)
  /-- `p`, or else `q`: the first alternative that leads to a match wins. -/
  | alt (p q : Pattern)
  /-- Any number of `p`, each consuming input: as many as possible first when `greedy`, as few
  as possible otherwise. -/
  | star (p : Pattern) (greedy : Bool)
  /-- `p`, recording what it matched as group `i`. -/
  | group (i : Nat) (p : Pattern)
  /-- The start of the subject. -/
  | atStart
  /-- The end of the subject, or just before a line feed that ends it. -/
  | atEnd
  /-- Between a word character and a character that is none, in either order; the edges of the
  subject count as no word character. -/
  | wordBoundary
  /-- Matches the empty text where `p` does not match. -/
  | notAhead (p : Pattern)
  deriving Repr, Inhabited

namespace Pattern

instance : Append Pattern := ⟨seq⟩

instance : OrElse Pattern := ⟨fun p q => alt p (q ())⟩

/-- One character of the set of items. -/
def oneOf (items : List ClassItem) : Pattern := one ⟨items, false⟩

/-- One character outside the set of items. -/
def noneOf (items : List ClassItem) : Pattern := one ⟨items, true⟩

/-- One of the characters of a text. -/
def anyOf (s : String) : Pattern := oneOf (s.toList.map .char)

/-- One character that is none of the characters of a text. -/
def noneOfChars (s : String) : Pattern := noneOf (s.toList.map .char)

/-- Any character but a line feed. -/
def dot : Pattern := noneOf [.char '\n']

/-- A decimal digit. -/
def digit : Pattern := oneOf [.digit]

/-- A word character. -/
def word : Pattern := oneOf [.word]

/-- A white-space character. -/
def space : Pattern := oneOf [.space]

/-- A character that is no white space. -/
def nonSpace : Pattern := noneOf [.space]

/-- Zero or more, as many as possible. -/
def many (p : Pattern) : Pattern := star p true

/-- One or more, as many as possible. -/
def many1 (p : Pattern) : Pattern := p ++ star p true

/-- Zero or more, as few as possible. -/
def lazyMany (p : Pattern) : Pattern := star p false

/-- One or more, as few as possible. -/
def lazyMany1 (p : Pattern) : Pattern := p ++ star p false

/-- `p` or nothing, `p` first. -/
def opt (p : Pattern) : Pattern := alt p empty

/-- The first alternative that leads to a match. -/
def choice : List Pattern → Pattern
  | [] => notAhead empty
  | [p] => p
  | p :: ps => alt p (choice ps)

/-- The patterns one after another. -/
def concat : List Pattern → Pattern
  | [] => empty
  | [p] => p
  | p :: ps => p ++ concat ps

/-- The characters of a text, in order. -/
def lit (s : String) : Pattern := concat (s.toList.map fun c => oneOf [.char c])

/-- One of the words, as literal texts, in order. -/
def keywords (ws : List String) : Pattern := choice (ws.map lit)

/-- White space, possibly none. -/
def spaces : Pattern := many space

/-- White space, at least one character. -/
def spaces1 : Pattern := many1 space

/-- A run of word characters. -/
def ident : Pattern := many1 word

end Pattern

end ReviewPrep
