import ReviewPrep.Quantity
import ReviewPrep.Decimal.Exact
import ReviewPrep.Text.Basic
import ReviewPrep.Text.Case.Lower

/-!
# Estimating tokens

A text's token count is estimated from its length in characters. The length is divided by the
characters per token; code-like text (three or more code indicators present, compared in lower
case) counts 1.3 times as much, and text that is more than 30 % spaces, tabs and line breaks
0.9 times as much. The product, computed in binary64 in that order (each step rounded as
binary64 rounds it, on exact numbers), is cut to an integer toward zero. Empty text counts
nothing, whatever the divisor.
-/

namespace ReviewPrep.Tokens

/-- Why an estimate has no value. -/
inductive TokenFault where
  /-- A non-empty text divided by zero characters per token. -/
  | divisionByZero
  /-- The estimate is infinite. -/
  | overflow
  /-- The estimate is not a number. -/
  | notANumber
  deriving DecidableEq, Repr

/-- The substrings that mark text as code. -/
def codeIndicators : List String :=
  ["func ", "function ", "def ", "class ", "if ", "for ", "while ", "switch ", "import ",
   "require(", "from ", "return ", "const ", "let ", "var ", "\x7b", "\x7d", "(", ")", "[", "]",
   "=>", "->", "::", "//", "/*"]

/-- The number of code indicators present in the lower case of the text. -/
def indicatorCount (text : List Char) : Nat :=
  let lowered := Text.toLowerChars text
  (codeIndicators.filter fun ind => Text.occursIn ind.toList lowered).length

/-- Text is code-like when three or more code indicators are present. -/
def isCodeLike (text : List Char) : Bool := indicatorCount text ≥ 3

/-- Whether the character is a space, a tab or a line break. -/
def isLayoutChar (c : Char) : Bool := c == ' ' || c == '\t' || c == '\n' || c == '\r'

/-- The number of spaces, tabs and line breaks. -/
def layoutCount (text : List Char) : Nat := (text.filter isLayoutChar).length

/-- The share of spaces, tabs and line breaks in the text, `0` for empty text. -/
def whitespaceRatio (text : List Char) : Float :=
  if text.isEmpty then 0 else Decimal.ofRatio (layoutCount text) text.length

/-- The length divided by the characters per token, rounded as binary64 division does: a whole
divisor divides exactly before rounding, a binary64 one divides the length as a binary64 value. -/
def divideLength (d : Quantity) (len : Nat) : Except TokenFault Decimal.Exact :=
  match d with
  | .whole n => if n = 0 then .error .divisionByZero else .ok (.ofRatio (n < 0) len n.natAbs)
  | .real x =>
    let x := Decimal.Exact.ofFloat x
    if x.isZero then .error .divisionByZero else .ok ((Decimal.Exact.ofNat len).div x)

/-- The factor of code-like text, the binary64 value nearest 1.3. -/
def codeMultiplier : Decimal.Exact := .ofRatio false 13 10

/-- The factor of text with much white space, the binary64 value nearest 0.9. -/
def whitespaceMultiplier : Decimal.Exact := .ofRatio false 9 10

/-- The factor of the model, one. -/
def modelMultiplier : Decimal.Exact := .ofRatio false 1 1

/-- An estimator of token counts. -/
structure Estimator where
  /-- Characters per token: a whole number or a binary64 value. -/
  density : Quantity
  deriving Inhabited

/-- The estimator of four characters per token. -/
def Estimator.standard : Estimator := ⟨.real 4.0⟩

/-- The quotient scaled by the factors that apply, in this order: the factor of code-like text,
the factor of text with much white space, and the model's factor. -/
def scaleQuotient (codeLike spaced : Bool) (base : Decimal.Exact) : Decimal.Exact :=
  let coded := if codeLike then base.mul codeMultiplier else base
  let spaced := if spaced then coded.mul whitespaceMultiplier else coded
  spaced.mul modelMultiplier

/-- The whole tokens of a scaled estimate, cut toward zero; not a number and the infinities
have none. -/
def countOf : Decimal.Exact → Except TokenFault Int
  | .nan => .error .notANumber
  | .inf _ => .error .overflow
  | .finite neg units => .ok (Decimal.Exact.truncate neg units)

/-- The estimated token count of a text. -/
def Estimator.estimate (est : Estimator) (text : List Char) : Except TokenFault Int := do
  if text.isEmpty then return 0
  let base ← divideLength est.density text.length
  countOf (scaleQuotient (isCodeLike text) (whitespaceRatio text > 0.3) base)

/-- Tokens added to every review request for its metadata. -/
def metadataOverhead : Int := 50

/-- Tokens of the fixed instructions that open every review request. -/
def instructionsOverhead : Int := 200

/-- The estimated token count of a review request around a diff: the diff, the language tag and
the path, and the fixed overheads. -/
def Estimator.estimateRequest (est : Estimator) (diff language path : List Char) :
    Except TokenFault Int := do
  let d ← est.estimate diff
  let l ← est.estimate language
  let p ← est.estimate path
  return d + (l + p + metadataOverhead) + instructionsOverhead

end ReviewPrep.Tokens
