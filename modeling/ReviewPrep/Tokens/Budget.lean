import ReviewPrep.Tokens.Estimate
import ReviewPrep.Text.Basic

/-!
# Token budgets

A budget is the allowance of one model request: its window, the tokens held back for the answer,
and the tokens used so far. Each is a quantity, a whole number or a binary64 value, and is
combined as quantities are: whole while every operand is whole, else in binary64, which fails
for a whole number too large to be rounded to a finite value. A window or reserve that is not
positive is replaced by its default, 8000 and 2000; NaN is kept. What is available may fall
below zero; `canFit` is the check before spending.
-/

namespace ReviewPrep.Tokens

/-! ## Model profiles

A model is known by a family name contained in its name: the first entry of a table whose name
occurs in the model's name gives its context window and its characters per token. An unknown
model has a window of 8000 tokens and four characters per token.
-/

/-- Context windows, by a part of the model's name; the first hit wins. -/
def contextWindows : List (String × Nat) :=
  [("gpt-4-turbo", 128000), ("gpt-4o", 128000), ("gpt-4", 8192), ("gpt-3.5", 16384),
   ("claude-3", 200000), ("gemini-1.5-flash", 1048576), ("gemini", 32768), ("llama", 8192),
   ("mistral", 32768), ("qwen", 32768)]

/-- Characters per token, by a part of the model's name; the first hit wins. -/
def densities : List (String × Float) :=
  [("gpt-4", 4.0), ("gpt-3.5", 4.0), ("claude", 3.5), ("gemini", 4.0), ("llama", 4.5),
   ("mistral", 4.0), ("qwen", 3.0)]

/-- The context window of a model with no entry. -/
def defaultWindow : Nat := 8000

/-- The value of the first entry whose key occurs in the model's name. -/
def lookupByName {α : Type} (table : List (String × α)) (model : String) (fallback : α) : α :=
  match table.find? fun e => Text.occursIn e.1.toList model.toList with
  | some e => e.2
  | none => fallback

/-- The context window of a model, in tokens. -/
def contextWindow (model : String) : Nat := lookupByName contextWindows model defaultWindow

/-- The characters per token of a model. -/
def charsPerToken (model : String) : Float := lookupByName densities model 4.0

/-- The estimator tuned to a model. -/
def Estimator.forModel (model : String) : Estimator := ⟨.real (charsPerToken model)⟩

/-! ## Token budgets -/

/-- The default context window of a budget. -/
def defaultMaxTokens : Int := 8000

/-- The default number of tokens held back for the answer. -/
def defaultReserve : Int := 2000

/-- The allowance of one model request. -/
structure Budget where
  /-- The context window. -/
  maxTokens : Quantity
  /-- Tokens held back for the answer. -/
  responseReserve : Quantity
  /-- Tokens used so far. -/
  used : Quantity
  deriving Repr

namespace Budget

/-- A fresh budget; values that are not positive take their defaults. -/
def make (maxTokens responseReserve : Quantity) : Budget :=
  ⟨maxTokens.positiveOr defaultMaxTokens, responseReserve.positiveOr defaultReserve, .whole 0⟩

/-- A fresh budget sized to a model's context window. -/
def forModel (model : String) (responseReserve : Quantity) : Budget :=
  make (.whole (contextWindow model)) responseReserve

/-- The tokens still available for input: the window less the reserve, less what is used. -/
def available (b : Budget) : Except QuantityError Quantity := do
  (← b.maxTokens.sub b.responseReserve).sub b.used

/-- The budget after spending `n` tokens. -/
def use (b : Budget) (n : Quantity) : Except QuantityError Budget := do
  return { b with used := ← b.used.add n }

/-- Whether `n` tokens fit in what is left. -/
def canFit (b : Budget) (n : Quantity) : Except QuantityError Bool := do
  return n.le (← b.available)

/-- The budget with nothing used. -/
def reset (b : Budget) : Budget := { b with used := .whole 0 }

/-- With whole numbers throughout, what is available is the window less the reserve and the use. -/
theorem available_whole (m r u : Int) :
    available ⟨.whole m, .whole r, .whole u⟩ = .ok (.whole (m - r - u)) := rfl

/-- An operation on a budget, with its amounts of tokens of type `α`. -/
inductive Op (α : Type) where
  /-- Spend tokens. -/
  | use (n : α)
  /-- Ask whether tokens fit. -/
  | canFit (n : α)
  /-- Forget what was spent. -/
  | reset
  /-- Ask what is available. -/
  | available
  deriving Repr

/-- The operation with its amount, if any, changed by `f`. -/
def Op.map {α β : Type} (f : α → β) : Op α → Op β
  | .use n => .use (f n)
  | .canFit n => .canFit (f n)
  | .reset => .reset
  | .available => .available

/-- What an operation answers. -/
inductive Reply where
  /-- Spending and resetting answer nothing. -/
  | nothing
  /-- Whether the tokens fit. -/
  | fits (b : Bool)
  /-- What is available. -/
  | available (q : Quantity)
  deriving Repr

/-- One operation applied: the budget after it, and its answer. -/
def step (b : Budget) : Op Quantity → Except QuantityError (Budget × Reply)
  | .use n => return (← b.use n, .nothing)
  | .canFit n => return (b, .fits (← b.canFit n))
  | .reset => return (b.reset, .nothing)
  | .available => return (b, .available (← b.available))

/-- The budgets and answers along a run of operations, one entry per operation. -/
def run (b : Budget) : List (Op Quantity) → Except QuantityError (List (Budget × Reply))
  | [] => return []
  | o :: os => do
    let (b', r) ← b.step o
    return (b', r) :: (← b'.run os)

end Budget

end ReviewPrep.Tokens
