import ReviewPrep.Tokens.Budget
import ReviewPrep.Text.Integer
import ReviewPrep.Text.Case.Lower
import ReviewPrep.Text.Printable
import ReviewPrep.Text.Surrogate

/-!
# Settings

The settings of the preparation pipeline, read from named environment values. A setting that is
absent takes its default; an integer setting that is empty or blank also does. An integer
setting that does not read as an integer is refused, and of several such the first in reading
order is reported. A switch is on when its value, trimmed and lower-cased, is `1`, `true`, `yes`
or `on`.
-/

/-! ## Quoted text

A text written as a literal: between single quotes, or between double quotes when it holds a
single quote and no double quote. Inside, the backslash and the chosen quote are escaped, tab,
line feed and carriage return take their letter escapes, and every other character that is not
printable is written by its code point in hexadecimal: two digits below 0x100, four below
0x10000, eight above; a stand-in for a lone surrogate (see `StandIns`) is written as that
surrogate, in four.
-/

namespace ReviewPrep.Text

/-- `n` in `width` lower-case hexadecimal digits. -/
def hexDigits (width n : Nat) : List Char :=
  let ds := Nat.toDigits 16 n
  List.replicate (width - ds.length) '0' ++ ds

/-- The escaped form of one character between quotes `q`, with stand-ins `t` for lone
surrogates. -/
def escapeQuoted (t : StandIns) (q c : Char) : List Char :=
  if c == q || c == '\\' then ['\\', c]
  else if c == '\t' then ['\\', 't']
  else if c == '\n' then ['\\', 'n']
  else if c == '\r' then ['\\', 'r']
  else if isPrintable c then [c]
  else if c.toNat < 0x100 then '\\' :: 'x' :: hexDigits 2 c.toNat
  else if c.toNat < 0x10000 then '\\' :: 'u' :: hexDigits 4 c.toNat
  else if let some u := t.surrogate? c then '\\' :: 'u' :: hexDigits 4 u
  else '\\' :: 'U' :: hexDigits 8 c.toNat

/-- The quote that a text is written between. -/
def quoteFor (cs : List Char) : Char :=
  if cs.contains '\'' && !cs.contains '"' then '"' else '\''

/-- The text written as a literal, with stand-ins `t` for lone surrogates. -/
def quoted (cs : List Char) (t : StandIns := {}) : List Char :=
  let q := quoteFor cs
  q :: cs.flatMap (escapeQuoted t q) ++ [q]

end ReviewPrep.Text

/-! ## Settings -/

namespace ReviewPrep

/-- Why settings could not be read. -/
inductive ConfigError where
  /-- The value `raw` of the setting `name` is no integer. -/
  | notAnInteger (name raw : String)
  deriving DecidableEq, Repr

/-- The text of a settings error, with stand-ins `t` for lone surrogates. -/
def ConfigError.message (t : Text.StandIns := {}) : ConfigError → String
  | .notAnInteger name raw =>
    name ++ " must be an integer, got " ++ String.ofList (Text.quoted raw.toList t)

/-- The settings of the preparation pipeline. -/
structure Settings where
  /-- The model name, for token estimates and the context window. -/
  model : String := ""
  /-- The longest prompt context, in characters. -/
  maxContextLength : Int := 2000
  /-- The token budget of one chunk. -/
  maxChunkTokens : Int := 2000
  /-- Whether every chunk over budget is split again. -/
  strictChunkBudget : Bool := false
  /-- Tokens held back for the model's answer. -/
  responseReserve : Int := 2000
  /-- The log format, `console` or `json`. -/
  logFormat : String := "console"
  /-- The least log level reported. -/
  logLevel : String := "INFO"
  deriving Repr

namespace Settings

/-- The environment names of the settings. -/
def envName (key : String) : String := "DIFFSCOPE_" ++ key

/-- The keys of the settings, as read from the environment. -/
def keys : List String :=
  ["MODEL", "MAX_CONTEXT_LENGTH", "MAX_CHUNK_TOKENS", "STRICT_CHUNK_BUDGET", "RESPONSE_RESERVE",
   "LOG_FORMAT", "LOG_LEVEL"]

/-- Reads an integer setting. -/
def readInt (env : String → Option String) (key : String) (fallback : Int) :
    Except ConfigError Int :=
  match env (envName key) with
  | none => .ok fallback
  | some raw =>
    if (Text.trim raw.toList).isEmpty then .ok fallback
    else match Text.readInteger? raw.toList with
      | some n => .ok n
      | none => .error (.notAnInteger (envName key) raw)

/-- The values that turn a switch on. -/
def onValues : List String := ["1", "true", "yes", "on"]

/-- Reads a switch. -/
def readSwitch (env : String → Option String) (key : String) (fallback : Bool) : Bool :=
  match env (envName key) with
  | none => fallback
  | some raw => onValues.contains (String.ofList (Text.toLowerChars (Text.trim raw.toList)))

/-- Reads the settings from an environment. -/
def ofEnv (env : String → Option String) : Except ConfigError Settings := do
  let model := (env (envName "MODEL")).getD ""
  let maxContextLength ← readInt env "MAX_CONTEXT_LENGTH" 2000
  let maxChunkTokens ← readInt env "MAX_CHUNK_TOKENS" 2000
  let strictChunkBudget := readSwitch env "STRICT_CHUNK_BUDGET" false
  let responseReserve ← readInt env "RESPONSE_RESERVE" Tokens.defaultReserve
  return { model, maxContextLength, maxChunkTokens, strictChunkBudget, responseReserve,
           logFormat := (env (envName "LOG_FORMAT")).getD "console",
           logLevel := (env (envName "LOG_LEVEL")).getD "INFO" }

/-- A fresh token budget for the configured model. -/
def budget (s : Settings) : Tokens.Budget := Tokens.Budget.forModel s.model (.whole s.responseReserve)

end Settings

end ReviewPrep
