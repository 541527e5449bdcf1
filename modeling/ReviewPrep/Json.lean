import ReviewPrep.Decimal.Shortest
import ReviewPrep.Text.Integer
import ReviewPrep.Text.Surrogate

/-!
# JSON documents

The documents that reports are written as, and their text. Object members keep the order in
which they are given. Strings escape quotes, backslashes and control characters; in the ASCII
style (the default) every other character outside printable ASCII is escaped as `\uXXXX` too,
through a surrogate pair above the basic plane, and a stand-in for a lone surrogate (see
`Text.StandIns`) through that surrogate alone; the UTF-8 style writes it as it is.
Numbers are integers or binary64 values in the report layout, which always shows a point or an
exponent. An integer of more than `Text.maxDigits` digits cannot be written: `numeralsFit` tells
whether a document can.
-/

namespace ReviewPrep

/-- A JSON document. -/
inductive JsonValue where
  | null
  | bool (b : Bool)
  | int (n : Int)
  | float (x : Float)
  | str (s : String)
  | arr (items : List JsonValue)
  | obj (members : List (String × JsonValue))
  deriving Inhabited

namespace JsonValue

/-- Four hexadecimal digits, lower case. -/
def hex4 (n : Nat) : List Char :=
  let ds := Nat.toDigits 16 n
  List.replicate (4 - ds.length) '0' ++ ds

/-- Which characters a string escapes besides quotes, backslashes and control characters. -/
inductive Escapes where
  /-- Every character outside printable ASCII; a stand-in of the table as its lone surrogate. -/
  | ascii (standIns : Text.StandIns := {})
  /-- None: the text is written as UTF-8. -/
  | utf8
  deriving DecidableEq, Repr, Inhabited

/-- The escaped form of one character inside a string. -/
def escapeChar (style : Escapes := .ascii) (c : Char) : List Char :=
  match c with
  | '"' => ['\\', '"']
  | '\\' => ['\\', '\\']
  | '\n' => ['\\', 'n']
  | '\r' => ['\\', 'r']
  | '\t' => ['\\', 't']
  | _ =>
    let n := c.toNat
    if n == 8 then ['\\', 'b']
    else if n == 12 then ['\\', 'f']
    else if n < 0x20 then '\\' :: 'u' :: hex4 n
    else if n < 0x7F then [c]
    else match style with
      | .utf8 => [c]
      | .ascii t =>
        if n < 0x10000 then '\\' :: 'u' :: hex4 n
        else if let some u := t.surrogate? c then '\\' :: 'u' :: hex4 u
        else
          let v := n - 0x10000
          '\\' :: 'u' :: hex4 (0xD800 + v / 0x400) ++ '\\' :: 'u' :: hex4 (0xDC00 + v % 0x400)

/-- A string literal, quoted and escaped. -/
def quote (s : String) (style : Escapes := .ascii) : String :=
  String.ofList ('"' :: s.toList.flatMap (escapeChar style) ++ ['"'])

/-- The text of a number or constant. -/
def scalarText (style : Escapes := .ascii) : JsonValue → String
  | null => "null"
  | bool b => if b then "true" else "false"
  | int n => toString n
  | float x => Decimal.Layout.report.write x
  | str s => quote s style
  | _ => ""

mutual
/-- The document on one line, items separated by `, ` and keys by `: `, strings escaped in
`style`. -/
def compact (style : Escapes := .ascii) : JsonValue → String
  | arr items => "[" ++ compactItems style items ++ "]"
  | obj members => "\x7b" ++ compactMembers style members ++ "\x7d"
  | v => scalarText style v

/-- The items of an array on one line. -/
def compactItems (style : Escapes) : List JsonValue → String
  | [] => ""
  | [v] => compact style v
  | v :: rest => compact style v ++ ", " ++ compactItems style rest

/-- The members of an object on one line. -/
def compactMembers (style : Escapes) : List (String × JsonValue) → String
  | [] => ""
  | [(k, v)] => quote k style ++ ": " ++ compact style v
  | (k, v) :: rest => quote k style ++ ": " ++ compact style v ++ ", " ++ compactMembers style rest
end

/-- A line break followed by the indentation of `depth` levels of two spaces. -/
def newline (depth : Nat) : String := "\n" ++ String.ofList (List.replicate (2 * depth) ' ')

mutual
/-- The document with each item and member on a line of its own, indented two spaces a level
below `depth`, strings escaped in `style`. -/
def pretty (style : Escapes) (depth : Nat) : JsonValue → String
  | arr [] => "[]"
  | arr items => "[" ++ prettyItems style (depth + 1) items ++ newline depth ++ "]"
  | obj [] => "\x7b\x7d"
  | obj members => "\x7b" ++ prettyMembers style (depth + 1) members ++ newline depth ++ "\x7d"
  | v => scalarText style v

/-- The items of an array, one a line. -/
def prettyItems (style : Escapes) (depth : Nat) : List JsonValue → String
  | [] => ""
  | [v] => newline depth ++ pretty style depth v
  | v :: rest => newline depth ++ pretty style depth v ++ "," ++ prettyItems style depth rest

/-- The members of an object, one a line. -/
def prettyMembers (style : Escapes) (depth : Nat) : List (String × JsonValue) → String
  | [] => ""
  | [(k, v)] => newline depth ++ quote k style ++ ": " ++ pretty style depth v
  | (k, v) :: rest =>
    newline depth ++ quote k style ++ ": " ++ pretty style depth v ++ "," ++
      prettyMembers style depth rest
end

mutual
/-- Whether every integer of the document has at most `Text.maxDigits` digits. -/
def numeralsFit : JsonValue → Bool
  | int n => Text.fitsDigits n
  | arr items => itemsFit items
  | obj members => membersFit members
  | _ => true

/-- Whether every integer of the items fits. -/
def itemsFit : List JsonValue → Bool
  | [] => true
  | v :: rest => numeralsFit v && itemsFit rest

/-- Whether every integer of the members' values fits. -/
def membersFit : List (String × JsonValue) → Bool
  | [] => true
  | (_, v) :: rest => numeralsFit v && membersFit rest
end

/-- A text, or `null` when absent. -/
def optStr : Option String → JsonValue
  | some s => str s
  | none => null

/-- An integer, or `null` when absent. -/
def optInt : Option Int → JsonValue
  | some n => int n
  | none => null

/-- A list of texts. -/
def strs (xs : List String) : JsonValue := arr (xs.map str)

end JsonValue

end ReviewPrep
