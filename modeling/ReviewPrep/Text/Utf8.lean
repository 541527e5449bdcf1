

/-!
# Decoding UTF-8

Bytes are read as UTF-8 one sequence at a time. A lead byte fixes the length of its sequence and
the range of its second byte; a sequence that breaks off is a fault covering the bytes read up to
the byte that does not fit, and a sequence cut short by the end of the input is a fault covering
the rest of the input. Strict decoding stops at the first fault; lossy decoding writes one
replacement character `U+FFFD` for each fault and goes on after it.
-/

namespace ReviewPrep.Text

/-- What is wrong with a byte sequence. -/
inductive Utf8Fault where
  /-- The byte cannot begin a sequence. -/
  | invalidStart
  /-- A byte of the sequence is out of range. -/
  | invalidContinuation
  /-- The input ends inside the sequence. -/
  | unexpectedEnd
  deriving DecidableEq, Repr

/-- The reason as reports state it. -/
def Utf8Fault.reason : Utf8Fault → String
  | .invalidStart => "invalid start byte"
  | .invalidContinuation => "invalid continuation byte"
  | .unexpectedEnd => "unexpected end of data"

/-- The reading of the bytes at one position. -/
inductive Utf8Step where
  /-- A character encoded in `width` bytes. -/
  | char (c : Char) (width : Nat)
  /-- A fault covering `span` bytes. -/
  | fault (f : Utf8Fault) (span : Nat)

/-- Whether a byte continues a sequence. -/
def isContinuation (b : Nat) : Bool := 0x80 ≤ b && b < 0xC0

/-- The low six bits of a continuation byte. -/
def payload (b : Nat) : Nat := b % 0x40

/-- Reads the sequence that starts with `b`, followed by `rest`. -/
def readSequence (b : Nat) (rest : List Nat) : Utf8Step :=
  if b < 0x80 then .char (Char.ofNat b) 1
  else if b < 0xC2 then .fault .invalidStart 1
  else if b < 0xE0 then
    match rest with
    | [] => .fault .unexpectedEnd 1
    | b1 :: _ =>
      if isContinuation b1 then .char (Char.ofNat ((b % 0x20) * 0x40 + payload b1)) 2
      else .fault .invalidContinuation 1
  else if b < 0xF0 then
    -- the second byte excludes overlong forms after `E0` and surrogates after `ED`
    let second (b1 : Nat) := isContinuation b1 && !(if b1 < 0xA0 then b == 0xE0 else b == 0xED)
    match rest with
    | [] => .fault .unexpectedEnd 1
    | [b1] => if second b1 then .fault .unexpectedEnd 2 else .fault .invalidContinuation 1
    | b1 :: b2 :: _ =>
      if !second b1 then .fault .invalidContinuation 1
      else if !isContinuation b2 then .fault .invalidContinuation 2
      else .char (Char.ofNat ((b % 0x10) * 0x1000 + payload b1 * 0x40 + payload b2)) 3
  else if b < 0xF5 then
    -- the second byte excludes overlong forms after `F0` and code points past `10FFFF` after `F4`
    let second (b1 : Nat) := isContinuation b1 && !(if b1 < 0x90 then b == 0xF0 else b == 0xF4)
    match rest with
    | [] => .fault .unexpectedEnd 1
    | [b1] => if second b1 then .fault .unexpectedEnd 2 else .fault .invalidContinuation 1
    | [b1, b2] =>
      if !second b1 then .fault .invalidContinuation 1
      else if !isContinuation b2 then .fault .invalidContinuation 2
      else .fault .unexpectedEnd 3
    | b1 :: b2 :: b3 :: _ =>
      if !second b1 then .fault .invalidContinuation 1
      else if !isContinuation b2 then .fault .invalidContinuation 2
      else if !isContinuation b3 then .fault .invalidContinuation 3
      else .char (Char.ofNat ((b % 0x08) * 0x40000 + payload b1 * 0x1000 + payload b2 * 0x40 +
        payload b3)) 4
  else .fault .invalidStart 1

/-- The first fault of a byte string: where it starts, how many bytes it covers, and why. -/
structure Utf8Error where
  /-- The position of the first byte of the fault. -/
  start : Nat
  /-- The number of bytes the fault covers. -/
  span : Nat
  /-- The first byte of the fault. -/
  byte : Nat
  /-- What is wrong. -/
  fault : Utf8Fault
  deriving DecidableEq, Repr

/-- Two lower-case hexadecimal digits. -/
def hexByte (n : Nat) : String :=
  let ds := Nat.toDigits 16 n
  String.ofList (List.replicate (2 - ds.length) '0' ++ ds)

/-- The report of a fault: one byte by its value, several by their range of positions. -/
def Utf8Error.message (e : Utf8Error) : String :=
  if e.span == 1 then
    "'utf-8' codec can't decode byte 0x" ++ hexByte e.byte ++ " in position " ++
      toString e.start ++ ": " ++ e.fault.reason
  else
    "'utf-8' codec can't decode bytes in position " ++ toString e.start ++ "-" ++
      toString (e.start + e.span - 1) ++ ": " ++ e.fault.reason

/-- Decodes bytes from position `pos`, stopping at the first fault. -/
def decodeStrictFrom (pos : Nat) : List Nat → Except Utf8Error (List Char)
  | [] => .ok []
  | b :: rest =>
    match readSequence b rest with
    | .char c w =>
      if _h : 0 < w then (decodeStrictFrom (pos + w) ((b :: rest).drop w)).map (c :: ·)
      else .ok []
    | .fault f s => .error ⟨pos, s, b, f⟩
termination_by bs => bs.length
decreasing_by simp only [List.length_drop, List.length_cons]; omega

/-- Decodes bytes, writing one replacement character for each fault. -/
def decodeLossyList : List Nat → List Char
  | [] => []
  | b :: rest =>
    let (c, w) := match readSequence b rest with
      | .char c w => (c, w)
      | .fault _ s => (Char.ofNat 0xFFFD, s)
    if _h : 0 < w then c :: decodeLossyList ((b :: rest).drop w) else [c]
termination_by bs => bs.length
decreasing_by simp only [List.length_drop, List.length_cons]; omega

/-- The text of UTF-8 bytes, or the first fault. -/
def decodeStrict (bytes : List UInt8) : Except Utf8Error String :=
  (decodeStrictFrom 0 (bytes.map UInt8.toNat)).map String.ofList

/-- The text of UTF-8 bytes, each fault replaced by `U+FFFD`. -/
def decodeLossy (bytes : List UInt8) : String :=
  String.ofList (decodeLossyList (bytes.map UInt8.toNat))

end ReviewPrep.Text

/-! ## Payloads

What callers hand over as a diff or as source code: text, bytes meant as UTF-8, or a value of
another kind, known by the name of its kind. Diffs read bytes leniently, each fault replaced by
`U+FFFD`; source code reads them strictly.
-/

namespace ReviewPrep

/-- Content handed over by a caller. -/
inductive Payload where
  /-- Text. -/
  | text (s : String)
  /-- Bytes, meant as UTF-8. -/
  | bytes (bs : List UInt8)
  /-- A value that is neither, named by its kind. -/
  | other (kind : String)
  deriving Inhabited

/-- Why a payload gives no text. -/
inductive PayloadError where
  /-- The payload is a value of another kind. -/
  | notText (kind : String)
  /-- The bytes are not UTF-8. -/
  | invalidUtf8 (e : Text.Utf8Error)
  deriving DecidableEq, Repr

namespace Payload

/-- The text of a payload, bytes read with each fault replaced; a value of another kind gives its
kind. -/
def lenientText : Payload → Except String String
  | .text s => .ok s
  | .bytes bs => .ok (Text.decodeLossy bs)
  | .other k => .error k

/-- The text of a payload, bytes read strictly. -/
def strictText : Payload → Except PayloadError String
  | .text s => .ok s
  | .bytes bs => (Text.decodeStrict bs).mapError .invalidUtf8
  | .other k => .error (.notText k)

end Payload

end ReviewPrep
