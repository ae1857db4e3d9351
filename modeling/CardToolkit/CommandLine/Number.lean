import CardToolkit.Text.Hex

/-!
# Bytes as arguments

A byte is given on the command line in hexadecimal or in decimal digits.

* `hexByte`: hexadecimal, after an optional `0x` and an optional plus sign. The
  digits are read from the left, and the first one that is no digit, or by which
  the number grows beyond a byte, decides what is wrong (`ByteFault`). Whether it
  does so is not tested where the digits are two at most.
* `decimalByte?`: decimal, after an optional sign; only zero may be negative.
-/

namespace CardToolkit.CommandLine

/-- Why a text is not a byte in hexadecimal. -/
inductive ByteFault
  /-- There is no digit. -/
  | empty
  /-- There is something else than a digit. -/
  | invalidDigit
  /-- The number is larger than a byte. -/
  | overflow
  deriving DecidableEq

/-- The fault in words. -/
def ByteFault.message : ByteFault → String
  | .empty => "invalid hex byte: cannot parse integer from empty string"
  | .invalidDigit => "invalid hex byte: invalid digit found in string"
  | .overflow => "invalid hex byte: number too large to fit in target type"

/-- The number of digits behind the number `n`. -/
def hexDigits (n : Nat) : List Char → Except ByteFault Nat
  | [] => .ok n
  | c :: cs =>
    match Hex.digitValue? c with
    | none => .error .invalidDigit
    -- The number is tested digit by digit: a digit too many may hide a wrong one.
    | some d => if 16 * n + d < 256 then hexDigits (16 * n + d) cs else .error .overflow

/-- The byte of digits behind the byte `n`, however large their number grows. -/
def fewHexDigits (n : UInt8) : List Char → Except ByteFault UInt8
  | [] => .ok n
  | c :: cs =>
    match Hex.digitValue? c with
    | none => .error .invalidDigit
    | some d => fewHexDigits (16 * n + UInt8.ofNat d) cs

/-- The byte of digits, of which there is at least one. -/
def byteOfHexDigits (cs : List Char) : Except ByteFault UInt8 :=
  -- In octets there may be more than two where a character is no digit, which is refused
  -- either way.
  if cs.length ≤ 2 then fewHexDigits 0 cs else (hexDigits 0 cs).map UInt8.ofNat

/-- The text without a `0x` in front, of which either letter is upper or lower. -/
def withoutHexMark : List Char → List Char
  | '0' :: 'x' :: cs => cs
  | '0' :: 'X' :: cs => cs
  | cs => cs

/-- The text without a plus sign in front, unless there is nothing else. -/
def withoutPlus : List Char → List Char
  | '+' :: c :: cs => c :: cs
  | cs => cs

/-- The byte of characters behind the mark. -/
def hexNumber : List Char → Except ByteFault UInt8
  | [] => .error .empty
  | c :: cs => byteOfHexDigits (withoutPlus (c :: cs))

/-- The byte of a text in hexadecimal. -/
def hexByte (text : String) : Except ByteFault UInt8 := hexNumber (withoutHexMark text.toList)

/-- The number of a text that has only decimal digits, and at least one. -/
def decimal? (cs : List Char) : Option Nat :=
  if cs ≠ [] ∧ cs.all Char.isDigit then some (cs.foldl (fun n c => 10 * n + (c.toNat - 0x30)) 0)
  else none

/-- The byte of characters in decimal. -/
def decimalNumber? : List Char → Option UInt8
  | '-' :: cs => (decimal? cs).bind fun n => if n = 0 then some 0 else none
  | '+' :: cs => (decimal? cs).bind fun n => if n < 256 then some (UInt8.ofNat n) else none
  | cs => (decimal? cs).bind fun n => if n < 256 then some (UInt8.ofNat n) else none

/-- The byte of a text in decimal. -/
def decimalByte? (text : String) : Option UInt8 := decimalNumber? text.toList

end CardToolkit.CommandLine
