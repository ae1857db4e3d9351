import CardToolkit.Text.Quoted
import CardToolkit.Text.Utf8

/-!
# Hexadecimal text

Bytes as digits, two for each, the high one first. Writing uses upper-case
digits; reading takes either case and refuses anything else: an odd number of
digits before all, then the first byte that is no digit, with its place.

* `Hex.encode`: the digits of bytes;
* `Hex.decode`: the bytes of digits, or why there are none (`HexFault`);
* `decode_encode`: reading takes back what writing has put.
-/

namespace CardToolkit

/-- Why a text is not that of some bytes. -/
inductive HexFault
  /-- The number of digits is odd. -/
  | oddLength
  /-- The byte `b` at `position` is no digit. -/
  | notDigit (b : UInt8) (position : Nat)
  deriving DecidableEq

/-- The fault in words, a byte shown as the character of its number, quoted. -/
def HexFault.message : HexFault → String
  | .oddLength => "Odd number of digits"
  | .notDigit b position =>
    "Invalid character " ++ Text.quotedCharacter (Char.ofNat b.toNat) ++ " at position " ++
      toString position

namespace Hex

/-- The digit of a number below sixteen. -/
def digit (n : Nat) : Char := if n < 10 then Char.ofNat (0x30 + n) else Char.ofNat (0x37 + n)

/-- The number of a digit, in either case. -/
def digitValue? (c : Char) : Option Nat :=
  if '0' ≤ c ∧ c ≤ '9' then some (c.toNat - 0x30)
  else if 'A' ≤ c ∧ c ≤ 'F' then some (c.toNat - 0x37)
  else if 'a' ≤ c ∧ c ≤ 'f' then some (c.toNat - 0x57)
  else none

/-- A digit is read back. -/
theorem digitValue?_digit {n : Nat} (h : n < 16) : digitValue? (digit n) = some n := by
  revert n
  decide

/-- The two digits of a byte. -/
def byteDigits (b : UInt8) : List Char := [digit (b.toNat / 16), digit (b.toNat % 16)]

/-- The digits of bytes, one after the other. -/
def digits (bs : List UInt8) : List Char := bs.flatMap byteDigits

/-- The text of bytes. -/
def encode (bs : List UInt8) : String := String.ofList (digits bs)

@[simp] theorem digits_nil : digits [] = [] := rfl

@[simp] theorem digits_cons (b : UInt8) (bs : List UInt8) :
    digits (b :: bs) = byteDigits b ++ digits bs := rfl

@[simp] theorem length_digits (bs : List UInt8) : (digits bs).length = 2 * bs.length := by
  induction bs with
  | nil => rfl
  | cons b bs ih => simp [byteDigits, ih]; omega

/-- The number of the digit `b` at `position`. -/
def readDigit (position : Nat) (b : UInt8) : Except HexFault Nat :=
  match digitValue? (Char.ofNat b.toNat) with
  | some n => .ok n
  | none => .error (.notDigit b position)

/-- The bytes of digits, two by two, the first of which is at `position`. -/
def readPairs (position : Nat) : List UInt8 → Except HexFault (List UInt8)
  | [] => .ok []
  -- Not met through `decode`, which refuses an odd length first.
  | [_] => .error .oddLength
  | high :: low :: rest => do
    let h ← readDigit position high
    let l ← readDigit (position + 1) low
    let bs ← readPairs (position + 2) rest
    return UInt8.ofNat (16 * h + l) :: bs

/-- The bytes of a text: an odd length is refused first, then the first byte of
    the text that is no digit. -/
def decode (text : String) : Except HexFault (List UInt8) :=
  let bs := Text.utf8 text
  if bs.length % 2 = 1 then .error .oddLength else readPairs 0 bs

/-! ## Reading what was written -/

/-- A digit is one byte, which is read back. -/
theorem utf8EncodeChar_digit : ∀ n < 16,
    String.utf8EncodeChar (digit n) = [(digit n).toUInt8] ∧
      digitValue? (Char.ofNat (digit n).toUInt8.toNat) = some n := by
  decide

/-- The digits of a byte, followed by others, are read back. -/
theorem readPairs_byteDigits (position : Nat) (b : UInt8) (rest : List UInt8) :
    readPairs position ((byteDigits b).flatMap String.utf8EncodeChar ++ rest) =
      (readPairs (position + 2) rest).map (b :: ·) := by
  have hb := b.toNat_lt
  obtain ⟨hhigh, hhigh'⟩ := utf8EncodeChar_digit (b.toNat / 16) (by omega)
  obtain ⟨hlow, hlow'⟩ := utf8EncodeChar_digit (b.toNat % 16) (by omega)
  have hsum : UInt8.ofNat (16 * (b.toNat / 16) + b.toNat % 16) = b := by
    rw [Nat.div_add_mod, UInt8.ofNat_toNat]
  simp only [byteDigits, List.flatMap_cons, List.flatMap_nil, hhigh, hlow, List.append_nil,
    List.cons_append, List.nil_append, readPairs, readDigit, hhigh', hlow']
  cases readPairs (position + 2) rest with
  | error f => rfl
  | ok bs => exact congrArg (fun c => Except.ok (c :: bs)) hsum

/-- Bytes are read back. -/
theorem readPairs_digits (position : Nat) (bs : List UInt8) :
    readPairs position ((digits bs).flatMap String.utf8EncodeChar) = .ok bs := by
  induction bs generalizing position with
  | nil => rfl
  | cons b bs ih =>
    rw [digits_cons, List.flatMap_append, readPairs_byteDigits, ih]
    rfl

/-- Digits are as many bytes. -/
theorem length_utf8_digits (bs : List UInt8) :
    ((digits bs).flatMap String.utf8EncodeChar).length = 2 * bs.length := by
  induction bs with
  | nil => rfl
  | cons b bs ih =>
    have hb := b.toNat_lt
    simp only [digits_cons, byteDigits, List.flatMap_append, List.flatMap_cons, List.flatMap_nil,
      (utf8EncodeChar_digit (b.toNat / 16) (by omega)).1,
      (utf8EncodeChar_digit (b.toNat % 16) (by omega)).1, List.length_append, List.length_cons,
      List.length_nil, ih]
    omega

/-- Reading takes back what writing has put. -/
theorem decode_encode (bs : List UInt8) : decode (encode bs) = .ok bs := by
  have hutf8 : Text.utf8 (encode bs) = (digits bs).flatMap String.utf8EncodeChar := by
    rw [Text.utf8, encode, String.toList_ofList]
  simp only [decode, hutf8, length_utf8_digits, readPairs_digits]
  rw [if_neg (by omega)]

end Hex

end CardToolkit
