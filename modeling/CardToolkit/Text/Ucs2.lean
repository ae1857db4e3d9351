/-!
# UCS2

A text in units of sixteen bits, the high byte first: one unit for a character
of the first plane, a pair of *surrogates* for any other. Surrogates are no
characters, so that a pair is never mistaken for two units.

* `Ucs2.encode`: the bytes of a text;
* `Ucs2.decode`: the text of bytes, if they are that of one.
-/

namespace CardToolkit.Text.Ucs2

/-- The two bytes of a unit, the high one first. -/
def unitBytes (u : Nat) : List UInt8 := [UInt8.ofNat (u / 256), UInt8.ofNat (u % 256)]

/-- The units of a character. -/
def units (c : Char) : List Nat :=
  let n := c.toNat
  if n < 0x10000 then [n]
  else [0xD800 + (n - 0x10000) / 0x400, 0xDC00 + (n - 0x10000) % 0x400]

/-- The units of a text. -/
def unitsOf (text : String) : List Nat := text.toList.flatMap units

/-- The bytes of a text. -/
def encode (text : String) : List UInt8 := (unitsOf text).flatMap unitBytes

/-- The units of bytes, if their number is even. -/
def unitsOfBytes : List UInt8 → Option (List Nat)
  | [] => some []
  | [_] => none
  | high :: low :: rest =>
    (unitsOfBytes rest).map fun us => (256 * high.toNat + low.toNat) :: us

/-- The unit is the first of a pair. -/
def isHighSurrogate (u : Nat) : Bool := 0xD800 ≤ u && u < 0xDC00

/-- The unit is the second of a pair. -/
def isLowSurrogate (u : Nat) : Bool := 0xDC00 ≤ u && u < 0xE000

/-- The characters of units, if every surrogate is in a pair. -/
def charsOfUnits : List Nat → Option (List Char)
  | [] => some []
  | [u] => if isHighSurrogate u || isLowSurrogate u then none else some [Char.ofNat u]
  | u :: v :: rest =>
    if isHighSurrogate u then
      if isLowSurrogate v then
        (charsOfUnits rest).map fun cs =>
          Char.ofNat (0x10000 + (u - 0xD800) * 0x400 + (v - 0xDC00)) :: cs
      else none
    else if isLowSurrogate u then none
    else (charsOfUnits (v :: rest)).map fun cs => Char.ofNat u :: cs

/-- The characters of bytes, if they are those of a text. -/
def decode (bs : List UInt8) : Option (List Char) := (unitsOfBytes bs).bind charsOfUnits

end CardToolkit.Text.Ucs2
