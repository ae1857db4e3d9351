import CardToolkit.Text.Hidden

/-!
# Quoted text

A text between quotes, such that every character of it can be seen: the quote
and the backslash follow a backslash, the commonest controls have a letter, and
any other character that would not be seen (`isHidden`) is given by its number.
A text stands between double quotes, a character between single ones; the quote
of the other kind stands for itself.

* `quotedChar`: how a character is written between quotes of one kind;
* `quotedBy`: a text between quotes of one kind;
* `quoted`: a text between double quotes;
* `quotedCharacter`: a character between single quotes.
-/

namespace CardToolkit.Text

/-- The lower-case hexadecimal digits of a number. -/
def lowerHex (n : Nat) : List Char := Nat.toDigits 16 n

/-- A character as it is written between two of the character `quote`. -/
def quotedChar (quote c : Char) : List Char :=
  if c = '\x00' then ['\\', '0']
  else if c = '\t' then ['\\', 't']
  else if c = '\r' then ['\\', 'r']
  else if c = '\n' then ['\\', 'n']
  else if c = quote ∨ c = '\\' then ['\\', c]
  else if isHidden c then ['\\', 'u', '\x7b'] ++ lowerHex c.toNat ++ ['\x7d']
  else [c]

/-- The characters of a text between two of the character `quote`. -/
def quotedBy (quote : Char) (cs : List Char) : String :=
  String.ofList (quote :: cs.flatMap (quotedChar quote) ++ [quote])

/-- A text between double quotes. -/
def quoted (s : String) : String := quotedBy '\x22' s.toList

/-- A character between single quotes. -/
def quotedCharacter (c : Char) : String := quotedBy '\x27' [c]

end CardToolkit.Text
