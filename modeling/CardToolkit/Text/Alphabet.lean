/-!
# The default alphabet

The alphabet of short messages: a *septet*, a number below 128, for each of its
127 characters, and two septets, the *escape* and one more, for each of the ten
characters of its extension. A character of neither is written as a question
mark.

* `Alphabet.encode`: a text as septets, one in a byte;
* `Alphabet.decode`: the text of septets, if they are that of one.

The place of the escape in the alphabet holds no character (`vacant` stands
there and is never matched), so that a septet read alone and the second of a
pair are never mistaken for each other.
-/

namespace CardToolkit.Text.Alphabet

/-- The septet that announces a character of the extension. -/
def escape : UInt8 := 0x1B

/-- The septet written for a character that has none: a question mark. -/
def substitute : UInt8 := 0x3F

/-- What stands in the place of the escape, and is no character of the alphabet. -/
def vacant : Char := '\uffff'

/-- The default alphabet, each character in the place of its septet. -/
def basic : List Char :=
  ['@', '£', '$', '¥', 'è', 'é', 'ù', 'ì', 'ò', 'Ç', '\n', 'Ø', 'ø', '\r', 'Å', 'å',
    'Δ', '_', 'Φ', 'Γ', 'Λ', 'Ω', 'Π', 'Ψ', 'Σ', 'Θ', 'Ξ', vacant, 'Æ', 'æ', 'ß', 'É',
    ' ', '!', '\x22', '#', '¤', '%', '&', '\x27', '(', ')', '*', '+', ',', '-', '.', '/',
    '0', '1', '2', '3', '4', '5', '6', '7', '8', '9', ':', ';', '<', '=', '>', '?',
    '¡', 'A', 'B', 'C', 'D', 'E', 'F', 'G', 'H', 'I', 'J', 'K', 'L', 'M', 'N', 'O',
    'P', 'Q', 'R', 'S', 'T', 'U', 'V', 'W', 'X', 'Y', 'Z', 'Ä', 'Ö', 'Ñ', 'Ü', '§',
    '¿', 'a', 'b', 'c', 'd', 'e', 'f', 'g', 'h', 'i', 'j', 'k', 'l', 'm', 'n', 'o',
    'p', 'q', 'r', 's', 't', 'u', 'v', 'w', 'x', 'y', 'z', 'ä', 'ö', 'ñ', 'ü', 'à']

/-- The extension: characters with the septet that follows the escape. -/
def extension : List (UInt8 × Char) :=
  [(0x0A, '\x0c'), (0x14, '^'), (0x28, '\x7b'), (0x29, '\x7d'), (0x2F, '\\'), (0x3C, '['),
    (0x3D, '~'), (0x3E, ']'), (0x40, '|'), (0x65, '€')]

/-! ## Writing -/

/-- The septet of a character of the default alphabet. -/
def basicSeptet? (c : Char) : Option UInt8 :=
  if c = vacant then none else (basic.idxOf? c).map UInt8.ofNat

/-- The septet, after the escape, of a character of the extension. -/
def extensionSeptet? (c : Char) : Option UInt8 :=
  (extension.find? fun entry => entry.2 == c).map Prod.fst

/-- The septets of a character: one, two, or the substitute. -/
def septets (c : Char) : List UInt8 :=
  match basicSeptet? c with
  | some s => [s]
  | none =>
    match extensionSeptet? c with
    | some s => [escape, s]
    | none => [substitute]

/-- The septets of the characters of a text. -/
def encodeChars (cs : List Char) : List UInt8 := cs.flatMap septets

/-- The septets of a text. -/
def encode (text : String) : List UInt8 := encodeChars text.toList

@[simp] theorem encodeChars_nil : encodeChars [] = [] := rfl

@[simp] theorem encodeChars_cons (c : Char) (cs : List Char) :
    encodeChars (c :: cs) = septets c ++ encodeChars cs := rfl

/-! ## Reading -/

/-- The character of a septet that stands alone. -/
def basicChar? (s : UInt8) : Option Char :=
  if s = escape then none else basic[s.toNat]?

/-- The character of a septet after the escape. -/
def extensionChar? (s : UInt8) : Option Char :=
  (extension.find? fun entry => entry.1 == s).map Prod.snd

/-- The characters of septets, read from the left, the escape together with the
    septet after it. -/
def decode : List UInt8 → Option (List Char)
  | [] => some []
  -- The escape is no character, so that nothing is read where it comes last.
  | [s] => (basicChar? s).map fun c => [c]
  | s :: t :: rest =>
    if s = escape then do
      let c ← extensionChar? t
      let cs ← decode rest
      return c :: cs
    else do
      let c ← basicChar? s
      let cs ← decode (t :: rest)
      return c :: cs

/-- The character that a reader finds for a written one: itself, or a question
    mark where the alphabet has no septets for it. -/
def readable (c : Char) : Char :=
  if (basicSeptet? c).isSome || (extensionSeptet? c).isSome then c else '?'

end CardToolkit.Text.Alphabet
