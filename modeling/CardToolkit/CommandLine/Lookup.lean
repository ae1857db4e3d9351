import CardToolkit.CommandLine.Number
import CardToolkit.Fault

/-!
# Symbols as arguments

A symbol is given on the command line by its name, in either case and with a
dash for an underscore, or else by its byte in hexadecimal.

* `lookup`: the symbol of a text, or why there is none (`LookupFault`).
-/

namespace CardToolkit.CommandLine

/-- Why a text gives no symbol, which is called a `label`. -/
inductive LookupFault
  /-- No symbol has this byte. -/
  | unknownValue (label : String) (value : UInt8)
  /-- The text is neither a name nor a byte. -/
  | unknownName (label : String) (text : String)
  deriving DecidableEq

/-- The fault in words. -/
def LookupFault.message : LookupFault → String
  | .unknownValue label value =>
    "unknown " ++ label ++ " value 0x" ++ String.ofList (Hex.byteDigits value)
  | .unknownName label text => "unknown " ++ label ++ " '" ++ text ++ "'"

/-- The characters of a text with underscores for dashes. -/
def dashesToUnderscores (text : String) : List Char :=
  text.toList.map fun c => if c = '-' then '_' else c

/-- The texts are equal but for the case of ASCII letters. -/
def equalIgnoringCase (cs ds : List Char) : Bool := cs.map Char.toLower == ds.map Char.toLower

variable {α : Type} [Vocabulary α]

/-- The first symbol whose name this is. -/
def byName? (text : String) : Option α :=
  Vocabulary.all.find? fun a =>
    equalIgnoringCase (Vocabulary.name a).toList (dashesToUnderscores text)

/-- The symbol of a text, by its name or by its byte. -/
def lookup (label : String) (text : String) : Except LookupFault α :=
  match byName? text with
  | some a => .ok a
  | none =>
    match hexByte text with
    | .error _ => .error (.unknownName label text)
    | .ok b =>
      match Vocabulary.ofByte? b with
      | some a => .ok a
      | none => .error (.unknownValue label b)

end CardToolkit.CommandLine
