import CardToolkit.Text.Hex
import CardToolkit.Wire.CommandType

/-!
# Command details

Three bytes by which card and terminal refer to a command: its number, its type
and a qualifier. Two details are of the *same command* (`Details.SameCommand`) if all
three agree; that one of them was marked for comprehension and the other not
makes no difference.
-/

namespace CardToolkit

/-- The details of a command. -/
structure Details where
  /-- The card requires the terminal to understand the details. -/
  required : Bool := true
  /-- The number that the card gave the command. -/
  number : UInt8
  /-- The byte of the type, which may be that of no known type. -/
  typeByte : UInt8
  /-- Bits whose meaning depends on the type. -/
  qualifier : UInt8
  deriving DecidableEq

namespace Details

/-- The details of a command of a known type. -/
def ofType (number : UInt8) (type : CommandType) (qualifier : UInt8) : Details :=
  { number, typeByte := type.value, qualifier }

/-- The type of the command, if it is a known one. -/
def type? (d : Details) : Option CommandType := Vocabulary.ofByte? d.typeByte

/-- The details are of the same command: all but the mark agrees. -/
structure SameCommand (d e : Details) : Prop where
  number : d.number = e.number
  typeByte : d.typeByte = e.typeByte
  qualifier : d.qualifier = e.qualifier

/-- Whether the details are of the same command. -/
def same (d e : Details) : Bool :=
  d.number == e.number && d.typeByte == e.typeByte && d.qualifier == e.qualifier

theorem same_iff {d e : Details} : d.same e = true ↔ d.SameCommand e := by
  simp only [same, Bool.and_eq_true, beq_iff_eq]
  constructor
  · rintro ⟨⟨number, typeByte⟩, qualifier⟩
    exact ⟨number, typeByte, qualifier⟩
  · rintro ⟨number, typeByte, qualifier⟩
    exact ⟨⟨number, typeByte⟩, qualifier⟩

@[simp] theorem same_self (d : Details) : d.same d = true := same_iff.2 ⟨rfl, rfl, rfl⟩

/-- Details of the same command are of the same type. -/
theorem type?_congr {d e : Details} (h : d.SameCommand e) : d.type? = e.type? := by
  rw [type?, type?, h.typeByte]

@[simp] theorem type?_ofType (n : UInt8) (t : CommandType) (q : UInt8) :
    (ofType n t q).type? = some t := Vocabulary.ofByte?_value t

/-- The details in words: the number, the type by its name if it has one, and the
    qualifier. -/
def describe (d : Details) : String :=
  let type := match d.type? with
    | some t => t.name
    | none => "type=0x" ++ String.ofList (Hex.byteDigits d.typeByte)
  "#" ++ toString d.number.toNat ++ " " ++ type ++ " q=0x" ++
    String.ofList (Hex.byteDigits d.qualifier)

end Details

/-- The qualifier that asks for the language of the terminal. -/
def languageSetting : UInt8 := 0x04

end CardToolkit
