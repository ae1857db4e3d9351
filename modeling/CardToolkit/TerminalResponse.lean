import CardToolkit.Command.Basic
import CardToolkit.Text.Alphabet
import CardToolkit.Text.Septets
import CardToolkit.Text.Ucs2
import CardToolkit.Tlv.Object
import CardToolkit.Wire.Device
import CardToolkit.Wire.Tag

/-!
# Terminal responses

How a command went, as told to the card: objects one after the other, three of
which are always there — the details of the command, the devices and the result
— and at most one of which comes after them. That one is what the user chose,
entered or decided (`AnswerData`); without it, it may follow from the command
(`TerminalResponse.derived`): the time waited in vain for a key, or the language
that the card asks for.

* `AnswerData.object`: the object of an answer;
* `TerminalResponse.objects`: the objects of a response;
* `TerminalResponse.encode`: its bytes, or the fault that a value is too long.
-/

namespace CardToolkit

/-! ## Answers -/

/-- How a text is coded. -/
inductive Coding
  /-- In septets, eight of them in seven octets. -/
  | packed
  /-- In septets, one in an octet. -/
  | unpacked
  /-- In units of sixteen bits. -/
  | ucs2
  deriving DecidableEq

namespace Coding

/-- The coding that a question asks for: UCS2 goes before packed septets. -/
def ofFlags (ucs2 packed : Bool) : Coding :=
  if ucs2 then .ucs2 else if packed then .packed else .unpacked

/-- The byte of a coding in front of the text. -/
def scheme : Coding → UInt8
  | packed => 0x00
  | unpacked => 0x04
  | ucs2 => 0x08

/-- The bytes of a text. -/
def encode (coding : Coding) (text : String) : List UInt8 :=
  match coding with
  | packed => Text.Septets.pack (Text.Alphabet.encode text)
  | unpacked => Text.Alphabet.encode text
  | ucs2 => Text.Ucs2.encode text

end Coding

/-- What the user chose, entered or decided, or what the card asked to know. -/
inductive AnswerData
  /-- An entry of a menu. -/
  | item (id : UInt8)
  /-- A text, in the coding asked for. -/
  | text (text : String) (coding : Coding)
  /-- Yes or no. -/
  | yesNo (yes : Bool)
  /-- A language, by its code. -/
  | language (code : String)
  deriving DecidableEq

namespace AnswerData

/-- The object of a text string: the byte of its coding, and its bytes. -/
def textObject (scheme : UInt8) (bytes : List UInt8) : Object :=
  ⟨ObjectTag.textString.marked, scheme :: bytes⟩

/-- The byte that says yes or no. -/
def yesNoByte (yes : Bool) : UInt8 := if yes then 0x01 else 0x00

/-- The object of an answer. -/
def object : AnswerData → Object
  | item id => ⟨ObjectTag.itemId.marked, [id]⟩
  | text t coding => textObject coding.scheme (coding.encode t)
  | yesNo yes => textObject Coding.unpacked.scheme [yesNoByte yes]
  | language code => ⟨ObjectTag.language.value, Text.utf8 code⟩

end AnswerData

/-! ## Responses -/

/-- What a terminal response is made from. -/
structure TerminalResponse where
  /-- The details of the command that is answered. -/
  details : Details
  result : ResultCode
  /-- A byte that says more about the result. -/
  info : Option UInt8 := none
  /-- What the user chose, entered or decided. -/
  data : Option AnswerData := none
  /-- The question of the command. -/
  input : Option Input := none
  /-- The language of the terminal. -/
  language : Option String := none
  deriving DecidableEq

namespace TerminalResponse

/-- The object of the details: their tag is marked as the card had marked it. -/
def detailsObject (d : Details) : Object :=
  ⟨markTag ObjectTag.commandDetails.value d.required, [d.number, d.typeByte, d.qualifier]⟩

/-- The object of the devices: from the terminal to the card. It is never marked. -/
def devicesObject : Object :=
  ⟨ObjectTag.deviceIdentities.value, [Device.terminal.value, Device.uicc.value]⟩

/-- The object of the result. -/
def resultObject (result : ResultCode) (info : Option UInt8) : Object :=
  ⟨ObjectTag.result.marked, result.value :: info.toList⟩

/-- The object of a duration, which is told in seconds. -/
def durationObject (d : Duration) : Object :=
  ⟨ObjectTag.duration.value, [TimeUnit.second.value, d.interval]⟩

/-- The object that follows from the command where there is no answer. -/
def derived (r : TerminalResponse) : Option Object :=
  match r.details.type? with
  | some .getInkey =>
    if r.result = .noResponse then (r.input.bind Input.duration).map durationObject else none
  | some .provideLocalInformation =>
    if r.details.qualifier = languageSetting ∧ r.result = .ok then
      r.language.map fun code => (AnswerData.language code).object
    else none
  | _ => none

/-- The object that comes after the three that are always there. -/
def last (r : TerminalResponse) : Option Object :=
  match r.data with
  | some data => some data.object
  | none => r.derived

/-- The objects of a response. -/
def objects (r : TerminalResponse) : List Object :=
  [detailsObject r.details, devicesObject, resultObject r.result r.info] ++ r.last.toList

/-- The bytes of a response, or the fault that a value is too long. -/
def encode (r : TerminalResponse) : Except EncodingFault (List UInt8) :=
  (Object.emissions r.objects).result

end TerminalResponse

end CardToolkit
