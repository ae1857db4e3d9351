import CardToolkit.Text.Hex
import CardToolkit.Text.Quoted
import CardToolkit.Wire.Vocabulary

/-!
# Faults

What can go wrong, by its cause: the link to the modem fails, a message does not
fit its frame, a byte stands for no symbol, a parameter is refused, the service
has stopped. A message that the protocol has no use for is not a fault; it is
passed over (see `CardToolkit.Engine.Reaction`).

* `Fault.message`: the words for a fault;
* `symbol`: the symbol of a byte, or the fault that there is none.
-/

namespace CardToolkit

/-- Why a message does not fit its frame. -/
inductive EncodingFault
  /-- The value of an object has more bytes than a length can tell. -/
  | valueTooLong (length : Nat)
  /-- An envelope lacks its tag or its length. -/
  | envelopeTooShort
  /-- The content of an envelope has more bytes than a length can tell. -/
  | contentTooLong (length : Nat)
  /-- Another cause, in words. -/
  | described (text : String)
  deriving DecidableEq

namespace EncodingFault

/-- The words for an encoding fault. -/
def message : EncodingFault → String
  | valueTooLong length => "TLV length " ++ toString length ++ " exceeds 255"
  | envelopeTooShort => "envelope shorter than its tag and length"
  | contentTooLong length => "envelope content " ++ toString length ++ " exceeds 255"
  | described text => text

end EncodingFault

/-- Why a parameter is refused. -/
inductive ParameterFault
  /-- The language is empty, or not in ASCII. -/
  | language (code : String)
  /-- There is no room for an event. -/
  | noEventCapacity
  /-- There is no room for a message. -/
  | noMailboxCapacity
  /-- Another cause, in words. -/
  | described (text : String)
  deriving DecidableEq

namespace ParameterFault

/-- The words for a parameter fault. -/
def message : ParameterFault → String
  | language code => "language must be a non-empty ASCII code, got " ++ Text.quoted code
  | noEventCapacity => "event_capacity must be at least 1"
  | noMailboxCapacity => "mailbox_capacity must be at least 1"
  | described text => text

end ParameterFault

/-- What can go wrong. -/
inductive Fault
  /-- The link did not take a request, for a reason of its own. -/
  | link (reason : String)
  /-- A message does not fit its frame. -/
  | encoding (cause : EncodingFault)
  /-- No symbol of the vocabulary `kind` has this byte. -/
  | unknownValue (kind : String) (value : UInt8)
  /-- A parameter is refused. -/
  | parameter (cause : ParameterFault)
  /-- The service has stopped. -/
  | notRunning
  deriving DecidableEq

namespace Fault

/-- The words for a fault. -/
def message : Fault → String
  | link reason => "transport error: " ++ reason
  | encoding cause => "encoding error: " ++ cause.message
  | unknownValue kind value =>
    "unknown " ++ kind ++ " value: 0x" ++ String.ofList (Hex.byteDigits value)
  | parameter cause => "invalid parameter: " ++ cause.message
  | notRunning => "CAT service not running"

end Fault

/-- The symbol of a byte, or the fault that the vocabulary has none. -/
def symbol (α : Type) [Vocabulary α] (b : UInt8) : Except Fault α :=
  match Vocabulary.ofByte? b with
  | some a => .ok a
  | none => .error (.unknownValue (Vocabulary.kind α) b)

end CardToolkit
