import CardToolkit.CommandLine.Invocation
import CardToolkit.CommandLine.Lookup
import CardToolkit.Envelope
import CardToolkit.TerminalResponse

/-!
# Encoding on the command line

The commands that encode a message, from the values of their arguments to its
bytes in hexadecimal.

* `terminalResponse`, `menuSelection`, `eventDownload`: the text of a message, or
  why there is none (`CommandFault`).

Symbols are looked up before anything is encoded, in the order in which the
functions name them.
-/

namespace CardToolkit.CommandLine

/-- Why a command has no output. -/
inductive CommandFault
  /-- A text gives no symbol. -/
  | lookup (cause : LookupFault)
  /-- The further bytes of an event are not in hexadecimal. -/
  | info (cause : HexFault)
  /-- The toolkit has found a fault. -/
  | toolkit (cause : Fault)
  deriving DecidableEq

/-- The fault in words, a cause behind what it is the cause of. -/
def CommandFault.message : CommandFault → String
  | .lookup cause => cause.message
  | .info cause => "--added-info must be hex: " ++ cause.message
  | .toolkit cause => cause.message

/-- The command type of a text. -/
def commandType (text : String) : Except CommandFault CommandType :=
  (lookup "command type" text).mapError .lookup

/-- The result code of a text. -/
def resultCode (text : String) : Except CommandFault ResultCode :=
  (lookup "result code" text).mapError .lookup

/-- The event of a text. -/
def eventCode (text : String) : Except CommandFault EventCode :=
  (lookup "event" text).mapError .lookup

/-- The device of a text. -/
def device (text : String) : Except CommandFault Device :=
  (lookup "device identity" text).mapError .lookup

/-- The text of a message. -/
def hexText (bytes : Except EncodingFault (List UInt8)) : Except CommandFault String :=
  match bytes with
  | .ok bytes => .ok (Hex.encode bytes)
  | .error cause => .error (.toolkit (.encoding cause))

/-- The answer that the options of a terminal response give, if any: an entry
    goes before a text, and a text before yes or no. -/
def ResponseOptions.data (o : ResponseOptions) : Option AnswerData :=
  match o.item, o.text, o.yesNo with
  | some id, _, _ => some (.item id)
  | none, some text, _ => some (.text text (.ofFlags o.ucs2 o.packed))
  | none, none, some yes => some (.yesNo yes)
  | none, none, none => none

/-- The terminal response that the options describe, about a command of a type,
    with a result. -/
def ResponseOptions.response (o : ResponseOptions) (type : CommandType) (result : ResultCode) :
    TerminalResponse where
  details := { Details.ofType o.number type o.qualifier with required := !o.unmarked }
  result := result
  info := o.info
  data := o.data
  input := some { duration := o.duration.map fun interval => ⟨.second, interval⟩ }
  language := some o.language

/-- The text of a terminal response. -/
def terminalResponse (o : ResponseOptions) : Except CommandFault String := do
  let type ← commandType o.type
  let result ← resultCode o.result
  hexText (o.response type result).encode

/-- The text of a choice from the menu. -/
def menuSelection (item : UInt8) (help : Bool) : Except CommandFault String :=
  hexText (Envelope.menuSelection item help)

/-- The device that reports an event where none is given: the display tells when it is
    idle, the terminal tells all else. -/
def usualSource (event : EventCode) : Device :=
  if event = .idleScreenAvailable then .display else .terminal

/-- The device that reports an event: the one that is given, or the usual one. -/
def sourceOf (event : EventCode) : Option String → Except CommandFault Device
  | some text => device text
  | none => .ok (usualSource event)

/-- The text of a report of an event. -/
def eventDownload (event : String) (source : Option String) (info : String) :
    Except CommandFault String := do
  let event ← eventCode event
  let source ← sourceOf event source
  let bytes ← (Hex.decode info).mapError CommandFault.info
  hexText (Envelope.eventDownload event.value source.value Device.uicc.value bytes)

end CardToolkit.CommandLine
