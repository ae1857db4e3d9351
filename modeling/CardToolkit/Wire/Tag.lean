import CardToolkit.Wire.Vocabulary

/-!
# Tags

Objects and envelopes open with a byte that says what they hold, the *tag*. The
tag of an object has seven bits; the eighth says that the receiver must
understand the object (`comprehensionRequired`), or refuse the message.

* `ObjectTag`, `EnvelopeTag`: the tags of objects and of envelopes;
* `markTag`: a tag byte, with or without the eighth bit.
-/

namespace CardToolkit

/-- The bit of a tag byte that requires the receiver to understand the object. -/
def comprehensionRequired : UInt8 := 0x80

/-- A tag byte, with the comprehension bit set if required. -/
def markTag (tag : UInt8) (required : Bool) : UInt8 :=
  if required then tag ||| comprehensionRequired else tag

/-- The tags of objects, without the comprehension bit. -/
inductive ObjectTag
  | commandDetails
  | deviceIdentities
  | result
  | duration
  | alphaId
  | address
  | ussdString
  | smsTpdu
  | textString
  | tone
  | item
  | itemId
  | responseLength
  | fileList
  | helpRequest
  | defaultText
  | eventList
  | iconId
  | itemIconIdList
  | immediateResponse
  | language
  | url
  | browserTerminationCause
  | textAttribute
  deriving DecidableEq

namespace ObjectTag

/-- Every object tag, in the order of the bytes. -/
def all : List ObjectTag :=
  [.commandDetails, .deviceIdentities, .result, .duration, .alphaId, .address, .ussdString,
    .smsTpdu, .textString, .tone, .item, .itemId, .responseLength, .fileList, .helpRequest,
    .defaultText, .eventList, .iconId, .itemIconIdList, .immediateResponse, .language, .url,
    .browserTerminationCause, .textAttribute]

/-- The byte of an object tag, without the comprehension bit. -/
def value : ObjectTag → UInt8
  | .commandDetails => 0x01
  | .deviceIdentities => 0x02
  | .result => 0x03
  | .duration => 0x04
  | .alphaId => 0x05
  | .address => 0x06
  | .ussdString => 0x0A
  | .smsTpdu => 0x0B
  | .textString => 0x0D
  | .tone => 0x0E
  | .item => 0x0F
  | .itemId => 0x10
  | .responseLength => 0x11
  | .fileList => 0x12
  | .helpRequest => 0x15
  | .defaultText => 0x17
  | .eventList => 0x19
  | .iconId => 0x1E
  | .itemIconIdList => 0x1F
  | .immediateResponse => 0x2B
  | .language => 0x2D
  | .url => 0x31
  | .browserTerminationCause => 0x34
  | .textAttribute => 0x50

/-- The name of an object tag. -/
def name : ObjectTag → String
  | .commandDetails => "COMMAND_DETAILS"
  | .deviceIdentities => "DEVICE_IDENTITIES"
  | .result => "RESULT"
  | .duration => "DURATION"
  | .alphaId => "ALPHA_ID"
  | .address => "ADDRESS"
  | .ussdString => "USSD_STRING"
  | .smsTpdu => "SMS_TPDU"
  | .textString => "TEXT_STRING"
  | .tone => "TONE"
  | .item => "ITEM"
  | .itemId => "ITEM_ID"
  | .responseLength => "RESPONSE_LENGTH"
  | .fileList => "FILE_LIST"
  | .helpRequest => "HELP_REQUEST"
  | .defaultText => "DEFAULT_TEXT"
  | .eventList => "EVENT_LIST"
  | .iconId => "ICON_ID"
  | .itemIconIdList => "ITEM_ICON_ID_LIST"
  | .immediateResponse => "IMMEDIATE_RESPONSE"
  | .language => "LANGUAGE"
  | .url => "URL"
  | .browserTerminationCause => "BROWSER_TERMINATION_CAUSE"
  | .textAttribute => "TEXT_ATTRIBUTE"

instance : Vocabulary ObjectTag where
  kind := "comprehension tag"
  all := all
  value := value
  name := name
  mem_all a := by cases a <;> decide
  nodup_value := by decide

/-- The byte of an object tag, with the comprehension bit. -/
def marked (t : ObjectTag) : UInt8 := t.value ||| comprehensionRequired

end ObjectTag

/-- The tags of proactive commands and envelopes. -/
inductive EnvelopeTag
  | proactiveCommand
  | menuSelection
  | eventDownload
  deriving DecidableEq

namespace EnvelopeTag

/-- Every envelope tag, in the order of the bytes. -/
def all : List EnvelopeTag :=
  [.proactiveCommand, .menuSelection, .eventDownload]

/-- The byte of an envelope tag. -/
def value : EnvelopeTag → UInt8
  | .proactiveCommand => 0xD0
  | .menuSelection => 0xD3
  | .eventDownload => 0xD6

/-- The name of an envelope tag. -/
def name : EnvelopeTag → String
  | .proactiveCommand => "PROACTIVE_COMMAND"
  | .menuSelection => "MENU_SELECTION"
  | .eventDownload => "EVENT_DOWNLOAD"

instance : Vocabulary EnvelopeTag where
  kind := "BER tag"
  all := all
  value := value
  name := name
  mem_all a := by cases a <;> decide
  nodup_value := by decide

end EnvelopeTag

end CardToolkit
