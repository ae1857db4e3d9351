import CardToolkit.Tlv.Frame
import CardToolkit.Wire.Device
import CardToolkit.Wire.EventCode
import CardToolkit.Wire.Tag

/-!
# Envelopes

What the terminal tells the card of its own accord, in a frame:

* `Envelope.menuSelection`: the user chose an entry of the menu, or wants help
  on it;
* `Envelope.eventDownload`: an event happened that the card had asked for.

The report of an event closes with bytes of the one who reports it. Where the
event has an object of its own, these begin with the value of that object, of
which the envelope gives the tag and the length alone.
-/

namespace CardToolkit.Envelope

/-- The object of the devices between which the envelope runs. -/
def devicesObject (source destination : UInt8) : Object :=
  ⟨ObjectTag.deviceIdentities.marked, [source, destination]⟩

/-- The objects of a choice from the menu. -/
def menuObjects (item : UInt8) (help : Bool) : List Object :=
  [devicesObject Device.keypad.value Device.uicc.value, ⟨ObjectTag.itemId.marked, [item]⟩] ++
    if help then [⟨ObjectTag.helpRequest.value, []⟩] else []

/-- The user chose an entry of the menu, or wants help on it. -/
def menuSelection (item : UInt8) (help : Bool) : Except EncodingFault (List UInt8) :=
  Frame.wrap EnvelopeTag.menuSelection.value ((menuObjects item help).flatMap Object.bytes)

/-- The tag and the length of the object that an event has of its own. -/
def eventHeader (event : UInt8) : List UInt8 :=
  match (Vocabulary.ofByte? event : Option EventCode) with
  | some .languageSelection => [ObjectTag.language.marked, 0x02]
  | some .browserTermination => [ObjectTag.browserTerminationCause.marked, 0x01]
  | _ => []

/-- The objects in front of a report of an event. -/
def eventObjects (event source destination : UInt8) : List Object :=
  [⟨ObjectTag.eventList.marked, [event]⟩, devicesObject source destination]

/-- The content of a report of an event. -/
def eventContent (event source destination : UInt8) (info : List UInt8) : List UInt8 :=
  (eventObjects event source destination).flatMap Object.bytes ++ eventHeader event ++ info

/-- An event happened. -/
def eventDownload (event source destination : UInt8) (info : List UInt8) :
    Except EncodingFault (List UInt8) :=
  Frame.wrap EnvelopeTag.eventDownload.value (eventContent event source destination info)

/-- The device that reports an event: the display tells when it is idle, the
    terminal tells all else. -/
def eventSource (event : UInt8) : Device :=
  if event = EventCode.idleScreenAvailable.value then .display else .terminal

end CardToolkit.Envelope
