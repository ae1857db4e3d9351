import CardToolkit.Wire.Vocabulary

/-!
# Event codes

The events a card may ask to be told of. The terminal tells of three of them
(`EventCode.supported`); a list with any other is beyond it.
-/

namespace CardToolkit

/-- The events a card may ask for. -/
inductive EventCode
  | mtCall
  | callConnected
  | callDisconnected
  | locationStatus
  | userActivity
  | idleScreenAvailable
  | cardReaderStatus
  | languageSelection
  | browserTermination
  | dataAvailable
  | channelStatus
  deriving DecidableEq

namespace EventCode

/-- Every event, in the order of the bytes. -/
def all : List EventCode :=
  [.mtCall, .callConnected, .callDisconnected, .locationStatus, .userActivity,
    .idleScreenAvailable, .cardReaderStatus, .languageSelection, .browserTermination,
    .dataAvailable, .channelStatus]

/-- The byte of an event. -/
def value : EventCode → UInt8
  | .mtCall => 0x00
  | .callConnected => 0x01
  | .callDisconnected => 0x02
  | .locationStatus => 0x03
  | .userActivity => 0x04
  | .idleScreenAvailable => 0x05
  | .cardReaderStatus => 0x06
  | .languageSelection => 0x07
  | .browserTermination => 0x08
  | .dataAvailable => 0x09
  | .channelStatus => 0x0A

/-- The name of an event. -/
def name : EventCode → String
  | .mtCall => "MT_CALL"
  | .callConnected => "CALL_CONNECTED"
  | .callDisconnected => "CALL_DISCONNECTED"
  | .locationStatus => "LOCATION_STATUS"
  | .userActivity => "USER_ACTIVITY"
  | .idleScreenAvailable => "IDLE_SCREEN_AVAILABLE"
  | .cardReaderStatus => "CARD_READER_STATUS"
  | .languageSelection => "LANGUAGE_SELECTION"
  | .browserTermination => "BROWSER_TERMINATION"
  | .dataAvailable => "DATA_AVAILABLE"
  | .channelStatus => "CHANNEL_STATUS"

instance : Vocabulary EventCode where
  kind := "event code"
  all := all
  value := value
  name := name
  mem_all a := by cases a <;> decide
  nodup_value := by decide

/-- The events that the terminal reports by an event download. -/
def supported : List EventCode := [.browserTermination, .idleScreenAvailable, .languageSelection]

/-- The byte is that of an event which the terminal reports. -/
def isSupported (b : UInt8) : Bool := supported.any fun e => e.value == b

theorem isSupported_iff {b : UInt8} :
    isSupported b = true ↔ b ∈ ([0x05, 0x07, 0x08] : List UInt8) := by
  simp only [isSupported, supported, value, List.any_cons, List.any_nil, Bool.or_false,
    Bool.or_eq_true, beq_iff_eq, List.mem_cons, List.not_mem_nil, or_false]
  grind

end EventCode

end CardToolkit
