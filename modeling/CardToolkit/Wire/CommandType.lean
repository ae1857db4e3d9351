import CardToolkit.Wire.Vocabulary

/-!
# Command types

What a proactive command asks of the terminal. The byte is the second of the
three that identify a command (`CardToolkit.Details`).
-/

namespace CardToolkit

/-- The types of proactive commands. -/
inductive CommandType
  | refresh
  | moreTime
  | pollInterval
  | pollingOff
  | setUpEventList
  | setUpCall
  | sendSs
  | sendUssd
  | sendSms
  | sendDtmf
  | launchBrowser
  | playTone
  | displayText
  | getInkey
  | getInput
  | selectItem
  | setUpMenu
  | provideLocalInformation
  | timerManagement
  | setUpIdleModeText
  | languageNotification
  | openChannel
  | closeChannel
  | receiveData
  | sendData
  | getChannelStatus
  deriving DecidableEq

namespace CommandType

/-- Every command type, in the order of the bytes. -/
def all : List CommandType :=
  [.refresh, .moreTime, .pollInterval, .pollingOff, .setUpEventList, .setUpCall, .sendSs,
    .sendUssd, .sendSms, .sendDtmf, .launchBrowser, .playTone, .displayText, .getInkey, .getInput,
    .selectItem, .setUpMenu, .provideLocalInformation, .timerManagement, .setUpIdleModeText,
    .languageNotification, .openChannel, .closeChannel, .receiveData, .sendData, .getChannelStatus]

/-- The byte of a command type. -/
def value : CommandType → UInt8
  | .refresh => 0x01
  | .moreTime => 0x02
  | .pollInterval => 0x03
  | .pollingOff => 0x04
  | .setUpEventList => 0x05
  | .setUpCall => 0x10
  | .sendSs => 0x11
  | .sendUssd => 0x12
  | .sendSms => 0x13
  | .sendDtmf => 0x14
  | .launchBrowser => 0x15
  | .playTone => 0x20
  | .displayText => 0x21
  | .getInkey => 0x22
  | .getInput => 0x23
  | .selectItem => 0x24
  | .setUpMenu => 0x25
  | .provideLocalInformation => 0x26
  | .timerManagement => 0x27
  | .setUpIdleModeText => 0x28
  | .languageNotification => 0x35
  | .openChannel => 0x40
  | .closeChannel => 0x41
  | .receiveData => 0x42
  | .sendData => 0x43
  | .getChannelStatus => 0x44

/-- The name of a command type. -/
def name : CommandType → String
  | .refresh => "REFRESH"
  | .moreTime => "MORE_TIME"
  | .pollInterval => "POLL_INTERVAL"
  | .pollingOff => "POLLING_OFF"
  | .setUpEventList => "SET_UP_EVENT_LIST"
  | .setUpCall => "SET_UP_CALL"
  | .sendSs => "SEND_SS"
  | .sendUssd => "SEND_USSD"
  | .sendSms => "SEND_SMS"
  | .sendDtmf => "SEND_DTMF"
  | .launchBrowser => "LAUNCH_BROWSER"
  | .playTone => "PLAY_TONE"
  | .displayText => "DISPLAY_TEXT"
  | .getInkey => "GET_INKEY"
  | .getInput => "GET_INPUT"
  | .selectItem => "SELECT_ITEM"
  | .setUpMenu => "SET_UP_MENU"
  | .provideLocalInformation => "PROVIDE_LOCAL_INFORMATION"
  | .timerManagement => "TIMER_MANAGEMENT"
  | .setUpIdleModeText => "SET_UP_IDLE_MODE_TEXT"
  | .languageNotification => "LANGUAGE_NOTIFICATION"
  | .openChannel => "OPEN_CHANNEL"
  | .closeChannel => "CLOSE_CHANNEL"
  | .receiveData => "RECEIVE_DATA"
  | .sendData => "SEND_DATA"
  | .getChannelStatus => "GET_CHANNEL_STATUS"

instance : Vocabulary CommandType where
  kind := "command type"
  all := all
  value := value
  name := name
  mem_all a := by cases a <;> decide
  nodup_value := by decide

end CommandType

end CardToolkit
