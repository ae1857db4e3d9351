import CardToolkit.Wire.Vocabulary

/-!
# Result codes

How a command went, as told in a terminal response. The codes up to
`toneNotPlayed` say that the command was performed, fully or in part
(`ResultCode.isSuccess`); those from `0x10` on that it was not, for a reason of
the user, of the moment, or for good.
-/

namespace CardToolkit

/-- The general result of a command. -/
inductive ResultCode
  | ok
  | partialComprehension
  | missingInfo
  | additionalFilesRead
  /-- Performed, but the requested icon could not be shown. -/
  | iconNotDisplayed
  | modifiedByApplication
  | limitedService
  | withModification
  | applicationNotActive
  | toneNotPlayed
  | sessionEndedByUser
  | backwardMove
  | noResponse
  | helpRequired
  | ussdEndedByUser
  | terminalBusy
  | networkBusy
  | userDeclined
  | userClearedCall
  | timerContradiction
  | callControlTemporary
  | launchBrowserError
  | mmsTemporary
  | beyondCapability
  | typeNotUnderstood
  | dataNotUnderstood
  | numberNotKnown
  | ssReturnError
  | smsRpError
  | valuesMissing
  | ussdReturnError
  | multipleCardError
  | callControlPermanent
  | bearerError
  | accessTechnologyError
  | framesError
  | mmsError
  deriving DecidableEq

namespace ResultCode

/-- Every result code, in the order of the bytes. -/
def all : List ResultCode :=
  [.ok, .partialComprehension, .missingInfo, .additionalFilesRead, .iconNotDisplayed,
    .modifiedByApplication, .limitedService, .withModification, .applicationNotActive,
    .toneNotPlayed, .sessionEndedByUser, .backwardMove, .noResponse, .helpRequired,
    .ussdEndedByUser, .terminalBusy, .networkBusy, .userDeclined, .userClearedCall,
    .timerContradiction, .callControlTemporary, .launchBrowserError, .mmsTemporary,
    .beyondCapability, .typeNotUnderstood, .dataNotUnderstood, .numberNotKnown, .ssReturnError,
    .smsRpError, .valuesMissing, .ussdReturnError, .multipleCardError, .callControlPermanent,
    .bearerError, .accessTechnologyError, .framesError, .mmsError]

/-- The byte of a result code. -/
def value : ResultCode → UInt8
  | .ok => 0x00
  | .partialComprehension => 0x01
  | .missingInfo => 0x02
  | .additionalFilesRead => 0x03
  | .iconNotDisplayed => 0x04
  | .modifiedByApplication => 0x05
  | .limitedService => 0x06
  | .withModification => 0x07
  | .applicationNotActive => 0x08
  | .toneNotPlayed => 0x09
  | .sessionEndedByUser => 0x10
  | .backwardMove => 0x11
  | .noResponse => 0x12
  | .helpRequired => 0x13
  | .ussdEndedByUser => 0x14
  | .terminalBusy => 0x20
  | .networkBusy => 0x21
  | .userDeclined => 0x22
  | .userClearedCall => 0x23
  | .timerContradiction => 0x24
  | .callControlTemporary => 0x25
  | .launchBrowserError => 0x26
  | .mmsTemporary => 0x27
  | .beyondCapability => 0x30
  | .typeNotUnderstood => 0x31
  | .dataNotUnderstood => 0x32
  | .numberNotKnown => 0x33
  | .ssReturnError => 0x34
  | .smsRpError => 0x35
  | .valuesMissing => 0x36
  | .ussdReturnError => 0x37
  | .multipleCardError => 0x38
  | .callControlPermanent => 0x39
  | .bearerError => 0x3A
  | .accessTechnologyError => 0x3B
  | .framesError => 0x3C
  | .mmsError => 0x3D

/-- The name of a result code. -/
def name : ResultCode → String
  | .ok => "OK"
  | .partialComprehension => "PRFRMD_WITH_PARTIAL_COMPREHENSION"
  | .missingInfo => "PRFRMD_WITH_MISSING_INFO"
  | .additionalFilesRead => "PRFRMD_WITH_ADDITIONAL_EFS_READ"
  | .iconNotDisplayed => "PRFRMD_ICON_NOT_DISPLAYED"
  | .modifiedByApplication => "PRFRMD_MODIFIED_BY_NAA"
  | .limitedService => "PRFRMD_LIMITED_SERVICE"
  | .withModification => "PRFRMD_WITH_MODIFICATION"
  | .applicationNotActive => "PRFRMD_NAA_NOT_ACTIVE"
  | .toneNotPlayed => "PRFRMD_TONE_NOT_PLAYED"
  | .sessionEndedByUser => "UICC_SESSION_TERM_BY_USER"
  | .backwardMove => "BACKWARD_MOVE_BY_USER"
  | .noResponse => "NO_RESPONSE_FROM_USER"
  | .helpRequired => "HELP_INFO_REQUIRED"
  | .ussdEndedByUser => "USSD_SS_SESSION_TERM_BY_USER"
  | .terminalBusy => "TERMINAL_CRNTLY_UNABLE_TO_PROCESS"
  | .networkBusy => "NETWORK_CRNTLY_UNABLE_TO_PROCESS"
  | .userDeclined => "USER_NOT_ACCEPT"
  | .userClearedCall => "USER_CLEAR_DOWN_CALL"
  | .timerContradiction => "CONTRADICTION_WITH_TIMER"
  | .callControlTemporary => "NAA_CALL_CONTROL_TEMPORARY"
  | .launchBrowserError => "LAUNCH_BROWSER_ERROR"
  | .mmsTemporary => "MMS_TEMPORARY"
  | .beyondCapability => "BEYOND_TERMINAL_CAPABILITY"
  | .typeNotUnderstood => "CMD_TYPE_NOT_UNDERSTOOD"
  | .dataNotUnderstood => "CMD_DATA_NOT_UNDERSTOOD"
  | .numberNotKnown => "CMD_NUM_NOT_KNOWN"
  | .ssReturnError => "SS_RETURN_ERROR"
  | .smsRpError => "SMS_RP_ERROR"
  | .valuesMissing => "REQUIRED_VALUES_MISSING"
  | .ussdReturnError => "USSD_RETURN_ERROR"
  | .multipleCardError => "MULTI_CARDS_CMD_ERROR"
  | .callControlPermanent => "USIM_CALL_CONTROL_PERMANENT"
  | .bearerError => "BIP_ERROR"
  | .accessTechnologyError => "ACCESS_TECH_UNABLE_TO_PROCESS"
  | .framesError => "FRAMES_ERROR"
  | .mmsError => "MMS_ERROR"

instance : Vocabulary ResultCode where
  kind := "result code"
  all := all
  value := value
  name := name
  mem_all a := by cases a <;> decide
  nodup_value := by decide

/-- The command was performed, fully or in part. -/
def isSuccess (r : ResultCode) : Bool := r.value ≤ toneNotPlayed.value

theorem isSuccess_iff {r : ResultCode} : r.isSuccess = true ↔ r.value < 0x10 := by
  cases r <;> decide

end ResultCode

end CardToolkit
