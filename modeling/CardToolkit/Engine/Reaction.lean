import CardToolkit.Engine.Message
import CardToolkit.Envelope
import CardToolkit.Link
import CardToolkit.TerminalResponse

/-!
# Reactions

How the engine reacts to a message. It sends one request at most, and a
*reaction* says which, and what becomes of the slots in either case: when the
link takes the request, and when no request goes out. The events that it raises
do not depend on that.

* A command of the card is refused, passed over, answered at once, or forwarded
  to the host (`handling`); one that is forwarded waits for a reply, and some are
  acknowledged before. An acknowledgement that fails keeps no command from the
  host.
* A reply of the host is passed over unless it is to the command that waits, or
  to a menu or a list of events, which are replied to long after they were
  received (`isTimely`). It goes to the card as a terminal response, an envelope
  or a decision on a call, and only one that the link took ends the wait.
* The end of the session brings the menu back; a card that starts again, or is
  taken out, leaves nothing to remember.

Reading a command that has no use here, and a reply that comes too late, are no
faults: nothing is sent, and the result is a success.
-/

namespace CardToolkit

/-- What the engine does about a message. -/
structure Reaction where
  /-- The events that are raised. -/
  events : List Event := []
  /-- The request that is sent, or the fault that it has no bytes. -/
  request : Option (Except EncodingFault Request) := none
  /-- The slots once the link has taken the request. -/
  taken : Slots
  /-- The slots if no request goes out. -/
  kept : Slots

namespace Reaction

/-- Nothing is done. -/
def pass (s : Slots) : Reaction := { taken := s, kept := s }

/-- A request is sent, and the slots stay. -/
def report (s : Slots) (request : Except EncodingFault Request) : Reaction :=
  { request := some request, taken := s, kept := s }

/-- A request is sent, which ends the wait of the command once it is taken. -/
def conclude (s : Slots) (request : Except EncodingFault Request) : Reaction :=
  { request := some request, taken := s.answered, kept := s }

/-- An event is raised, and the slots change. -/
def notice (s : Slots) (event : Event) : Reaction :=
  { events := [event], taken := s, kept := s }

/-- A command is shown to the host, waiting for a reply, after an
    acknowledgement if there is one. -/
def forward (s : Slots) (c : Command) (ack : Option (Except EncodingFault Request)) : Reaction :=
  { events := [.command c], request := ack, taken := s.waiting c, kept := s.waiting c }

end Reaction

namespace Engine

/-! ## Requests -/

/-- The request that passes a terminal response to the card. -/
def respond (r : TerminalResponse) : Except EncodingFault Request :=
  r.encode.map fun bytes => .terminalResponse (Hex.encode bytes)

/-- The request that passes an envelope to the card. -/
def deliver (envelope : Except EncodingFault (List UInt8)) : Except EncodingFault Request :=
  envelope.map fun bytes => .envelope (Hex.encode bytes)

/-- The request that tells the card a result and nothing of the user. -/
def acknowledge (language : String) (d : Details) (result : ResultCode) :
    Except EncodingFault Request :=
  respond { details := d, result, language := some language }

/-! ## Commands of the card -/

/-- What the engine does with a command that could be read. -/
inductive Handling
  /-- It is passed over. -/
  | drop
  /-- It is answered, and the host is not told. -/
  | answer (result : ResultCode)
  /-- It is shown to the host, after an acknowledgement if there is a result. -/
  | forward (command : Command) (ack : Option ResultCode)
  deriving DecidableEq

/-- What the engine does with a command, by its type. -/
def handling (c : Command) : Handling :=
  match c.type? with
  | none => .drop
  | some type =>
    match type with
    | .setUpMenu => .forward c (some c.shownResult)
    | .displayText | .setUpIdleModeText =>
      .forward c (if c.responseNeeded then none else some c.shownResult)
    -- Of a refresh the host is to see no more than that the idle text is gone.
    | .refresh => .forward (c.withType .setUpIdleModeText) none
    | .setUpEventList =>
      -- One event too many, and the host is not told of any.
      if c.eventsSupported then .forward c (some .ok) else .answer .beyondCapability
    | .provideLocalInformation | .closeChannel | .receiveData | .sendData | .getChannelStatus =>
      .answer .ok
    | .openChannel | .launchBrowser | .selectItem | .getInput | .getInkey | .sendDtmf | .sendSms
    | .sendSs | .sendUssd | .playTone | .setUpCall => .forward c none
    | .moreTime | .pollInterval | .pollingOff | .timerManagement | .languageNotification => .drop

/-- The menu that is remembered once a command was read: a new one, none if it
    was withdrawn, and the same if the command is about something else. -/
def menuAfter (menu : Option Command) (c : Command) : Option Command :=
  if c.type? = some .setUpMenu then
    if c.removesMenu then none else some c
  else menu

/-- The reaction to a command that could be read. -/
def onCommand (language : String) (s : Slots) (c : Command) : Reaction :=
  match handling c with
  | .drop => .pass s
  | .answer result => .report s (acknowledge language c.details result)
  | .forward c' ack =>
    .forward { s with menu := menuAfter s.menu c } c' (ack.map (acknowledge language c'.details))

/-- The details under which a command is answered that could not be read: number
    zero, and the type of the command that waits, if there is one. -/
def unreadableDetails (s : Slots) : Details where
  required := true
  number := 0
  typeByte := match s.outstanding with
    | some c => c.details.typeByte
    | none => 0x00
  qualifier := 0

/-! ## Replies of the host -/

/-- The reply is to the command that waits, or to a menu or a list of events. -/
def isTimely (s : Slots) (r : Reply) : Bool :=
  match r.details.type? with
  | some .setUpEventList | some .setUpMenu => true
  -- A type that is not known is no exception: its bytes are compared as well.
  | _ => s.awaits r.details

/-- The details under which a reply goes to the card: those that the card gave
    the command that waits, if the reply is to it. -/
def replyDetails (s : Slots) (r : Reply) : Details :=
  match s.outstanding with
  | some c => if c.details.same r.details then c.details else r.details
  | none => r.details

/-- The question of the command that waits. -/
def question (s : Slots) : Option Input := s.outstanding.bind fun c => c.payload.input?

/-- The results that come with what the user did: success, a wish for help, or a
    page that did not open. -/
def isPositive (r : ResultCode) : Bool :=
  r.isSuccess || r == .helpRequired || r == .launchBrowserError

/-- The results that say that the user did nothing, or went away. -/
def isNegative (r : ResultCode) : Bool :=
  r == .noResponse || r == .sessionEndedByUser || r == .backwardMove

/-- The answer in a reply to a question: yes or no, or a text unless the user
    wants help. -/
def questionData (i : Input) (r : Reply) : Option AnswerData :=
  if i.yesNo then some (.yesNo r.yes)
  else if r.result = .helpRequired then none
  else some (.text (r.text.getD "") (.ofFlags i.ucs2 i.packed))

/-- The reaction that takes a reply to the card in a terminal response. -/
def respondTo (language : String) (s : Slots) (r : Reply) (data : Option AnswerData) : Reaction :=
  .conclude s (respond
    { details := replyDetails s r
      result := r.result
      info := r.info
      data
      input := question s
      language := some language })

/-- The reaction to a choice from the menu, if there is one. -/
def onMenuChoice (s : Slots) (r : Reply) : Reaction :=
  match s.menu with
  | none => .pass s
  | some _ => .conclude s (deliver (Envelope.menuSelection r.item (r.result == .helpRequired)))

/-- The reaction to the report of an event. -/
def onEventReport (s : Slots) (r : Reply) : Reaction :=
  .conclude s (deliver (Envelope.eventDownload r.event (Envelope.eventSource r.event).value
    Device.uicc.value r.eventInfo))

/-- The reaction to a timely reply with what the user did. -/
def onPositiveReply (language : String) (s : Slots) (r : Reply) : Reaction :=
  match (replyDetails s r).type? with
  | some .setUpMenu => onMenuChoice s r
  | some .setUpEventList => onEventReport s r
  | some .setUpCall => .conclude s (.ok (.callSetup r.accepted))
  | some .selectItem => respondTo language s r (some (.item r.item))
  | some .getInput | some .getInkey =>
    -- A command of this type may have come without a question of its own.
    respondTo language s r (questionData ((question s).getD {}) r)
  | _ => respondTo language s r none

/-- The reaction to a reply. -/
def onReply (language : String) (s : Slots) (r : Reply) : Reaction :=
  if isTimely s r then
    if isPositive r.result then onPositiveReply language s r
    else if isNegative r.result then respondTo language s r none
    else .pass s
  else .pass s

/-! ## Messages -/

/-- The reaction to a message. -/
def react (language : String) (s : Slots) : Message → Reaction
  | .command c reading =>
    if reading = .ok then onCommand language s c
    else .report s (acknowledge language c.details reading)
  | .unreadable reading => .report s (acknowledge language (unreadableDetails s) reading)
  | .reply r => onReply language s r
  | .sessionEnd => .notice { s with outstanding := s.menu } .sessionEnded
  | .refreshed outcome =>
    .notice (if outcome = .fileUpdate then s else {}) (.cardStatus true (some outcome))
  | .cardAbsent => .notice {} (.cardStatus false none)

end Engine

end CardToolkit
