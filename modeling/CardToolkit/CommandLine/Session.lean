import CardToolkit.Service.Basic

/-!
# A session

A session between card and host, played from a script with a service between
them, and told line by line: what the host is told, and what the modem is asked.

* `Scene`: what happens next in a script;
* `Stage`: how far a script is played;
* `session`: the lines of the script of this module, in a language.

The host of the script always has seen what it was told before it replies, so
that it never falls behind, and a scene at which it looks at a command finds one.
-/

namespace CardToolkit.CommandLine

/-- What happens next in a session. -/
inductive Scene
  /-- A line is told. -/
  | say (line : String)
  /-- The service is called. -/
  | call (call : Call)
  /-- The host looks at what it is told, up to the next command. -/
  | look
  /-- The host replies to the command that it looked at last. -/
  | reply (reply : Details → Reply)
  /-- The service handles what waits, and the new requests to the modem are told. -/
  | flush
  /-- The command that waits for a reply is told. -/
  | tellOutstanding
  /-- The host looks at all that is left. -/
  | lookAtRest

/-- How far a session is played. -/
structure Stage where
  service : Service
  /-- The number of the host among the readers. -/
  reader : Nat
  /-- What the host was told and has not looked at. -/
  unseen : List Event := []
  /-- The command that the host looked at last. -/
  shown : Option Command := none
  /-- How many requests were told. -/
  told : Nat := 0
  lines : List String := []

/-! ## Lines -/

/-- The name of an outcome. -/
def outcomeWord : RefreshOutcome → String
  | .fileUpdate => "FileUpdate"
  | .init => "Init"
  | .reset => "Reset"

/-- The line of a request. -/
def requestLine : Request → String
  | .terminalResponse hex => "  -> TERMINAL RESPONSE " ++ hex
  | .envelope hex => "  -> ENVELOPE          " ++ hex
  | .callSetup accept => "  -> CALL SETUP        accept=" ++ toString accept
  | .serviceRunning => "  -> STK SERVICE RUNNING"

/-- The outcome in a line of an event. -/
def outcomeText : Option RefreshOutcome → String
  | none => "None"
  | some outcome => "Some(" ++ outcomeWord outcome ++ ")"

/-- What an event is, in words. -/
def eventText : Event → String
  | .command c => c.details.describe
  | .sessionEnded => "SessionEnded"
  | .cardStatus present refresh =>
    "IccStatusChanged \x7b card_present: " ++ toString present ++ ", refresh_result: " ++
      outcomeText refresh ++ " \x7d"

/-- The line of an event. -/
def eventLine (e : Event) : String := "  <- host event: " ++ eventText e

/-- The command that waits for a reply, in words. -/
def outstandingText : Option Details → String
  | none => "None"
  | some d => "Some(" ++ Text.quoted d.describe ++ ")"

/-! ## Playing -/

namespace Stage

/-- Lines are told. -/
def tell (s : Stage) (lines : List String) : Stage := { s with lines := s.lines ++ lines }

/-- The host is told what was raised on the feed. -/
def listen (s : Stage) : Stage :=
  match s.service.settle.receive s.reader with
  | none => s
  | some (service, received) =>
    { s with service, unseen := s.unseen ++ received.delivery.pending }

/-- The host looks at what it is told, up to the next command. -/
def look (s : Stage) : Stage :=
  let s := s.listen
  -- What comes before the command is told, and looked at with it.
  let before := s.unseen.takeWhile fun e => e.command?.isNone
  let s := s.tell (before.map eventLine)
  match s.unseen.drop before.length with
  | .command c :: rest => { s.tell [eventLine (.command c)] with shown := some c, unseen := rest }
  | rest => { s with unseen := rest }

/-- The new requests to the modem are told. -/
def flush (s : Stage) : Stage :=
  let service := s.service.settle
  let log := service.engine.link.log
  { s.tell ((log.drop s.told).map requestLine) with service, told := log.length }

/-- A scene is played. -/
def play (s : Stage) : Scene → Stage
  | .say line => s.tell [line]
  | .call c => { s with service := (s.service.call c).1 }
  | .look => s.look
  | .reply reply =>
    match s.shown with
    | some c => { s with service := (s.service.call (.reply (reply c.details))).1 }
    | none => s
  | .flush => s.flush
  | .tellOutstanding =>
    let service := s.service.settle
    let waiting := service.engine.slots.correlation.outstanding
    { s.tell ["  outstanding: " ++ outstandingText waiting] with service }
  | .lookAtRest =>
    let s := s.listen
    { s.tell (s.unseen.map eventLine) with unseen := [] }

end Stage

/-! ## The script -/

/-- A command of the card. -/
def cardCommand (number : UInt8) (type : CommandType) (qualifier : UInt8)
    (payload : Payload) : Scene :=
  .call (.command { details := .ofType number type qualifier, payload } none)

/-- The script: a menu and a choice from it, a choice from a list, a text, a key
    that never comes, a reply that comes too late, a text to show, the language,
    an event, and the end. -/
def script : List Scene :=
  [.flush,
    .say "SET UP MENU",
    cardCommand 1 .setUpMenu 0x00 (.menu (.ofItems (some "Operator")
      [⟨1, "Balance"⟩, ⟨2, "Top up"⟩, ⟨3, "Settings"⟩])),
    .look, .flush,
    .say "user picks 'Top up'",
    .reply fun d => (Reply.ofResult d .ok).withItem 2, .flush,
    .say "SELECT ITEM",
    cardCommand 2 .selectItem 0x00 (.menu (.ofItems (some "Amount")
      [⟨1, "5"⟩, ⟨2, "10"⟩, ⟨3, "20"⟩])),
    .look,
    .reply fun d => (Reply.ofResult d .ok).withItem 3, .flush,
    .say "GET INPUT (packed)",
    cardCommand 3 .getInput 0x08 (.input
      { text := "Voucher code", packed := true, minLength := 1, maxLength := 16 }),
    .look,
    .reply fun d => (Reply.ofResult d .ok).withText "hello", .flush,
    .say "GET INKEY (times out)",
    cardCommand 4 .getInkey 0x04 (.input
      { text := "Confirm?", yesNo := true, duration := some ⟨.second, 30⟩ }),
    .look,
    .reply fun d => .ofResult d .noResponse, .flush,
    .say "stale answer to the GET INKEY (dropped)",
    .reply fun d => (Reply.ofResult d .ok).withYes true, .flush,
    .say "DISPLAY TEXT (immediate response)",
    cardCommand 5 .displayText 0x81 (.text { text := some "Top up successful" }),
    .look, .flush,
    .say "PROVIDE LOCAL INFORMATION (language)",
    cardCommand 6 .provideLocalInformation languageSetting .none, .flush,
    .say "SET UP EVENT LIST",
    cardCommand 7 .setUpEventList 0x00 (.events
      [EventCode.idleScreenAvailable.value, EventCode.browserTermination.value]),
    .look, .flush,
    .say "idle screen becomes available",
    .reply fun d => (Reply.ofResult d .ok).withEvent .idleScreenAvailable [], .flush,
    .say "session end",
    .call .sessionEnd, .flush, .tellOutstanding,
    .say "card reset",
    .call (.refreshed .reset), .flush, .lookAtRest]

/-- The lines of the script, in a language, or why it cannot be played. -/
def session (language : String) : Except Fault (List String) := do
  let (service, reader) := (← Service.start { language } {}).subscribe
  return (script.foldl Stage.play { service, reader }).lines

end CardToolkit.CommandLine
