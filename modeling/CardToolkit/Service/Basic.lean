import CardToolkit.Engine.Run
import CardToolkit.Feed
import CardToolkit.Service.Call
import CardToolkit.Service.Config

/-!
# The service

A *service* is an engine with a mailbox in front of it and a feed of events
behind it. Those who hold the service or one of its handles put letters in the
mailbox, as long as there is room. The engine works in *turns*, of its own accord
(`Service.turn`): in the first it tells the modem that it is ready, if it is to,
and in each of the others it takes the first letter out of the mailbox. A fault
of one message is no concern of the next.

Here the engine gets its turns when somebody waits for it, and then runs until
the mailbox is empty (`Service.settle`): for an answer, for room in the mailbox,
or for the end.

* `Service.start`: a service, or why there is none;
* `Service.turn`, `Service.settle`: the engine at work;
* `Service.call`: what is called for is put in the mailbox;
* `Service.correlation`: what the engine remembers, once all before is done;
* `Service.subscribe`, `Service.receive`: reading the feed;
* `Service.shutdown`, `Service.drop`: the end, with an empty mailbox or at once.

After the end nothing is put in the mailbox any more, and the link is left to
whom shut the service down.
-/

namespace CardToolkit

/-- An engine with a mailbox and a feed. -/
structure Service where
  engine : Engine
  feed : Feed Event
  /-- How many letters may wait. -/
  mailboxCapacity : Nat
  /-- The letters that wait, in order. -/
  mailbox : List Letter := []
  /-- The callers that were answered, in order, and what they were told. -/
  answers : List (Nat × Correlation) := []
  /-- The modem is yet to be told that the service is ready. -/
  reportDue : Bool := false
  /-- The engine takes messages. -/
  running : Bool := true
  /-- The service is held. -/
  held : Bool := true
  /-- How many handles of the service are held. -/
  handles : Nat := 0
  /-- The places of the readers of the feed. -/
  readers : List Nat := []
  /-- The link was given back to the one who shut the service down. -/
  linkReturned : Bool := false
  deriving DecidableEq

/-- What a reader of the feed is told. -/
structure Received where
  /-- What it has missed, and what it gets. -/
  delivery : Delivery Event
  /-- Nobody is left who could raise an event. -/
  closed : Bool
  deriving DecidableEq

namespace Service

/-- A service on a link, or why there is none. -/
def start (c : Config) (link : Link) : Except Fault Service :=
  match c.refusal with
  | some cause => .error (.parameter cause)
  | none => .ok
    { engine := { language := c.language, link }
      feed := .withRoom c.eventCapacity
      mailboxCapacity := c.mailboxCapacity
      reportDue := c.reportRunning }

/-! ## The engine at work -/

/-- The engine handles a message, and its events are raised on the feed. -/
def process (s : Service) (m : Message) : Service :=
  let (engine, step) := s.engine.handle m
  { s with engine, feed := s.feed.pushAll step.events }

/-- The modem is told that the service is ready, if that is due. -/
def report (s : Service) : Service :=
  if s.reportDue then { s with engine := s.engine.reportRunning.1, reportDue := false } else s

/-- A letter is opened: a message is handled, a question is answered, and at the
    wish to stop the service ends, whatever else is in the mailbox. -/
def serve (s : Service) : Letter → Service
  | .message m => s.process m
  | .question caller => { s with answers := s.answers ++ [(caller, s.engine.slots.correlation)] }
  | .stop => { s with running := false, mailbox := [], linkReturned := true }

/-- The engine takes its turn: the report if it is due, and else the first letter. -/
def turn (s : Service) : Service :=
  if s.running then
    if s.reportDue then s.report
    else
      match s.mailbox with
      | [] => s
      | l :: rest => { s with mailbox := rest }.serve l
  else s

/-- The engine takes a number of turns. -/
def turns : Nat → Service → Service
  | 0, s => s
  | n + 1, s => turns n s.turn

/-- The engine runs until the mailbox is empty: one turn for each letter, and one
    for the report. -/
def settle (s : Service) : Service := turns (s.mailbox.length + 1) s

/-- The engine takes no turn after the end. -/
theorem turn_of_stopped {s : Service} (h : s.running = false) : s.turn = s := by
  rw [turn, h]
  rfl

theorem turns_of_stopped {s : Service} (h : s.running = false) (n : Nat) : turns n s = s := by
  induction n with
  | zero => rfl
  | succ n ih => rw [turns, turn_of_stopped h, ih]

/-- The engine does not run after the end. -/
theorem settle_of_stopped {s : Service} (h : s.running = false) : s.settle = s :=
  turns_of_stopped h _

/-! ## Calls -/

/-- There is room in the mailbox. -/
def hasRoom (s : Service) : Bool := s.mailbox.length < s.mailboxCapacity

/-- A letter is put in the mailbox. -/
def post (s : Service) (l : Letter) : Service := { s with mailbox := s.mailbox ++ [l] }

/-- A letter is put in the mailbox once there is room. Where there is none, the
    engine first takes out what waits. -/
def send (s : Service) (l : Letter) : Service × Except Fault Unit :=
  let s := if s.hasRoom then s else s.settle
  if s.running then (s.post l, .ok ()) else (s, .error .notRunning)

/-- Nothing is put in the mailbox after the end. -/
theorem send_of_stopped {s : Service} (h : s.running = false) (l : Letter) :
    s.send l = (s, .error .notRunning) := by
  rw [send, settle_of_stopped h, ite_self]
  exact if_neg (Bool.eq_false_iff.1 h)

/-- A service is called. -/
def call (s : Service) (c : Call) : Service × Except Fault Unit := s.send c.letter

/-- What the engine remembers, once all that was called for before is done. -/
def correlation (s : Service) : Service × Except Fault Correlation :=
  match s.call (.state s.answers.length) with
  | (s, .error f) => (s, .error f)
  | (s, .ok ()) =>
    let s := s.settle
    match s.running, s.answers.getLast? with
    | true, some (_, c) => (s, .ok c)
    | _, _ => (s, .error .notRunning)

/-! ## The feed -/

/-- A new reader of the feed, and its number. -/
def subscribe (s : Service) : Service × Nat :=
  ({ s with readers := s.readers ++ [s.feed.raised] }, s.readers.length)

/-- Somebody is left who holds the service or a handle. -/
def isOpen (s : Service) : Bool := s.held || 0 < s.handles

/-- What a reader is told, if there is one of this number. -/
def receive (s : Service) (reader : Nat) : Option (Service × Received) :=
  s.readers[reader]?.map fun place =>
    ({ s with readers := s.readers.set reader s.feed.raised }, ⟨s.feed.read place, !s.isOpen⟩)

/-! ## Holders and the end -/

/-- One more handle is held. -/
def takeHandle (s : Service) : Service := { s with handles := s.handles + 1 }

/-- One handle fewer is held. -/
def dropHandle (s : Service) : Service := { s with handles := s.handles - 1 }

/-- The service ends once the mailbox is empty, and gives its link back. -/
def shutdown (s : Service) : Service × Except Fault Unit :=
  if s.held && s.running then
    ({ (s.send .stop).1.settle with held := false }, .ok ())
  else (s, .error .notRunning)

/-- The service ends at once, and what waits is lost. -/
def drop (s : Service) : Service :=
  if s.held then { s with running := false, held := false, mailbox := [] } else s

/-- A request on the link that was given back, if it was. -/
def sendOnLink (s : Service) (request : Request) : Option (Service × Except Fault Unit) :=
  if s.linkReturned then
    let (link, result) := s.engine.link.send request
    some ({ s with engine := { s.engine with link } }, result)
  else none

/-- The link is put up or down. -/
def setLink (s : Service) (up : Bool) : Service :=
  { s with engine := { s.engine with link := s.engine.link.setUp up } }

end Service

end CardToolkit
