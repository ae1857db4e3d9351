import CardToolkit.Reply
import CardToolkit.Wire.RefreshOutcome

/-!
# Messages, events and slots

The engine stands between the card and the host. It takes *messages* from both
sides, one at a time, and raises *events* for the host. Between two messages it
remembers at most two commands, in its *slots*: the one that waits for a reply,
and the one that set up the menu.
-/

namespace CardToolkit

/-- A message to the engine. -/
inductive Message
  /-- A command of the card, with the verdict of the one who read it. -/
  | command (command : Command) (reading : ResultCode)
  /-- A command of the card that could not be read. -/
  | unreadable (reading : ResultCode)
  /-- A reply of the host. -/
  | reply (reply : Reply)
  /-- The card ended the session. -/
  | sessionEnd
  /-- The card was read anew. -/
  | refreshed (outcome : RefreshOutcome)
  /-- The card was taken out. -/
  | cardAbsent
  deriving DecidableEq

/-- What the host is told. -/
inductive Event
  /-- The card wants something done. -/
  | command (command : Command)
  /-- The card ended the session. -/
  | sessionEnded
  /-- The card was read anew, or taken out. -/
  | cardStatus (present : Bool) (refresh : Option RefreshOutcome)
  deriving DecidableEq

/-- The command of an event. -/
def Event.command? : Event → Option Command
  | .command c => some c
  | _ => none

/-- What the engine remembers from one message to the next. -/
structure Slots where
  /-- The command that waits for a reply. -/
  outstanding : Option Command := none
  /-- The command that set up the menu. -/
  menu : Option Command := none
  deriving DecidableEq

/-- The details of what the engine remembers. -/
structure Correlation where
  outstanding : Option Details := none
  menu : Option Details := none
  deriving DecidableEq

namespace Slots

/-- The details of the commands in the slots. -/
def correlation (s : Slots) : Correlation :=
  ⟨s.outstanding.map Command.details, s.menu.map Command.details⟩

/-- The slots with no command waiting. -/
def answered (s : Slots) : Slots := { s with outstanding := none }

/-- The slots with a command waiting. -/
def waiting (s : Slots) (c : Command) : Slots := { s with outstanding := some c }

/-- The details are those of the command that waits for a reply. -/
def awaits (s : Slots) (d : Details) : Bool :=
  match s.outstanding with
  | some c => c.details.same d
  | none => false

end Slots

end CardToolkit
