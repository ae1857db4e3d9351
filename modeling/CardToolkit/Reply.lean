import CardToolkit.Command.Basic

/-!
# Replies of the host

What the host says to a command that it was shown: the result, and the choice,
the text or the decision of the user, as the type of the command asks. A reply
is built up from one that says the result alone (`Reply.ofResult`).
-/

namespace CardToolkit

/-- The reply of the host to a command. -/
structure Reply where
  /-- The command that is answered. -/
  details : Details
  result : ResultCode
  /-- The entry of the menu that the user chose. -/
  item : UInt8 := 0
  /-- The text that the user entered. -/
  text : Option String := none
  /-- The user said yes. -/
  yes : Bool := false
  /-- The user accepted the call. -/
  accepted : Bool := false
  /-- The byte of the event that is reported. -/
  event : UInt8 := 0
  /-- What the report of the event says further. -/
  eventInfo : List UInt8 := []
  /-- A byte that says more about the result. -/
  info : Option UInt8 := none
  deriving DecidableEq

namespace Reply

/-- A reply that says the result alone. -/
def ofResult (details : Details) (result : ResultCode) : Reply := { details, result }

/-- The reply with an entry of the menu. -/
def withItem (r : Reply) (id : UInt8) : Reply := { r with item := id }

/-- The reply with a text. -/
def withText (r : Reply) (text : String) : Reply := { r with text := some text }

/-- The reply with a yes or a no. -/
def withYes (r : Reply) (yes : Bool) : Reply := { r with yes }

/-- The reply with a decision on a call. -/
def withAccepted (r : Reply) (accepted : Bool) : Reply := { r with accepted }

/-- The reply with a report of an event. -/
def withEvent (r : Reply) (event : EventCode) (info : List UInt8) : Reply :=
  { r with event := event.value, eventInfo := info }

/-- The reply with a byte on its result. -/
def withInfo (r : Reply) (info : UInt8) : Reply := { r with info := some info }

end Reply

end CardToolkit
