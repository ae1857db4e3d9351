import CardToolkit.Fault
import CardToolkit.Text.Utf8

/-!
# Configurations

What a service is started with. A language is refused unless it is some text in
ASCII, and so is a room for no event or no message, in this order.
-/

namespace CardToolkit

/-- What a service is started with. -/
structure Config where
  /-- The language that is told to the card. -/
  language : String := "en"
  /-- How many events are kept for a host that does not keep up. -/
  eventCapacity : Nat := 64
  /-- How many messages may wait. -/
  mailboxCapacity : Nat := 32
  /-- The modem is told that the service is ready. -/
  reportRunning : Bool := true
  deriving DecidableEq

namespace Config

/-- Why a configuration is refused, if it is. -/
def refusal (c : Config) : Option ParameterFault :=
  if c.language = "" ∨ ¬Text.isAscii c.language then some (.language c.language)
  else if c.eventCapacity = 0 then some .noEventCapacity
  else if c.mailboxCapacity = 0 then some .noMailboxCapacity
  else none

end Config

end CardToolkit
