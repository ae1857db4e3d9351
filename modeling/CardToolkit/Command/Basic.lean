import CardToolkit.Command.Details
import CardToolkit.Command.Payload
import CardToolkit.Wire.EventCode
import CardToolkit.Wire.ResultCode

/-!
# Proactive commands

A *proactive command* is what the card wants done: its details and its payload,
with a note whether the icons it refers to could be loaded. The terminal shows
it to the host, the application in front of the user.

* `removesMenu_iff`, `responseNeeded_eq_false_iff`, `eventsSupported_iff`: what is read
  off the payload of a command.
-/

namespace CardToolkit

/-- A proactive command, as read from the card and as shown to the host. -/
structure Command where
  details : Details
  payload : Payload := .none
  /-- One of the icons that the command refers to could not be loaded. -/
  iconFailed : Bool := false
  deriving DecidableEq

namespace Command

/-- The type of the command, if it is a known one. -/
def type? (c : Command) : Option CommandType := c.details.type?

/-- The command withdraws the menu: the only entry of its menu is absent. -/
def WithdrawsMenu (c : Command) : Prop := ∃ m, c.payload = .menu m ∧ m.items = [none]

/-- Whether the command withdraws the menu. -/
def removesMenu (c : Command) : Bool :=
  match c.payload.menu? with
  | some m => m.isRemoval
  | none => false

theorem removesMenu_iff {c : Command} : c.removesMenu = true ↔ c.WithdrawsMenu := by
  simp only [WithdrawsMenu, ← Payload.menu?_eq_some_iff, removesMenu]
  cases c.payload.menu? with
  | none => exact iff_of_false nofun nofun
  | some m => simp only [Menu.isRemoval_iff, Option.some.injEq, exists_eq_left']

instance (c : Command) : Decidable c.WithdrawsMenu := decidable_of_iff _ removesMenu_iff

/-- The card waits for the user to have seen the text of the command. -/
def responseNeeded (c : Command) : Bool :=
  match c.payload.text? with
  | some t => t.responseNeeded
  | none => false

/-- A command that has no text needs no response, nor does one whose text does not say
    that it needs one. -/
theorem responseNeeded_eq_false_iff {c : Command} :
    c.responseNeeded = false ↔ ∀ t, c.payload.HasText t → t.responseNeeded = false := by
  simp only [← Payload.text?_eq_some_iff, responseNeeded]
  cases c.payload.text? with
  | none => exact iff_of_true rfl nofun
  | some t => simp only [Option.some.injEq, forall_eq']

/-- The terminal reports every event that the command asks for. -/
def EventsReported (c : Command) : Prop :=
  ∀ codes, c.payload = .events codes → ∀ code ∈ codes, code ∈ ([0x05, 0x07, 0x08] : List UInt8)

/-- Whether the terminal reports every event that the command asks for. -/
def eventsSupported (c : Command) : Bool :=
  match c.payload.events? with
  | some codes => codes.all EventCode.isSupported
  | none => true

theorem eventsSupported_iff {c : Command} : c.eventsSupported = true ↔ c.EventsReported := by
  simp only [EventsReported, ← Payload.events?_eq_some_iff, eventsSupported]
  cases c.payload.events? with
  | none => exact iff_of_true rfl nofun
  | some codes =>
    simp only [List.all_eq_true, EventCode.isSupported_iff, Option.some.injEq, forall_eq']

instance (c : Command) : Decidable c.EventsReported := decidable_of_iff _ eventsSupported_iff

/-- The result of showing the command: its icons may be missing. -/
def shownResult (c : Command) : ResultCode := if c.iconFailed then .iconNotDisplayed else .ok

/-- The same command as one of another type. -/
def withType (c : Command) (t : CommandType) : Command :=
  { c with details := { c.details with typeByte := t.value } }

end Command

end CardToolkit
