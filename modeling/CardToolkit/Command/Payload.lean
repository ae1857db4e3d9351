import CardToolkit.Wire.TimeUnit

/-!
# Payloads

What a command carries besides its details: a menu, a question, a text, a list
of events, the texts around a call, or a page to open. A card withdraws its menu
by one whose only item is absent (`Menu.isRemoval`).
-/

namespace CardToolkit

/-- A number of units of time. -/
structure Duration where
  unit : TimeUnit
  interval : UInt8
  deriving DecidableEq

/-- An entry of a menu. -/
structure MenuItem where
  /-- What the card is told when the entry is chosen. -/
  id : UInt8
  /-- What the user reads. -/
  text : String
  deriving DecidableEq

/-- A menu, to be kept or to choose from at once. -/
structure Menu where
  title : Option String := none
  /-- The entries in the order of the card, of which some may be absent. -/
  items : List (Option MenuItem) := []
  /-- The entry to choose first. -/
  defaultItem : Option UInt8 := none
  /-- The card has help for the entries. -/
  helpAvailable : Bool := false
  /-- The card would have the entries chosen by soft keys. -/
  softKeyPreferred : Bool := false
  deriving DecidableEq

namespace Menu

/-- A menu whose entries are all present. -/
def ofItems (title : Option String) (items : List MenuItem) : Menu :=
  { title, items := items.map some }

/-- The menu that withdraws the one before. -/
def removal : Menu := { items := [none] }

/-- The menu withdraws the one before: its only entry is absent. -/
def isRemoval (m : Menu) : Bool := m.items == [none]

@[simp] theorem isRemoval_removal : removal.isRemoval = true := rfl

theorem isRemoval_iff {m : Menu} : m.isRemoval = true ↔ m.items = [none] := beq_iff_eq

end Menu

/-- A question to the user, for a text or for yes or no. -/
structure Input where
  /-- What the user is asked. -/
  text : String := ""
  /-- What stands in the field at first. -/
  defaultText : Option String := none
  minLength : UInt8 := 0
  maxLength : UInt8 := 0
  /-- The answer is yes or no, and no text. -/
  yesNo : Bool := false
  /-- The answer is to be in UCS2. -/
  ucs2 : Bool := false
  /-- The answer is to be in packed septets. -/
  packed : Bool := false
  digitsOnly : Bool := false
  echo : Bool := false
  helpAvailable : Bool := false
  /-- How long to wait, told back to the card when the user does not answer. -/
  duration : Option Duration := none
  deriving DecidableEq

/-- A text to show. -/
structure TextMessage where
  title : Option String := none
  text : Option String := none
  /-- The card waits for the user to have seen the text. -/
  responseNeeded : Bool := false
  iconSelfExplanatory : Bool := false
  highPriority : Bool := false
  userClear : Bool := false
  duration : Option Duration := none
  deriving DecidableEq

/-- What a command carries besides its details. -/
inductive Payload
  /-- Nothing. -/
  | none
  /-- A menu. -/
  | menu (menu : Menu)
  /-- A question. -/
  | input (input : Input)
  /-- A text. -/
  | text (text : TextMessage)
  /-- The bytes of the events that the card asks for. -/
  | events (codes : List UInt8)
  /-- The texts to confirm a call with, and to show during it. -/
  | call (confirmation progress : TextMessage)
  /-- A page to open, and the text to confirm it with. -/
  | browser (url : Option String) (confirmation : TextMessage)
  deriving DecidableEq

namespace Payload

/-- The menu of a payload. -/
def menu? : Payload → Option Menu
  | menu m => some m
  | _ => Option.none

theorem menu?_eq_some_iff {p : Payload} {m : Menu} : p.menu? = some m ↔ p = menu m := by
  cases p <;> simp [menu?]

/-- The question of a payload. -/
def input? : Payload → Option Input
  | input i => some i
  | _ => Option.none

theorem input?_eq_some_iff {p : Payload} {i : Input} : p.input? = some i ↔ p = input i := by
  cases p <;> simp [input?]

/-- The payload has the text for the user: of a call or a page, the one to confirm it
    with. -/
inductive HasText (t : TextMessage) : Payload → Prop
  | text : HasText t (text t)
  | call {progress : TextMessage} : HasText t (call t progress)
  | browser {url : Option String} : HasText t (browser url t)

/-- The text of a payload. -/
def text? : Payload → Option TextMessage
  | text t => some t
  | call confirmation _ => some confirmation
  | browser _ confirmation => some confirmation
  | _ => Option.none

theorem text?_eq_some_iff {p : Payload} {t : TextMessage} : p.text? = some t ↔ p.HasText t := by
  constructor
  · intro h
    cases p with
    | text t' => cases h; exact .text
    | call confirmation progress => cases h; exact .call
    | browser url confirmation => cases h; exact .browser
    | none | menu m | input i | events codes => cases h
  · rintro (_ | _ | _) <;> rfl

/-- The events of a payload. -/
def events? : Payload → Option (List UInt8)
  | events codes => some codes
  | _ => Option.none

theorem events?_eq_some_iff {p : Payload} {codes : List UInt8} :
    p.events? = some codes ↔ p = events codes := by
  cases p <;> simp [events?]

end Payload

end CardToolkit
