import CardToolkit.CommandLine.Arguments

/-!
# Invocations

What the words of a command line ask the toolkit to do: to encode a message, to
list a vocabulary, or to play a session. The name of the command comes first,
behind options for all of them, and the arguments of the command follow.

* `Invocation`: what is asked, with the values of the arguments;
* `Invocation.parse`: what words ask, and whether in a talkative way, or why they
  are refused.
-/

namespace CardToolkit.CommandLine

/-- The arguments of `terminal-response`. -/
structure ResponseOptions where
  number : UInt8 := 1
  /-- The type of the command, by name or byte. -/
  type : String
  qualifier : UInt8 := 0x00
  /-- The result, by name or byte. -/
  result : String := "OK"
  info : Option UInt8 := none
  /-- The details are not marked. -/
  unmarked : Bool := false
  item : Option UInt8 := none
  text : Option String := none
  yesNo : Option Bool := none
  ucs2 : Bool := false
  packed : Bool := false
  /-- The time that was waited for a key. -/
  duration : Option UInt8 := none
  language : String := "en"
  deriving DecidableEq

/-- The vocabularies that can be listed. -/
inductive Table
  | commands
  | results
  | events
  | tags
  | devices
  deriving DecidableEq

/-- What the words of a command line ask. -/
inductive Invocation
  /-- Encoding a terminal response. -/
  | terminalResponse (options : ResponseOptions)
  /-- Encoding a choice from the menu, or a wish for help on it. -/
  | menuSelection (item : UInt8) (help : Bool)
  /-- Encoding a report of an event, from a device, with further bytes in
      hexadecimal. -/
  | eventDownload (event : String) (source : Option String) (info : String)
  /-- Listing a vocabulary. -/
  | list (table : Table)
  /-- Playing a session, with a language. -/
  | demo (language : String)
  deriving DecidableEq

/-! ## Forms -/

/-- The option for all commands. -/
def verboseForm : OptionForm := { name := "verbose", letter := some 'v' }

/-- The arguments in front of the command. -/
def toolForm : Form := { options := [verboseForm], hasVersion := true }

/-- The arguments of `terminal-response`. -/
def responseForm : Form where
  options :=
    [verboseForm,
      { name := "number", kind := some .decimalByte },
      { name := "type", kind := some .text },
      { name := "qualifier", kind := some .hexByte },
      { name := "result", kind := some .text },
      { name := "additional-info", kind := some .hexByte },
      { name := "no-cr" },
      { name := "item", kind := some .decimalByte },
      { name := "text", kind := some .text },
      { name := "yes-no", kind := some (.oneOf ["yes", "no"]) },
      { name := "ucs2" },
      { name := "packed" },
      { name := "duration", kind := some .decimalByte },
      { name := "language", kind := some .text }]
  required := ["type"]
  exclusions := [("item", "text"), ("item", "yes-no"), ("text", "yes-no"), ("packed", "ucs2")]
  requirements := [("ucs2", "text"), ("packed", "text")]

/-- The arguments of `menu-selection`. -/
def menuForm : Form where
  options := [verboseForm, { name := "help-requested" }]
  positionals := [⟨"item", .decimalByte⟩]

/-- The arguments of `event-download`. -/
def eventForm : Form where
  options :=
    [verboseForm, { name := "source", kind := some .text },
      { name := "added-info", kind := some .text }]
  positionals := [⟨"event", .text⟩]

/-- The tables by the words for them. -/
def tables : List (String × Table) :=
  [("commands", .commands), ("results", .results), ("events", .events), ("tags", .tags),
    ("devices", .devices)]

/-- The arguments of `list`. -/
def listForm : Form where
  options := [verboseForm]
  positionals := [⟨"table", .oneOf (tables.map Prod.fst)⟩]

/-- The arguments of `demo`. -/
def demoForm : Form where
  options := [verboseForm, { name := "language", kind := some .text }]

/-! ## From what is given to what is asked -/

/-- The options of a terminal response that are given. -/
def ResponseOptions.ofGiven (g : List Given) : ResponseOptions where
  number := (byte? g "number").getD 1
  type := (text? g "type").getD ""
  qualifier := (byte? g "qualifier").getD 0x00
  result := (text? g "result").getD "OK"
  info := byte? g "additional-info"
  unmarked := isGiven g "no-cr"
  item := byte? g "item"
  text := text? g "text"
  yesNo := (text? g "yes-no").map (· == "yes")
  ucs2 := isGiven g "ucs2"
  packed := isGiven g "packed"
  duration := byte? g "duration"
  language := (text? g "language").getD "en"

/-- A command: its arguments, and what they ask. -/
structure CommandForm where
  name : String
  form : Form
  ofGiven : List Given → Invocation

/-- The commands of the tool. -/
def commands : List CommandForm :=
  [⟨"terminal-response", responseForm, fun g => .terminalResponse (.ofGiven g)⟩,
    ⟨"menu-selection", menuForm, fun g =>
      .menuSelection ((byte? g "item").getD 0) (isGiven g "help-requested")⟩,
    ⟨"event-download", eventForm, fun g =>
      .eventDownload ((text? g "event").getD "") (text? g "source")
        ((text? g "added-info").getD "")⟩,
    ⟨"list", listForm, fun g =>
      .list (((text? g "table").bind fun t => tables.lookup t).getD .commands)⟩,
    ⟨"demo", demoForm, fun g => .demo ((text? g "language").getD "en")⟩]

/-- What is asked, and whether in a talkative way. -/
structure Asked where
  invocation : Invocation
  verbose : Bool
  deriving DecidableEq

/-- The command of this name. -/
def command? (name : String) : Option CommandForm := commands.find? fun c => c.name == name

/-- The word is the name of a command, of which `help` is one. -/
def isCommandName (word : String) : Bool := (command? word).isSome || word == "help"

/-- Words behind `help`, which name at most one command. -/
def helpOn : List String → UsageFault
  | [] => .help
  | [name] => if isCommandName name then .help else .unknownCommand
  | _ => .unknownCommand

/-- The end of the words without a command. -/
def noCommand (p : Progress) : UsageFault := if p.given = [] then .noArguments else .noCommand

/-- What words ask, of which some in front of the command were taken. -/
def parseFrom (p : Progress) : List String → Except UsageFault Asked
  | [] => .error (noCommand p)
  | word :: words =>
    if p.onlyPositionals then
      .error (if isCommandName word then .unknownArgument else .unknownCommand)
    else
      match command? word with
      | some c => do
        let given ← c.form.parse words
        return ⟨c.ofGiven given, p.has "verbose" || isGiven given "verbose"⟩
      | none =>
        if word = "help" then .error (helpOn words)
        else if word ≠ "--" ∧ (longParts? word).isNone ∧ !isCluster word then
          .error .unknownCommand
        else do
          let p ← toolForm.take p word
          parseFrom p words

/-- What the words of a command line ask. -/
def parse (words : List String) : Except UsageFault Asked :=
  parseFrom { positionals := [] } words

end CardToolkit.CommandLine
