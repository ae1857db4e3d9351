import CardToolkit.CommandLine.Invocation
import CardToolkit.Text.Hex
import CardToolkit.Wire.CommandType
import CardToolkit.Wire.Device
import CardToolkit.Wire.EventCode
import CardToolkit.Wire.ResultCode
import CardToolkit.Wire.Tag

/-!
# Listings

The vocabularies as lines, a symbol on each, with its byte and its name. Of the
events, those that the terminal reports are marked.
-/

namespace CardToolkit.CommandLine

/-- The byte and the name of a symbol. -/
def entry {α : Type} [Vocabulary α] (a : α) : String :=
  " 0x" ++ String.ofList (Hex.byteDigits (Vocabulary.value a)) ++ "  " ++ Vocabulary.name a

/-- The lines of a vocabulary. -/
def entries (α : Type) [Vocabulary α] : List String :=
  (Vocabulary.all : List α).map fun a => " " ++ entry a

/-- The lines of the events. -/
def eventEntries : List String :=
  EventCode.all.map (fun e => (if EventCode.isSupported e.value then "*" else " ") ++ entry e) ++
    ["(* = reported through event download)"]

/-- The lines of a table. -/
def listing : Table → List String
  | .commands => entries CommandType
  | .results => entries ResultCode
  | .events => eventEntries
  | .tags => entries ObjectTag
  | .devices => entries Device

end CardToolkit.CommandLine
