import CardToolkit.Wire.Vocabulary

/-!
# Outcomes of a refresh

What the modem did after the card asked it to read the card anew. Only the
outcomes that start the application of the card again put an end to what the
engine remembers (see `CardToolkit.Engine.Reaction`).
-/

namespace CardToolkit

/-- The outcome of a refresh. -/
inductive RefreshOutcome
  /-- Some files on the card changed. -/
  | fileUpdate
  /-- The application of the card was started again. -/
  | init
  /-- The card was reset. -/
  | reset
  deriving DecidableEq

namespace RefreshOutcome

/-- Every outcome, in the order of the bytes. -/
def all : List RefreshOutcome :=
  [.fileUpdate, .init, .reset]

/-- The byte of an outcome. -/
def value : RefreshOutcome → UInt8
  | .fileUpdate => 0x00
  | .init => 0x01
  | .reset => 0x02

/-- The name of an outcome. -/
def name : RefreshOutcome → String
  | .fileUpdate => "FILE_UPDATE"
  | .init => "INIT"
  | .reset => "RESET"

instance : Vocabulary RefreshOutcome where
  kind := "refresh result"
  all := all
  value := value
  name := name
  mem_all a := by cases a <;> decide
  nodup_value := by decide

end RefreshOutcome

end CardToolkit
