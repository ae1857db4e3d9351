import CardToolkit.Wire.Vocabulary

/-!
# Time units

The units in which a card gives a duration.
-/

namespace CardToolkit

/-- The units of a duration. -/
inductive TimeUnit
  | minute
  | second
  | tenthSecond
  deriving DecidableEq

namespace TimeUnit

/-- Every time unit, in the order of the bytes. -/
def all : List TimeUnit :=
  [.minute, .second, .tenthSecond]

/-- The byte of a time unit. -/
def value : TimeUnit → UInt8
  | .minute => 0x00
  | .second => 0x01
  | .tenthSecond => 0x02

/-- The name of a time unit. -/
def name : TimeUnit → String
  | .minute => "MINUTE"
  | .second => "SECOND"
  | .tenthSecond => "TENTH_SECOND"

instance : Vocabulary TimeUnit where
  kind := "time unit"
  all := all
  value := value
  name := name
  mem_all a := by cases a <;> decide
  nodup_value := by decide

end TimeUnit

end CardToolkit
