import CardToolkit.Wire.Vocabulary

/-!
# Devices

The ends between which a message runs, inside the terminal or beyond it.
-/

namespace CardToolkit

/-- The devices a message comes from or goes to. -/
inductive Device
  | keypad
  | display
  | earpiece
  | uicc
  | terminal
  | network
  deriving DecidableEq

namespace Device

/-- Every device, in the order of the bytes. -/
def all : List Device :=
  [.keypad, .display, .earpiece, .uicc, .terminal, .network]

/-- The byte of a device. -/
def value : Device → UInt8
  | .keypad => 0x01
  | .display => 0x02
  | .earpiece => 0x03
  | .uicc => 0x81
  | .terminal => 0x82
  | .network => 0x83

/-- The name of a device. -/
def name : Device → String
  | .keypad => "KEYPAD"
  | .display => "DISPLAY"
  | .earpiece => "EARPIECE"
  | .uicc => "UICC"
  | .terminal => "TERMINAL"
  | .network => "NETWORK"

instance : Vocabulary Device where
  kind := "device identity"
  all := all
  value := value
  name := name
  mem_all a := by cases a <;> decide
  nodup_value := by decide

end Device

end CardToolkit
