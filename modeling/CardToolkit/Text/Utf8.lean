/-!
# Bytes of a text

A text as the bytes of its UTF-8 form (`utf8`), one to four for a character.
An ASCII text (`isAscii`) has one byte for each.
-/

namespace CardToolkit.Text

/-- The bytes of the UTF-8 form of a text. -/
def utf8 (s : String) : List UInt8 := s.toList.flatMap String.utf8EncodeChar

/-- Every character of the text is below `0x80`. -/
def isAscii (s : String) : Bool := s.toList.all fun c => c.toNat < 0x80

@[simp] theorem utf8_empty : utf8 "" = [] := rfl

/-- A character below `0x80` has one byte. -/
theorem length_utf8EncodeChar_of_lt {c : Char} (h : c.toNat < 0x80) :
    (String.utf8EncodeChar c).length = 1 := by
  rw [String.length_utf8EncodeChar]
  exact Char.utf8Size_eq_one_iff.2 (Nat.le_of_lt_succ h)

/-- An ASCII text has one byte for each character. -/
theorem length_utf8_of_isAscii {s : String} (h : isAscii s = true) :
    (utf8 s).length = s.toList.length := by
  rw [isAscii] at h
  rw [utf8]
  generalize s.toList = cs at h ⊢
  induction cs with
  | nil => rfl
  | cons c cs ih =>
    rw [List.all_cons, Bool.and_eq_true] at h
    rw [List.flatMap_cons, List.length_append, ih h.2,
      length_utf8EncodeChar_of_lt (of_decide_eq_true h.1), List.length_cons, Nat.add_comm]

end CardToolkit.Text
