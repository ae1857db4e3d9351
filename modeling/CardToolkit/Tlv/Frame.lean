import CardToolkit.Tlv.Object

/-!
# Frames

Objects sent of the terminal's own accord are put in a *frame*: a tag byte, the
length of all that follows, and the content. A frame is begun before its content
is known, with a zero in the place of the length, and closed when it is
complete; where the length needs two bytes, the content moves up by one.

* `Frame.start`, `Frame.close`: writing a frame;
* `Frame.wrap`: a frame around a content;
* `Frame.read?`: the tag and the content of a frame;
* `read?_of_wrap`: a frame is read back.
-/

namespace CardToolkit.Frame

/-- A frame without content, its length left open. -/
def start (tag : UInt8) : List UInt8 := [tag, 0x00]

/-- The frame with its length in the place left open for it. -/
def close : List UInt8 → Except EncodingFault (List UInt8)
  | tag :: _ :: content =>
    if maxLength < content.length then .error (.contentTooLong content.length)
    else .ok (tag :: lengthBytes content.length ++ content)
  | _ => .error .envelopeTooShort

/-- A frame around a content. -/
def wrap (tag : UInt8) (content : List UInt8) : Except EncodingFault (List UInt8) :=
  close (start tag ++ content)

theorem close_of_le {tag place : UInt8} {content : List UInt8}
    (h : content.length ≤ maxLength) :
    close (tag :: place :: content) = .ok (tag :: lengthBytes content.length ++ content) :=
  if_neg (Nat.not_lt.2 h)

theorem close_of_lt {tag place : UInt8} {content : List UInt8}
    (h : maxLength < content.length) :
    close (tag :: place :: content) = .error (.contentTooLong content.length) :=
  if_pos h

/-- The tag and the content of a frame, if its length is that of all that
    follows. -/
def read? : List UInt8 → Option (UInt8 × List UInt8)
  | [] => none
  | tag :: rest => do
    let (n, content) ← Object.readLength? rest
    if content.length = n then some (tag, content) else none

/-- A frame is read back. -/
theorem read?_of_wrap {tag : UInt8} {content bs : List UInt8} (h : wrap tag content = .ok bs) :
    read? bs = some (tag, content) := by
  by_cases hc : content.length ≤ maxLength
  · have hbs : bs = tag :: (lengthBytes content.length ++ content) := by
      have hclose : wrap tag content = .ok (tag :: (lengthBytes content.length ++ content)) :=
        close_of_le hc
      exact Except.ok.inj (h.symm.trans hclose)
    rw [hbs, read?, Object.readLength?_lengthBytes hc]
    simp
  · rw [show wrap tag content = _ from close_of_lt (Nat.lt_of_not_le hc)] at h
    cases h

end CardToolkit.Frame
