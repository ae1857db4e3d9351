import CardToolkit.TerminalResponse
import CardToolkit.Tlv.Frame

/-!
# Buffers

A message is put together in a buffer, by one call after the other. A call that
cannot go on stops with a fault; what it has put into the buffer by then stays
there, and the next call finds it. Most calls add to the end of the buffer. The
one that closes a frame works in the place that was left open for the length.

* `Writing`: the calls, and `Writing.on`: what a call leaves of a buffer;
* `Frame.closeIn`: closing a frame in its buffer, which comes to the same as
  `Frame.close` (`closeIn_eq`);
* `Writing.after`, `Writing.outcomes`: what calls leave of a buffer, one after the
  other, and what comes of each.
-/

namespace CardToolkit

/-- What a call has left of a buffer, and the fault at which it stopped, if it
    did. -/
structure Written where
  buffer : List UInt8
  fault : Option EncodingFault
  deriving DecidableEq

/-- An emission goes to the end of a buffer. -/
def Emission.on (e : Emission) (buffer : List UInt8) : Written := ⟨e.putOn buffer, e.fault⟩

namespace Frame

/-- A frame is closed in its buffer: its length takes the place that was left open
    for it, and a length of two bytes moves the content up by one. -/
def closeIn (buffer : List UInt8) : Written :=
  if buffer.length < 2 then ⟨buffer, some .envelopeTooShort⟩
  else
    let n := buffer.length - 2
    if maxLength < n then ⟨buffer, some (.contentTooLong n)⟩
    else if maxShortLength < n then
      ⟨(buffer.set 1 lengthExtension).insertIdx 2 (UInt8.ofNat n), none⟩
    else ⟨buffer.set 1 (UInt8.ofNat n), none⟩

/-- What closes a frame in its buffer leaves the closed frame there, or the buffer
    as it was. -/
theorem closeIn_eq (buffer : List UInt8) :
    closeIn buffer =
      match close buffer with
      | .ok bs => ⟨bs, none⟩
      | .error f => ⟨buffer, some f⟩ := by
  match buffer with
  | [] => rfl
  | [_] => rfl
  | tag :: place :: content =>
    have hlength : ¬(tag :: place :: content).length < 2 := by simp
    rw [closeIn, if_neg hlength]
    show (if maxLength < content.length then _ else _) = _
    split
    · next hlong => rw [close_of_lt hlong]; rfl
    · next hshort =>
      rw [close_of_le (Nat.not_lt.1 hshort), lengthBytes]
      show (if maxShortLength < content.length then _ else _) = _
      split <;> rfl

end Frame

/-- A call that writes in a buffer. -/
inductive Writing
  /-- A length goes to the end. -/
  | length (n : Nat)
  /-- An object goes to the end. -/
  | object (o : Object)
  /-- The object of an answer goes to the end. -/
  | answer (data : AnswerData)
  /-- The frame that fills the buffer is closed. -/
  | close
  deriving DecidableEq

namespace Writing

/-- What a call leaves of a buffer. -/
def on (w : Writing) (buffer : List UInt8) : Written :=
  match w with
  | length n => (lengthEmission n).on buffer
  | object o => o.emission.on buffer
  | answer data => data.object.emission.on buffer
  | close => Frame.closeIn buffer

/-- What calls leave of a buffer, each of them working on what the one before has
    left. -/
def after (buffer : List UInt8) : List Writing → List UInt8
  | [] => buffer
  | w :: ws => after (w.on buffer).buffer ws

/-- What comes of each call. -/
def outcomes (buffer : List UInt8) : List Writing → List Written
  | [] => []
  | w :: ws => w.on buffer :: outcomes (w.on buffer).buffer ws

end Writing

end CardToolkit
