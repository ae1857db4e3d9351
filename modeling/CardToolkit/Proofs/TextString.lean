import CardToolkit.Proofs.Encoding
import CardToolkit.Proofs.Reading
import CardToolkit.Proofs.Text.Alphabet
import CardToolkit.Proofs.Text.Septets
import CardToolkit.Proofs.Text.Ucs2

/-!
# Text strings are read back

The text that a user entered goes to the card in one object, whose value opens
with the byte of its coding. One who reads that byte and decodes the others by it
(`AnswerData.readText`) finds the text: in UCS2 as it was, and in septets with a
question mark for each character that the default alphabet has not. Octets do not
tell how many septets were packed in them, and so a reader has to know.

* `readText_scheme_encode`: the byte of the coding fits the bytes behind it;
* `textObject_reads_back`: what the object of a text is, when it is written, and
  what is read from it.
-/

namespace CardToolkit

namespace Object

variable {o : Object} {bs : List UInt8}

/-- An object is written as these bytes just if its value is not too long and they
    are the bytes of the object. -/
theorem result_emission_eq_ok_iff :
    o.emission.result = .ok bs ↔ o.value.length ≤ maxLength ∧ bs = o.bytes := by
  rcases Nat.lt_or_ge maxLength o.value.length with hlong | hshort
  · rw [emission_of_lt hlong]
    exact iff_of_false nofun fun h => absurd h.1 (Nat.not_le.2 hlong)
  · rw [emission_of_le hshort, Emission.result_write, and_iff_right hshort]
    exact ⟨fun h => (Except.ok.inj h).symm, fun h => congrArg Except.ok h.symm⟩

/-- An object is written as these bytes just if it alone is read from them. -/
theorem result_emission_eq_ok_iff_readAll :
    o.emission.result = .ok bs ↔ readAll bs = some [o] := by
  rw [result_emission_eq_ok_iff, readAll_eq_some_iff, List.flatMap_singleton]
  simp only [List.mem_singleton, forall_eq]

end Object

namespace Coding

open Text

/-- What is left of a text in a coding: in septets, the characters that the default
    alphabet has, with question marks between them. -/
def kept (coding : Coding) (text : String) : List Char :=
  match coding with
  | ucs2 => text.toList
  | packed | unpacked => text.toList.map fun c => if Alphabet.IsListed c then c else '?'

/-- The empty text has no bytes, in any coding. -/
theorem encode_empty (coding : Coding) : coding.encode "" = [] := by
  cases coding with
  | packed => exact Septets.octets_nil
  | unpacked => rfl
  | ucs2 => rfl

end Coding

namespace AnswerData

open Text

/-- The text in the value of a text string, behind the byte of its coding, where `n`
    is the number of its septets. -/
def readText (n : Nat) : List UInt8 → Option (List Char)
  | [] => none
  | scheme :: data =>
    if scheme = 0x08 then Ucs2.decode data
    else if scheme = 0x04 then Alphabet.decode data
    else if scheme = 0x00 then Alphabet.decode (Septets.unpack n data)
    else none

/-- What is read behind the byte of a coding is what is left of the text in it. -/
theorem readText_scheme_encode (coding : Coding) (text : String) :
    readText (Alphabet.encode text).length (coding.scheme :: coding.encode text) =
      some (coding.kept text) := by
  cases coding with
  | packed =>
    show Alphabet.decode (Septets.unpack _ (Septets.pack (Alphabet.encode text))) = _
    rw [Septets.unpack_pack_of_lt fun _ => Alphabet.lt_of_mem_encode]
    exact Alphabet.decode_encode text
  | unpacked => exact Alphabet.decode_encode text
  | ucs2 => exact Ucs2.decode_encode text

/-- The object of a text opens with the byte of the coding that is asked for, UCS2
    before packed septets, and the bytes behind it are read by that byte: in UCS2 as
    the text, in septets as the text with a question mark for each character that is
    not listed. The empty text has no bytes. The object is written just if these
    bytes are fewer than 255, its length is theirs and one more, and it alone is read
    from what is written. -/
theorem textObject_reads_back (text : String) (ucs2 packed : Bool) :
    ∃ (scheme : UInt8) (data : List UInt8),
      scheme = (if ucs2 then 0x08 else if packed then 0x00 else 0x04) ∧
      readText (Alphabet.encode text).length (scheme :: data) =
        some (if ucs2 then text.toList
          else text.toList.map fun c => if Alphabet.IsListed c then c else '?') ∧
      (text = "" → data = []) ∧
      ∀ bs, let written := (AnswerData.text text (.ofFlags ucs2 packed)).object.emission.result
        (written = .ok bs ↔
          data.length < 255 ∧ bs = 0x8D :: lengthBytes (data.length + 1) ++ scheme :: data) ∧
        (written = .ok bs ↔ Object.readAll bs = some [⟨0x8D, scheme :: data⟩]) := by
  refine ⟨(Coding.ofFlags ucs2 packed).scheme, (Coding.ofFlags ucs2 packed).encode text, ?_, ?_, ?_,
    fun bs => ⟨?_, Object.result_emission_eq_ok_iff_readAll⟩⟩
  · cases ucs2 <;> cases packed <;> rfl
  · rw [readText_scheme_encode]
    cases ucs2 <;> cases packed <;> rfl
  · rintro rfl
    exact Coding.encode_empty _
  · rw [Object.result_emission_eq_ok_iff]
    exact Iff.rfl

end AnswerData

end CardToolkit
