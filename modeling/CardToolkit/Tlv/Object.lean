import CardToolkit.Tlv.Emission

/-!
# Objects

An *object* is a tag byte, a length and as many bytes of value. A length below
`0x80` is one byte; one up to `0xFF` is the byte `0x81` and one more; none is
larger.

* `Object.emission`: writing an object — the tag comes before the length, and
  stays in the buffer when the value is too long;
* `Object.read?`: reading an object from the front of bytes;
* `Object.readAll`: reading bytes to the end as objects;
* `readAll_flatMap_bytes`: objects are read back as they were written.
-/

namespace CardToolkit

/-- The byte in front of a length that has no room in one byte. -/
def lengthExtension : UInt8 := 0x81

/-- The largest length told in one byte. -/
def maxShortLength : Nat := 0x7F

/-- The largest length. -/
def maxLength : Nat := 0xFF

/-- The number of bytes of a length. -/
def lengthSize (n : Nat) : Nat := if maxShortLength < n then 2 else 1

/-- The bytes of a length up to `maxLength`. -/
def lengthBytes (n : Nat) : List UInt8 :=
  if maxShortLength < n then [lengthExtension, UInt8.ofNat n] else [UInt8.ofNat n]

/-- Writing a length; one beyond `maxLength` writes nothing. -/
def lengthEmission (n : Nat) : Emission :=
  if maxLength < n then .stop (.valueTooLong n) else .write (lengthBytes n)

@[simp] theorem length_lengthBytes (n : Nat) : (lengthBytes n).length = lengthSize n := by
  unfold lengthBytes lengthSize
  split <;> rfl

theorem lengthEmission_of_le {n : Nat} (h : n ≤ maxLength) :
    lengthEmission n = .write (lengthBytes n) := if_neg (Nat.not_lt.2 h)

theorem lengthEmission_of_lt {n : Nat} (h : maxLength < n) :
    lengthEmission n = .stop (.valueTooLong n) := if_pos h

/-- A tag and a value. -/
structure Object where
  tag : UInt8
  value : List UInt8
  deriving DecidableEq

namespace Object

/-- The bytes of an object whose value is not too long. -/
def bytes (o : Object) : List UInt8 := o.tag :: lengthBytes o.value.length ++ o.value

/-- Writing an object: its tag, its length and its value, in this order. -/
def emission (o : Object) : Emission :=
  .write [o.tag] ++ (lengthEmission o.value.length ++ .write o.value)

/-- Writing objects one after the other. -/
def emissions (os : List Object) : Emission := .concat (os.map emission)

/-- An object whose value is not too long is written in full. -/
theorem emission_of_le {o : Object} (h : o.value.length ≤ maxLength) :
    o.emission = .write o.bytes := by
  rw [emission, lengthEmission_of_le h]
  rfl

/-- Of an object whose value is too long, only the tag is written. -/
theorem emission_of_lt {o : Object} (h : maxLength < o.value.length) :
    o.emission = ⟨[o.tag], some (.valueTooLong o.value.length)⟩ := by
  rw [emission, lengthEmission_of_lt h]
  rfl

/-! ## Reading -/

/-- A length at the front of bytes, and the rest. The long form is for lengths
    that need it. -/
def readLength? : List UInt8 → Option (Nat × List UInt8)
  | [] => none
  | b :: rest =>
    if b < 0x80 then some (b.toNat, rest)
    else if b = lengthExtension then
      match rest with
      | [] => none
      | n :: rest => if 0x80 ≤ n then some (n.toNat, rest) else none
    else none

/-- An object at the front of bytes, and the rest. -/
def read? : List UInt8 → Option (Object × List UInt8)
  | [] => none
  | tag :: rest => do
    let (n, rest) ← readLength? rest
    if n ≤ rest.length then some (⟨tag, rest.take n⟩, rest.drop n) else none

/-- What is left after a length is shorter than what there was. -/
theorem length_of_readLength? {bs rest : List UInt8} {n : Nat}
    (h : readLength? bs = some (n, rest)) : rest.length < bs.length := by
  revert h
  cases bs with
  | nil => exact nofun
  | cons b bs =>
    unfold readLength?
    dsimp only
    split
    · rintro ⟨⟩
      exact Nat.lt_succ_self _
    · split
      · cases bs with
        | nil => exact nofun
        | cons m bs =>
          dsimp only
          split
          · rintro ⟨⟩
            simp only [List.length_cons]
            omega
          · exact nofun
      · exact nofun

/-- What is left after an object is shorter than what there was. -/
theorem length_of_read? {bs rest : List UInt8} {o : Object}
    (h : read? bs = some (o, rest)) : rest.length < bs.length := by
  cases bs with
  | nil => cases h
  | cons tag bs =>
    rw [read?] at h
    cases hl : readLength? bs with
    | none => simp [hl] at h
    | some p =>
      obtain ⟨n, tail⟩ := p
      have := length_of_readLength? hl
      simp only [hl, Option.bind_eq_bind, Option.bind_some] at h
      split at h
      · cases h
        simp only [List.length_drop, List.length_cons]
        omega
      · cases h

/-- The objects that bytes consist of, if nothing is missing or left over. -/
def readAll (bs : List UInt8) : Option (List Object) :=
  if bs = [] then some []
  else
    match _h : read? bs with
    | none => none
    | some (o, rest) => (readAll rest).map (o :: ·)
termination_by bs.length
decreasing_by exact length_of_read? _h

@[simp] theorem readAll_nil : readAll [] = some [] := by
  rw [readAll]
  rfl

/-- Bytes that open with an object consist of it and what the rest consists of. -/
theorem readAll_of_read? {bs rest : List UInt8} {o : Object} (h : read? bs = some (o, rest)) :
    readAll bs = (readAll rest).map (o :: ·) := by
  have hne : bs ≠ [] := by
    rintro rfl
    cases h
  rw [readAll, if_neg hne]
  split
  · next h' => rw [h] at h'; cases h'
  · next h' => rw [h] at h'; cases h'; rfl

/-! ## Reading what was written -/

/-- A length is read back. -/
theorem readLength?_lengthBytes {n : Nat} (h : n ≤ maxLength) (rest : List UInt8) :
    readLength? (lengthBytes n ++ rest) = some (n, rest) := by
  have hn : n < 256 := Nat.lt_succ_of_le h
  have htoNat : (UInt8.ofNat n).toNat = n := by
    simpa using Nat.mod_eq_of_lt hn
  unfold lengthBytes
  split
  · next hlong =>
    have hle : (0x80 : UInt8) ≤ UInt8.ofNat n := by
      rw [UInt8.le_iff_toNat_le, htoNat]
      exact hlong
    show readLength? (lengthExtension :: UInt8.ofNat n :: rest) = _
    unfold readLength?
    simp only [lengthExtension, show ¬(0x81 : UInt8) < 0x80 by decide, if_false, if_true, if_pos hle,
      htoNat]
  · next hshort =>
    have hlt : UInt8.ofNat n < (0x80 : UInt8) := by
      rw [UInt8.lt_iff_toNat_lt, htoNat]
      exact Nat.lt_succ_of_le (Nat.not_lt.1 hshort)
    show readLength? (UInt8.ofNat n :: rest) = _
    unfold readLength?
    simp only [if_pos hlt, htoNat]

/-- An object is read back. -/
theorem read?_bytes {o : Object} (h : o.value.length ≤ maxLength) (rest : List UInt8) :
    read? (o.bytes ++ rest) = some (o, rest) := by
  have hcons : o.bytes ++ rest =
      o.tag :: (lengthBytes o.value.length ++ (o.value ++ rest)) := by
    simp [bytes]
  rw [hcons, read?, readLength?_lengthBytes h]
  simp

/-- Objects are read back, one after the other. -/
theorem readAll_flatMap_bytes {os : List Object} (h : ∀ o ∈ os, o.value.length ≤ maxLength)
    (rest : List UInt8) :
    readAll (os.flatMap bytes ++ rest) = (readAll rest).map (os ++ ·) := by
  induction os with
  | nil => simp
  | cons o os ih =>
    rw [List.flatMap_cons, List.append_assoc,
      readAll_of_read? (read?_bytes (h o List.mem_cons_self) _),
      ih fun o ho => h o (List.mem_cons_of_mem _ ho)]
    cases readAll rest <;> rfl

/-- Objects whose values are not too long are written in full. -/
theorem emissions_of_le {os : List Object} (h : ∀ o ∈ os, o.value.length ≤ maxLength) :
    emissions os = .write (os.flatMap bytes) := by
  induction os with
  | nil => rfl
  | cons o os ih =>
    have ih := ih fun o ho => h o (List.mem_cons_of_mem _ ho)
    unfold emissions at ih ⊢
    rw [List.map_cons, Emission.concat, emission_of_le (h o List.mem_cons_self), ih]
    rfl

end Object

end CardToolkit
