import CardToolkit.Tlv.Frame

/-!
# Reading is exact

That a reader takes back what the writer put says nothing of what else it would
take. Here the readers take nothing else: each of them succeeds just on the bytes
that the writer makes of what is read. Of a length this is so because the long
form is kept for lengths that need it.

* `readLength?_eq_some_iff`, `read?_eq_some_iff`, `readAll_eq_some_iff`: what is
  read as a length, as an object, and as objects to the end;
* `readAll_flatMap_append_iff`, `readAll_header_iff`: what is read behind whole
  objects, and behind a tag and a length;
* `Frame.read?_eq_some_iff`: what is read as a frame;
* `Hex.IsTextOf`: a text in upper-case digits, two for each byte.
-/

namespace CardToolkit

namespace Object

variable {bs rest : List UInt8} {n : Nat} {o : Object}

/-- A length is read just where it was written. -/
theorem readLength?_eq_some_iff :
    readLength? bs = some (n, rest) ↔ n ≤ maxLength ∧ bs = lengthBytes n ++ rest := by
  constructor
  · intro h
    cases bs with
    | nil => cases h
    | cons b bs =>
      unfold readLength? at h
      dsimp only at h
      split at h
      · next hshort =>
        cases h
        have hb : b.toNat < 0x80 := hshort
        have hlt : ¬maxShortLength < b.toNat := by
          unfold maxShortLength
          omega
        refine ⟨Nat.le_of_lt_succ b.toNat_lt, ?_⟩
        rw [lengthBytes, if_neg hlt, UInt8.ofNat_toNat]
        rfl
      · split at h
        · next hext =>
          cases bs with
          | nil => cases h
          | cons m bs =>
            dsimp only at h
            split at h
            · next hlong =>
              -- The long form is read only where the short one has no room.
              cases h
              have hm : maxShortLength < m.toNat := hlong
              refine ⟨Nat.le_of_lt_succ m.toNat_lt, ?_⟩
              rw [lengthBytes, if_pos hm, UInt8.ofNat_toNat, hext]
              rfl
            · cases h
        · cases h
  · rintro ⟨hn, rfl⟩
    exact readLength?_lengthBytes hn rest

/-- An object is read just where it was written. -/
theorem read?_eq_some_iff :
    read? bs = some (o, rest) ↔ o.value.length ≤ maxLength ∧ bs = o.bytes ++ rest := by
  constructor
  · intro h
    cases bs with
    | nil => cases h
    | cons tag bs =>
      rw [read?] at h
      cases hl : readLength? bs with
      | none => simp [hl] at h
      | some p =>
        obtain ⟨n, tail⟩ := p
        obtain ⟨hn, rfl⟩ := readLength?_eq_some_iff.1 hl
        simp only [hl, Option.bind_eq_bind, Option.bind_some] at h
        split at h
        · next hle =>
          cases h
          have hlength : (tail.take n).length = n := List.length_take_of_le hle
          refine ⟨Nat.le_trans (Nat.le_of_eq hlength) hn, ?_⟩
          simp [bytes, hlength]
        · cases h
  · rintro ⟨ho, rfl⟩
    exact read?_bytes ho rest

/-- Bytes are read to the end as objects just if they are what was written of
    them. -/
theorem readAll_eq_some_iff {os : List Object} :
    readAll bs = some os ↔ (∀ o ∈ os, o.value.length ≤ maxLength) ∧ bs = os.flatMap bytes := by
  constructor
  · intro h
    induction os generalizing bs with
    | nil =>
      rw [readAll] at h
      split at h
      · next hnil => exact ⟨fun _ ho => absurd ho List.not_mem_nil, hnil⟩
      · split at h
        · cases h
        · obtain ⟨_, -, hcons⟩ := Option.map_eq_some_iff.1 h
          cases hcons
    | cons o os ih =>
      rw [readAll] at h
      split at h
      · cases h
      · split at h
        · cases h
        · next o' rest hread =>
          obtain ⟨os', hrest, hcons⟩ := Option.map_eq_some_iff.1 h
          obtain ⟨rfl, rfl⟩ := List.cons.inj hcons
          obtain ⟨ho, rfl⟩ := read?_eq_some_iff.1 hread
          obtain ⟨hos, rfl⟩ := ih hrest
          exact ⟨List.forall_mem_cons.2 ⟨ho, hos⟩, rfl⟩
  · rintro ⟨hos, rfl⟩
    have h := readAll_flatMap_bytes hos []
    rwa [List.append_nil, readAll_nil, Option.map_some, List.append_nil] at h

/-- Behind whole objects, what is read of bytes is what is read of them alone. -/
theorem readAll_flatMap_append_iff {os os' : List Object}
    (h : ∀ o ∈ os, o.value.length ≤ maxLength) :
    readAll (os.flatMap bytes ++ rest) = some os' ↔
      ∃ os'', readAll rest = some os'' ∧ os' = os ++ os'' := by
  rw [readAll_flatMap_bytes h, Option.map_eq_some_iff]
  exact exists_congr fun _ => and_congr_right fun _ => eq_comm

/-- Bytes that do not open with an object are no objects. -/
theorem readAll_of_read?_eq_none (hne : bs ≠ []) (h : read? bs = none) : readAll bs = none := by
  rw [readAll, if_neg hne]
  split
  · rfl
  · next hsome =>
    rw [h] at hsome
    cases hsome

/-- Behind a tag and a short length, the value is read that the length says, and
    then what follows it. -/
theorem readAll_header_iff {tag length : UInt8} {os : List Object} (h : length < 0x80) :
    readAll (tag :: length :: rest) = some os ↔
      ∃ value rest' os', rest = value ++ rest' ∧ value.length = length.toNat ∧
        readAll rest' = some os' ∧ os = ⟨tag, value⟩ :: os' := by
  have hread : readLength? (length :: rest) = some (length.toNat, rest) := if_pos h
  by_cases hle : length.toNat ≤ rest.length
  · have hobject : read? (tag :: length :: rest) =
        some (⟨tag, rest.take length.toNat⟩, rest.drop length.toNat) := by
      simp [read?, hread, hle]
    rw [readAll_of_read? hobject, Option.map_eq_some_iff]
    constructor
    · rintro ⟨os', hos', rfl⟩
      exact ⟨_, _, os', (List.take_append_drop _ _).symm, List.length_take_of_le hle, hos', rfl⟩
    · rintro ⟨value, rest', os', rfl, hlength, hos', rfl⟩
      rw [← hlength, List.drop_left, List.take_left]
      exact ⟨os', hos', rfl⟩
  · have hobject : read? (tag :: length :: rest) = none := by
      simp [read?, hread, hle]
    rw [readAll_of_read?_eq_none (List.cons_ne_nil _ _) hobject]
    refine iff_of_false (Option.some_ne_none os).symm ?_
    rintro ⟨value, rest', os', rfl, hlength, -⟩
    rw [List.length_append] at hle
    omega

end Object

/-- A frame is read just where it was written. -/
theorem Frame.read?_eq_some_iff {bs content : List UInt8} {tag : UInt8} :
    Frame.read? bs = some (tag, content) ↔ Frame.wrap tag content = .ok bs := by
  constructor
  · intro h
    cases bs with
    | nil => cases h
    | cons tag' bs =>
      rw [Frame.read?] at h
      cases hl : Object.readLength? bs with
      | none => simp [hl] at h
      | some p =>
        obtain ⟨n, tail⟩ := p
        obtain ⟨hn, rfl⟩ := Object.readLength?_eq_some_iff.1 hl
        simp only [hl, Option.bind_eq_bind, Option.bind_some] at h
        split at h
        · next hlength =>
          cases h
          rw [← hlength] at hn ⊢
          exact Frame.close_of_le hn
        · cases h
  · exact Frame.read?_of_wrap

namespace Hex

/-- The text is that of the bytes: two digits for each, in upper case. -/
structure IsTextOf (text : String) (bs : List UInt8) : Prop where
  upper : ∀ c ∈ text.toList, '0' ≤ c ∧ c ≤ '9' ∨ 'A' ≤ c ∧ c ≤ 'F'
  decode : Hex.decode text = .ok bs

/-- A digit is in upper case. -/
theorem upper_digit : ∀ n < 16,
    '0' ≤ digit n ∧ digit n ≤ '9' ∨ 'A' ≤ digit n ∧ digit n ≤ 'F' := by
  decide

/-- What is written of bytes is their text. -/
theorem isTextOf_encode (bs : List UInt8) : IsTextOf (encode bs) bs where
  upper c hc := by
    rw [encode, String.toList_ofList, digits, List.mem_flatMap] at hc
    obtain ⟨b, -, hb⟩ := hc
    have hlt := b.toNat_lt
    simp only [byteDigits, List.mem_cons, List.not_mem_nil, or_false] at hb
    rcases hb with rfl | rfl
    · exact upper_digit _ (by omega)
    · exact upper_digit _ (by omega)
  decode := decode_encode bs

end Hex

end CardToolkit
