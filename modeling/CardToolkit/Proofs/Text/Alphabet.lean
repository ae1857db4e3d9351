import CardToolkit.Text.Alphabet

/-!
# The default alphabet is read back

A character is *listed* if the default alphabet or its extension has it
(`Alphabet.IsListed`). Its septets are read as this character, and those of any
other as a question mark, whatever comes after them: the escape is the septet of
no character, so that a reader sees where a pair begins.

* `decode_septets`: the septets of one character are read back;
* `decode_encode`: the septets of a text are;
* `lt_of_mem_encode`: all of them are below 128.
-/

namespace CardToolkit.Text.Alphabet

variable {c : Char} {s : UInt8} {rest : List UInt8}

/-- The default alphabet or its extension has the character. -/
def IsListed (c : Char) : Prop := (c ∈ basic ∧ c ≠ vacant) ∨ c ∈ extension.map Prod.snd

instance (c : Char) : Decidable (IsListed c) := inferInstanceAs (Decidable (_ ∨ _))

/-! ## The tables -/

/-- A character of the default alphabet stands in the place of its septet. -/
theorem exists_place_of_basicSeptet? (h : basicSeptet? c = some s) :
    c ≠ vacant ∧ s.toNat < 128 ∧ basic[s.toNat]? = some c := by
  rw [basicSeptet?] at h
  split at h
  · cases h
  · next hvacant =>
    obtain ⟨i, hi, rfl⟩ := Option.map_eq_some_iff.1 h
    obtain ⟨hlt, hget, -⟩ := List.idxOf?_eq_some_iff.1 hi
    have hlength : basic.length = 128 := rfl
    have hbyte : (UInt8.ofNat i).toNat = i := by
      rw [UInt8.toNat_ofNat']
      omega
    rw [hbyte]
    exact ⟨hvacant, by omega, by rw [List.getElem?_eq_getElem hlt, hget]⟩

/-- The septet of a character of the default alphabet is not the escape, and is
    read as the character. -/
theorem basicChar?_of_basicSeptet? (h : basicSeptet? c = some s) : basicChar? s = some c := by
  obtain ⟨hvacant, -, hplace⟩ := exists_place_of_basicSeptet? h
  have hescape : s ≠ escape := by
    rintro rfl
    -- In the place of the escape no character stands.
    exact hvacant (Option.some.inj hplace).symm
  rw [basicChar?, if_neg hescape, hplace]

/-- The septet of a character of the extension is below 128, and is read as the
    character behind the escape. -/
theorem extensionChar?_of_extensionSeptet? (h : extensionSeptet? c = some s) :
    s < 0x80 ∧ extensionChar? s = some c := by
  have htable : ∀ entry ∈ extension, entry.1 < 0x80 ∧ extensionChar? entry.1 = some entry.2 := by
    decide
  obtain ⟨entry, hentry, rfl⟩ := Option.map_eq_some_iff.1 h
  have hchar := List.find?_some hentry
  obtain rfl := beq_iff_eq.1 hchar
  exact htable entry (List.mem_of_find?_eq_some hentry)

theorem isSome_basicSeptet?_iff : (basicSeptet? c).isSome = true ↔ c ∈ basic ∧ c ≠ vacant := by
  rw [basicSeptet?]
  split
  · next h => simp [h]
  · next h => simp [h]

theorem isSome_extensionSeptet?_iff :
    (extensionSeptet? c).isSome = true ↔ c ∈ extension.map Prod.snd := by
  simp [extensionSeptet?]

/-- What a reader finds for a character: the character if it is listed, and else a
    question mark. -/
theorem readable_eq (c : Char) : readable c = if IsListed c then c else '?' := by
  rw [readable]
  refine ite_congr ?_ (fun _ => rfl) fun _ => rfl
  rw [Bool.or_eq_true, isSome_basicSeptet?_iff, isSome_extensionSeptet?_iff, IsListed]

/-! ## Reading one character -/

/-- A septet that stands alone is read first. -/
theorem decode_of_basicChar? (h : basicChar? s = some c) :
    decode (s :: rest) = (decode rest).map (c :: ·) := by
  have hescape : s ≠ escape := by
    rintro rfl
    cases h
  cases rest with
  | nil => simp [decode, h]
  | cons t rest =>
    rw [decode, if_neg hescape, h, Option.map_eq_bind]
    rfl

/-- The escape is read together with the septet behind it. -/
theorem decode_of_extensionChar? (h : extensionChar? s = some c) :
    decode (escape :: s :: rest) = (decode rest).map (c :: ·) := by
  rw [decode, if_pos rfl, h, Option.map_eq_bind]
  rfl

/-- The septets of a character are read as what is readable of it. -/
theorem decode_septets (c : Char) (rest : List UInt8) :
    decode (septets c ++ rest) = (decode rest).map (readable c :: ·) := by
  rw [septets, readable]
  cases hbasic : basicSeptet? c with
  | some s => exact decode_of_basicChar? (basicChar?_of_basicSeptet? hbasic)
  | none =>
    cases hextension : extensionSeptet? c with
    | some s => exact decode_of_extensionChar? (extensionChar?_of_extensionSeptet? hextension).2
    | none =>
      have hquestion : basicChar? substitute = some '?' := by decide
      exact decode_of_basicChar? hquestion

/-! ## Reading a text -/

/-- The septets of a text are read as the text, with a question mark for each
    character that is not listed. -/
theorem decode_encode (text : String) :
    decode (encode text) = some (text.toList.map fun c => if IsListed c then c else '?') := by
  rw [encode]
  induction text.toList with
  | nil => rfl
  | cons c cs ih =>
    rw [encodeChars_cons, decode_septets, ih, readable_eq]
    rfl

/-- A septet of a character is below 128. -/
theorem lt_of_mem_septets (h : s ∈ septets c) : s < 0x80 := by
  rw [septets] at h
  cases hbasic : basicSeptet? c with
  | some s' =>
    rw [hbasic, List.mem_singleton] at h
    obtain ⟨-, hlt, -⟩ := exists_place_of_basicSeptet? hbasic
    rw [h]
    exact hlt
  | none =>
    rw [hbasic] at h
    cases hextension : extensionSeptet? c with
    | some s' =>
      rw [hextension] at h
      rcases List.mem_cons.1 h with rfl | h
      · decide
      · rw [List.mem_singleton.1 h]
        exact (extensionChar?_of_extensionSeptet? hextension).1
    | none =>
      rw [hextension, List.mem_singleton] at h
      rw [h]
      decide

/-- The septets of a text are below 128. -/
theorem lt_of_mem_encode {text : String} (h : s ∈ encode text) : s < 0x80 := by
  obtain ⟨c, -, hc⟩ := List.mem_flatMap.1 h
  exact lt_of_mem_septets hc

end CardToolkit.Text.Alphabet
