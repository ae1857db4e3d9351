import CardToolkit.Text.Ucs2

/-!
# Units of sixteen bits are read back

A text in UCS2 loses nothing: a unit is the two bytes that it was cut into, and a
character is the one unit or the pair of them that it was written in. No character
is a surrogate, so that a reader sees where a pair begins.

* `unitsOfBytes_flatMap`: units are found again in their bytes;
* `charsOfUnits_units`: a character is found again in its units;
* `decode_encode`, `length_encode`: the same of a text, and the number of bytes.
-/

namespace CardToolkit.Text.Ucs2

variable {u v : Nat} {c : Char} {rest : List Nat}

/-! ## Bytes of units -/

theorem unitsOfBytes_unitBytes (hu : u < 0x10000) (bytes : List UInt8) :
    unitsOfBytes (unitBytes u ++ bytes) = (unitsOfBytes bytes).map (u :: ·) := by
  have hhigh : (UInt8.ofNat (u / 256)).toNat = u / 256 := by
    rw [UInt8.toNat_ofNat']
    omega
  have hlow : (UInt8.ofNat (u % 256)).toNat = u % 256 := by
    rw [UInt8.toNat_ofNat']
    omega
  show (unitsOfBytes bytes).map _ = _
  rw [hhigh, hlow, Nat.div_add_mod]

/-- Units are found again in their bytes. -/
theorem unitsOfBytes_flatMap {us : List Nat} (h : ∀ u ∈ us, u < 0x10000) :
    unitsOfBytes (us.flatMap unitBytes) = some us := by
  induction us with
  | nil => rfl
  | cons u us ih =>
    rw [List.flatMap_cons, unitsOfBytes_unitBytes (h u List.mem_cons_self),
      ih fun v hv => h v (List.mem_cons_of_mem u hv)]
    rfl

/-- A text has two bytes for each unit. -/
theorem length_encode (text : String) : (encode text).length = 2 * (unitsOf text).length := by
  rw [encode]
  induction unitsOf text with
  | nil => rfl
  | cons u us ih =>
    rw [List.flatMap_cons, List.length_append, ih, List.length_cons]
    show 2 + 2 * us.length = 2 * (us.length + 1)
    omega

/-! ## Units of characters -/

/-- No character is a surrogate, and none is beyond the last plane. -/
theorem toNat_bounds (c : Char) : c.toNat < 0xD800 ∨ 0xDFFF < c.toNat ∧ c.toNat < 0x110000 :=
  c.valid

theorem lt_of_mem_units (h : u ∈ units c) : u < 0x10000 := by
  have hc := toNat_bounds c
  rw [units] at h
  split at h
  · next hfirst =>
    rw [List.mem_singleton.1 h]
    exact hfirst
  · rcases List.mem_cons.1 h with rfl | h
    · omega
    · rw [List.mem_singleton.1 h]
      omega

/-- A unit that is no surrogate is a character by itself. -/
theorem charsOfUnits_of_not_surrogate (h : u < 0xD800 ∨ 0xDFFF < u) :
    charsOfUnits (u :: rest) = (charsOfUnits rest).map (Char.ofNat u :: ·) := by
  have hhigh : isHighSurrogate u = false := by
    simp only [isHighSurrogate, Bool.and_eq_false_iff, decide_eq_false_iff_not]
    omega
  have hlow : isLowSurrogate u = false := by
    simp only [isLowSurrogate, Bool.and_eq_false_iff, decide_eq_false_iff_not]
    omega
  cases rest with
  | nil => simp [charsOfUnits, hhigh, hlow]
  | cons v rest => simp [charsOfUnits, hhigh, hlow]

/-- A high surrogate with a low one behind it is a character. -/
theorem charsOfUnits_of_pair (hu : 0xD800 ≤ u ∧ u < 0xDC00) (hv : 0xDC00 ≤ v ∧ v < 0xE000) :
    charsOfUnits (u :: v :: rest) =
      (charsOfUnits rest).map
        (Char.ofNat (0x10000 + (u - 0xD800) * 0x400 + (v - 0xDC00)) :: ·) := by
  simp [charsOfUnits, isHighSurrogate, isLowSurrogate, hu, hv]

/-- A character is found again in its units. -/
theorem charsOfUnits_units (c : Char) (rest : List Nat) :
    charsOfUnits (units c ++ rest) = (charsOfUnits rest).map (c :: ·) := by
  have hc := toNat_bounds c
  rw [units]
  split
  · next hfirst =>
    rw [List.singleton_append, charsOfUnits_of_not_surrogate (by omega), Char.ofNat_toNat]
  · next hbeyond =>
    have hsum : 0x10000 + (0xD800 + (c.toNat - 0x10000) / 0x400 - 0xD800) * 0x400 +
        (0xDC00 + (c.toNat - 0x10000) % 0x400 - 0xDC00) = c.toNat := by omega
    show charsOfUnits (_ :: _ :: rest) = _
    rw [charsOfUnits_of_pair (by omega) (by omega), hsum, Char.ofNat_toNat]

/-- A text is found again in its units. -/
theorem charsOfUnits_unitsOf (text : String) : charsOfUnits (unitsOf text) = some text.toList := by
  rw [unitsOf]
  induction text.toList with
  | nil => rfl
  | cons c cs ih =>
    rw [List.flatMap_cons, charsOfUnits_units, ih]
    rfl

/-- A text is found again in its bytes. -/
theorem decode_encode (text : String) : decode (encode text) = some text.toList := by
  have hunits : ∀ u ∈ unitsOf text, u < 0x10000 := fun u hu => by
    obtain ⟨c, -, hc⟩ := List.mem_flatMap.1 hu
    exact lt_of_mem_units hc
  rw [decode, encode, unitsOfBytes_flatMap hunits]
  exact charsOfUnits_unitsOf text

end CardToolkit.Text.Ucs2
