import CardToolkit.Text.Septets

/-!
# Packed septets are not lost

Packing goes through two rows of bits, seven for each septet and eight for each
octet, which agree but for the zeros that fill up the last octet. So the number of
octets follows from that of septets, and all septets are found again in their
octets, if their number is known.

* `number_lowBits`, `lowBits_number`: a byte and its bits;
* `octetBits_octets`, `length_pack`: the octets of a row of bits;
* `unpack_pack`: the septets of packed octets.
-/

namespace CardToolkit.Text.Septets

variable {bs rest : List Bool} {w k : Nat} {b : UInt8}

/-! ## A byte and its bits -/

/-- The bits of a number are those that it was made from, and zeros. -/
theorem testBit_number (bs : List Bool) (i : Nat) :
    (number bs).testBit i = bs[i]?.getD false := by
  induction bs generalizing i with
  | nil => simp [number]
  | cons b bs ih =>
    rw [number]
    cases i with
    | zero => cases b <;> simp [Nat.testBit_zero, Nat.add_mod]
    | succ i =>
      have hhalf : (b.toNat + 2 * number bs) / 2 = number bs := by
        have hb := Bool.toNat_le b
        omega
      rw [Nat.testBit_succ, hhalf, ih]
      rfl

/-- A row of bits makes a number that has no more. -/
theorem number_lt (bs : List Bool) : number bs < Nat.pow 2 bs.length := by
  refine Nat.lt_pow_two_of_testBit _ fun i hi => ?_
  rw [testBit_number, List.getElem?_eq_none hi]
  rfl

theorem getElem?_lowBits (w : Nat) (b : UInt8) (i : Nat) :
    (lowBits w b)[i]? = if i < w then some (b.toNat.testBit i) else none := by
  rcases Nat.lt_or_ge i w with hi | hi
  · rw [lowBits, List.getElem?_map, List.getElem?_range hi, if_pos hi]
    rfl
  · rw [if_neg (Nat.not_lt.2 hi)]
    exact List.getElem?_eq_none (by rwa [length_lowBits])

/-- The lowest bits of a byte make up the byte, as far as they go. -/
theorem number_lowBits (w : Nat) (b : UInt8) : number (lowBits w b) = b.toNat % Nat.pow 2 w := by
  refine Nat.eq_of_testBit_eq fun i => ?_
  have hmod : (b.toNat % Nat.pow 2 w).testBit i = (decide (i < w) && b.toNat.testBit i) :=
    Nat.testBit_mod_two_pow b.toNat w i
  rw [testBit_number, getElem?_lowBits, hmod]
  by_cases hi : i < w <;> simp [hi]

/-- The bits of a byte made from a short row are that row, filled up with zeros. -/
theorem lowBits_number (h : bs.length ≤ 8) :
    lowBits 8 (UInt8.ofNat (number bs)) = bs ++ List.replicate (8 - bs.length) false := by
  have hbyte : (UInt8.ofNat (number bs)).toNat = number bs := by
    rw [UInt8.toNat_ofNat']
    exact Nat.mod_eq_of_lt (Nat.lt_of_lt_of_le (number_lt bs) (Nat.pow_le_pow_right (by decide) h))
  refine List.ext_getElem? fun i => ?_
  rw [getElem?_lowBits, hbyte, testBit_number]
  rcases Nat.lt_or_ge i bs.length with hi | hi
  · rw [if_pos (Nat.lt_of_lt_of_le hi h), List.getElem?_append_left hi,
      List.getElem?_eq_getElem hi]
    rfl
  · rw [List.getElem?_append_right hi, List.getElem?_replicate, List.getElem?_eq_none hi]
    by_cases hw : i < 8
    · rw [if_pos hw, if_pos (by omega)]
      rfl
    · rw [if_neg hw, if_neg (by omega)]

/-! ## Octets -/

/-- A row of bits has one octet for every eight of them that were begun. -/
theorem length_octets (bs : List Bool) : (octets bs).length = (bs.length + 7) / 8 := by
  fun_induction octets bs with
  | case1 => rfl
  | case2 bs hne ih =>
    have hpos : 0 < bs.length := List.length_pos_iff.2 hne
    rw [List.length_cons, ih, List.length_drop]
    omega

/-- The bits of the octets of a row are the row, filled up with zeros. -/
theorem octetBits_octets (bs : List Bool) :
    octetBits (octets bs) =
      bs ++ List.replicate (8 * ((bs.length + 7) / 8) - bs.length) false := by
  fun_induction octets bs with
  | case1 => rfl
  | case2 bs hne ih =>
    have hpos : 0 < bs.length := List.length_pos_iff.2 hne
    have htake : (bs.take 8).length ≤ 8 := List.length_take_le 8 bs
    have hcons : octetBits (UInt8.ofNat (number (bs.take 8)) :: octets (bs.drop 8)) =
        lowBits 8 (UInt8.ofNat (number (bs.take 8))) ++ octetBits (octets (bs.drop 8)) := rfl
    rw [hcons, lowBits_number htake, ih]
    rcases Nat.lt_or_ge 8 bs.length with hlong | hshort
    · -- A full octet is not filled up.
      have hfull : (bs.take 8).length = 8 := List.length_take_of_le (Nat.le_of_lt hlong)
      have hzeros : 8 * ((bs.length - 8 + 7) / 8) - (bs.length - 8) =
          8 * ((bs.length + 7) / 8) - bs.length := by omega
      rw [hfull, Nat.sub_self, List.replicate_zero, List.append_nil, ← List.append_assoc,
        List.take_append_drop, List.length_drop, hzeros]
    · -- The last octet has all the bits that are left.
      have hzeros : 8 - bs.length = 8 * ((bs.length + 7) / 8) - bs.length := by omega
      rw [List.drop_of_length_le hshort, List.take_of_length_le hshort, hzeros]
      simp

/-- Septets have seven octets for every eight of them. -/
theorem length_pack (ss : List UInt8) : (pack ss).length = (7 * ss.length + 7) / 8 := by
  rw [pack, length_octets, length_bits]

/-! ## Septets -/

/-- The seven lowest bits of a byte, as a byte. -/
theorem ofNat_number_lowBits (s : UInt8) : UInt8.ofNat (number (lowBits 7 s)) = s &&& 0x7F := by
  refine UInt8.toNat.inj ?_
  rw [number_lowBits, UInt8.toNat_ofNat', UInt8.toNat_and]
  show s.toNat % 2 ^ 7 % 2 ^ 8 = s.toNat &&& (2 ^ 7 - 1)
  rw [Nat.and_two_pow_sub_one_eq_mod]
  omega

/-- A septet is found in its place, whatever comes after the septets. -/
theorem septetAt_bits {ss : List UInt8} (hk : k < ss.length) :
    septetAt (bits ss ++ rest) k = ss[k] &&& 0x7F := by
  induction ss generalizing k with
  | nil => cases hk
  | cons s ss ih =>
    have hcons : bits (s :: ss) ++ rest = lowBits 7 s ++ (bits ss ++ rest) := by
      rw [← List.append_assoc]
      rfl
    cases k with
    | zero =>
      rw [hcons, septetAt, Nat.mul_zero, List.drop_zero, List.take_left' (length_lowBits 7 s)]
      exact ofNat_number_lowBits s
    | succ k =>
      have hdrop : (lowBits 7 s ++ (bits ss ++ rest)).drop (7 * (k + 1)) =
          (bits ss ++ rest).drop (7 * k) := by
        rw [Nat.mul_succ, Nat.add_comm, ← List.drop_drop,
          List.drop_left' (length_lowBits 7 s)]
      rw [hcons, septetAt, hdrop]
      exact ih (Nat.lt_of_succ_lt_succ hk)

/-- As many septets as were packed are those that were packed, without their high
    bits. -/
theorem unpack_pack (ss : List UInt8) : unpack ss.length (pack ss) = ss.map (· &&& 0x7F) := by
  refine List.ext_getElem (by simp [unpack]) fun k hk hk' => ?_
  rw [List.length_map] at hk'
  rw [List.getElem_map, ← septetAt_bits hk', ← octetBits_octets]
  simp [unpack, pack]

/-- A septet has no high bit. -/
theorem and_eq_of_lt {s : UInt8} (h : s < 0x80) : s &&& 0x7F = s := by
  have hlt : s.toNat < 2 ^ 7 := h
  refine UInt8.toNat.inj ?_
  rw [UInt8.toNat_and]
  show s.toNat &&& (2 ^ 7 - 1) = s.toNat
  rw [Nat.and_two_pow_sub_one_eq_mod, Nat.mod_eq_of_lt hlt]

/-- Septets are found again in their octets. -/
theorem unpack_pack_of_lt {ss : List UInt8} (h : ∀ s ∈ ss, s < 0x80) :
    unpack ss.length (pack ss) = ss := by
  rw [unpack_pack]
  exact (List.map_congr_left fun s hs => and_eq_of_lt (h s hs)).trans (List.map_id ss)

end CardToolkit.Text.Septets
