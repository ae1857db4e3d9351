import CardToolkit.Proofs.Text.Septets
import Mathlib.Algebra.Order.Floor.Div

/-!
# Packing, bit by bit

Septets are packed as they come, with a register of sixteen bits (`Carry`): a septet
is put behind the bits that are left of those before it, and as soon as there are
eight bits, they go out as an octet. Fewer than eight are left each time, so that the
next seven have room in the register, and the octets that go out are those of the row
of bits as a whole.

In these octets each bit of a septet has its place, and what is behind the last one is
zero. Thus the octets tell the septets if their number is known. If it is not, there is
one doubt alone: seven bits that were filled up may be read as one more septet, which is
zero.

* `Carry.pack_eq`: the octets that go out are those of the row of bits;
* `bitAt_pack`, `bitAt_pack_of_le`: the bits of the octets;
* `pack_eq_pack_iff`: which septets have the same octets;
* `pack_places_bits`: all of this.
-/

namespace CardToolkit.Text.Septets

variable {bs rest : List Bool} {ss ss' os : List UInt8} {w k i j : Nat}

/-! ## Numbers of rows -/

/-- The number of the first bits is what a power of two leaves of the number. -/
theorem number_take (n : Nat) (bs : List Bool) : number (bs.take n) = number bs % 2 ^ n := by
  refine Nat.eq_of_testBit_eq fun i => ?_
  rw [Nat.testBit_mod_two_pow, testBit_number, testBit_number, List.getElem?_take]
  by_cases hi : i < n <;> simp [hi]

/-- The number of the bits behind the first is the quotient. -/
theorem number_drop (n : Nat) (bs : List Bool) : number (bs.drop n) = number bs / 2 ^ n := by
  refine Nat.eq_of_testBit_eq fun i => ?_
  rw [Nat.testBit_div_two_pow, testBit_number, testBit_number, List.getElem?_drop, Nat.add_comm]

theorem number_append (bs rest : List Bool) :
    number (bs ++ rest) = number bs + 2 ^ bs.length * number rest := by
  have hmod : number (bs ++ rest) % 2 ^ bs.length = number bs := by
    rw [← number_take, List.take_left]
  have hdiv : number (bs ++ rest) / 2 ^ bs.length = number rest := by
    rw [← number_drop, List.drop_left]
  rw [← Nat.mod_add_div (number (bs ++ rest)) (2 ^ bs.length), hmod, hdiv]

/-! ## The register -/

/-- A register of sixteen bits, with those that wait for an octet. -/
structure Carry where
  /-- The bits, of which the lowest came first. -/
  bits : UInt16 := 0
  /-- How many of them wait. -/
  count : Nat := 0

namespace Carry

/-- A septet is put behind the bits that wait. -/
def add (c : Carry) (s : UInt8) : Carry where
  bits := c.bits ||| (s &&& 0x7F).toUInt16 <<< UInt16.ofNat c.count
  count := c.count + 7

/-- Octets go out as long as there are eight bits for one. -/
def drain (c : Carry) : List UInt8 × Carry :=
  if 8 ≤ c.count then
    let (out, left) := drain ⟨c.bits >>> 8, c.count - 8⟩
    (c.bits.toUInt8 :: out, left)
  else ([], c)
termination_by c.count

/-- The octets that go out as septets come, the last of them with what is left. -/
def pack (c : Carry) : List UInt8 → List UInt8
  | [] => if 0 < c.count then [c.bits.toUInt8] else []
  | s :: ss => (c.add s).drain.1 ++ pack (c.add s).drain.2 ss

/-- These are the bits that wait, and the rest of the register is zero. -/
structure Holds (c : Carry) (bs : List Bool) : Prop where
  count : c.count = bs.length
  bits : c.bits.toNat = number bs

variable {c : Carry} {s : UInt8}

theorem holds_empty : Holds {} [] := ⟨rfl, rfl⟩

/-- The lowest eight bits of the register are the octet of the first bits that wait. -/
theorem Holds.toUInt8 (h : c.Holds bs) : c.bits.toUInt8 = UInt8.ofNat (number (bs.take 8)) := by
  refine UInt8.toNat.inj ?_
  rw [UInt16.toNat_toUInt8, UInt8.toNat_ofNat', number_take, h.bits, Nat.mod_mod]

/-- A septet has room in the register if there are not eight bits, and none of its
    seven is lost. -/
theorem Holds.add (h : c.Holds bs) (hlt : bs.length < 8) (s : UInt8) :
    (c.add s).Holds (bs ++ lowBits 7 s) where
  count := by
    rw [List.length_append, length_lowBits, ← h.count]
    rfl
  bits := by
    have hseptet : (s &&& 0x7F).toUInt16.toNat = number (lowBits 7 s) := by
      rw [UInt8.toNat_toUInt16, ← ofNat_number_lowBits, UInt8.toNat_ofNat']
      have hsmall := number_lt (lowBits 7 s)
      rw [length_lowBits] at hsmall
      exact Nat.mod_eq_of_lt (Nat.lt_trans hsmall (by decide))
    have hcount : (UInt16.ofNat c.count).toNat % 16 = bs.length := by
      rw [UInt16.toNat_ofNat', h.count]
      omega
    have hroom : 2 ^ bs.length * number (lowBits 7 s) < 2 ^ 16 := by
      have hsmall := number_lt (lowBits 7 s)
      rw [length_lowBits] at hsmall
      calc 2 ^ bs.length * number (lowBits 7 s) < 2 ^ bs.length * 2 ^ 7 :=
            Nat.mul_lt_mul_of_pos_left hsmall (Nat.two_pow_pos _)
        _ = 2 ^ (bs.length + 7) := (Nat.pow_add 2 _ 7).symm
        _ ≤ 2 ^ 16 := Nat.pow_le_pow_right (by decide) (by omega)
    -- The septet is moved behind the bits that wait, so that no two bits meet.
    rw [Carry.add, UInt16.toNat_or, UInt16.toNat_shiftLeft, hseptet, hcount, h.bits,
      Nat.shiftLeft_eq, Nat.mul_comm, Nat.mod_eq_of_lt hroom, Nat.or_comm,
      ← Nat.two_pow_add_eq_or_of_lt (number_lt bs), number_append, Nat.add_comm]

/-- Octets that go out are those in front of the row, whatever comes behind it, and
    fewer than eight bits are left. -/
theorem Holds.drain (h : c.Holds bs) :
    ∃ left, left.length < 8 ∧ c.drain.2.Holds left ∧
      ∀ rest, octets (bs ++ rest) = c.drain.1 ++ octets (left ++ rest) := by
  fun_induction Carry.drain c generalizing bs with
  | case1 c hfull out left hdrain ih =>
    have hlength : 8 ≤ bs.length := h.count ▸ hfull
    have hshifted : Holds ⟨c.bits >>> 8, c.count - 8⟩ (bs.drop 8) := by
      refine ⟨by rw [List.length_drop, ← h.count], ?_⟩
      rw [number_drop, ← h.bits, ← Nat.shiftRight_eq_div_pow]
      rfl
    obtain ⟨left', hlt, hleft, hout⟩ := ih hshifted
    rw [hdrain] at hleft hout
    refine ⟨left', hlt, hleft, fun rest => ?_⟩
    have hne : bs ++ rest ≠ [] := by
      refine List.append_ne_nil_of_left_ne_nil ?_ rest
      rintro rfl
      exact absurd hlength (by decide)
    rw [octets_of_ne_nil hne, List.take_append_of_le_length hlength,
      List.drop_append_of_le_length hlength, hout, ← h.toUInt8]
    rfl
  | case2 c hfull => exact ⟨bs, h.count ▸ Nat.lt_of_not_le hfull, h, fun _ => rfl⟩

/-- The octets that go out are those of the bits that wait and of all that come. -/
theorem Holds.pack (h : c.Holds bs) (hlt : bs.length < 8) (ss : List UInt8) :
    c.pack ss = octets (bs ++ Septets.bits ss) := by
  induction ss generalizing c bs with
  | nil =>
    have hbits : bs ++ Septets.bits [] = bs := List.append_nil bs
    rw [Carry.pack, hbits]
    by_cases hnil : bs = []
    · subst hnil
      rw [octets_nil, if_neg]
      rw [h.count]
      exact Nat.lt_irrefl 0
    · have hpos : 0 < c.count := h.count ▸ List.length_pos_iff.2 hnil
      rw [if_pos hpos, octets_of_ne_nil hnil, List.drop_of_length_le (Nat.le_of_lt hlt),
        octets_nil, h.toUInt8]
  | cons s ss ih =>
    obtain ⟨left, hleft, hholds, hout⟩ := (h.add hlt s).drain
    have hbits : bs ++ Septets.bits (s :: ss) = bs ++ lowBits 7 s ++ Septets.bits ss :=
      (List.append_assoc _ _ _).symm
    rw [Carry.pack, ih hholds hleft, hbits, hout]

/-- The octets that go out, from an empty register on, are those of the septets. -/
theorem pack_eq (ss : List UInt8) : Carry.pack {} ss = Septets.pack ss :=
  holds_empty.pack (by decide) ss

end Carry

/-! ## The bits of the octets -/

/-- The bit at place `j` of octets, the lowest of each first. -/
def bitAt (os : List UInt8) (j : Nat) : Bool := (os[j / 8]?.getD 0).toNat.testBit (j % 8)

/-- In a row of bits, `w` of each byte, each bit has its place. -/
theorem getElem?_flatMap_lowBits (hi : i < w) (os : List UInt8) (k : Nat) :
    (os.flatMap (lowBits w))[w * k + i]? = os[k]?.map fun o => o.toNat.testBit i := by
  induction os generalizing k with
  | nil => rfl
  | cons o os ih =>
    rw [List.flatMap_cons]
    cases k with
    | zero =>
      rw [Nat.mul_zero, Nat.zero_add, List.getElem?_append_left (by rwa [length_lowBits]),
        getElem?_lowBits, if_pos hi]
      rfl
    | succ k =>
      have hplace : w * (k + 1) + i = w + (w * k + i) := by
        rw [Nat.mul_succ]
        omega
      rw [hplace, List.getElem?_append_right (by rw [length_lowBits]; omega), length_lowBits,
        Nat.add_sub_cancel_left, ih]
      rfl

/-- The bit at a place is that of the row, and zero behind it. -/
theorem bitAt_eq (os : List UInt8) (j : Nat) : bitAt os j = (octetBits os)[j]?.getD false := by
  have hplace : j = 8 * (j / 8) + j % 8 := (Nat.div_add_mod j 8).symm
  have hbit : (octetBits os)[j]? = os[j / 8]?.map fun o => o.toNat.testBit (j % 8) := by
    conv_lhs => rw [hplace]
    exact getElem?_flatMap_lowBits (Nat.mod_lt j (by decide)) os (j / 8)
  rw [bitAt, hbit]
  cases os[j / 8]? with
  | none => exact Nat.zero_testBit _
  | some o => rfl

/-- The bits of the octets of septets are the row of septets, and zeros. -/
theorem bitAt_pack_eq (ss : List UInt8) (j : Nat) :
    bitAt (pack ss) j = (bits ss)[j]?.getD false := by
  rw [bitAt_eq, pack, octetBits_octets]
  rcases Nat.lt_or_ge j (bits ss).length with hj | hj
  · rw [List.getElem?_append_left hj]
  · rw [List.getElem?_append_right hj, List.getElem?_replicate, List.getElem?_eq_none hj]
    split <;> rfl

/-- Bit `i` of septet `k` is found in the octets at place `7 * k + i`. -/
theorem bitAt_pack (hk : k < ss.length) (hi : i < 7) :
    bitAt (pack ss) (7 * k + i) = ss[k].toNat.testBit i := by
  have hbit : (bits ss)[7 * k + i]? = ss[k]?.map fun s => s.toNat.testBit i :=
    getElem?_flatMap_lowBits hi ss k
  rw [bitAt_pack_eq, hbit, List.getElem?_eq_getElem hk]
  rfl

/-- Behind the septets there are zeros. -/
theorem bitAt_pack_of_le (hj : 7 * ss.length ≤ j) : bitAt (pack ss) j = false := by
  rw [bitAt_pack_eq, List.getElem?_eq_none (by rwa [length_bits])]
  rfl

/-! ## Which septets have the same octets -/

/-- The high bits of the bytes make no difference. -/
theorem pack_map_and (ss : List UInt8) : pack (ss.map (· &&& 0x7F)) = pack ss := by
  have hlow (s : UInt8) : lowBits 7 (s &&& 0x7F) = lowBits 7 s := by
    refine List.ext_getElem? fun i => ?_
    have hbit : (0x7F : Nat).testBit i = decide (i < 7) := Nat.testBit_two_pow_sub_one 7 i
    rw [getElem?_lowBits, getElem?_lowBits, UInt8.toNat_and, Nat.testBit_and]
    split
    · next hi =>
      rw [show (0x7F : UInt8).toNat = 0x7F from rfl, hbit, decide_eq_true hi, Bool.and_true]
    · rfl
  rw [pack, pack, bits, bits, List.flatMap_map]
  simp only [hlow]

/-- The octets are told by their bits. -/
theorem octetBits_injective : Function.Injective octetBits := by
  intro os os' h
  have hlength (os : List UInt8) : (octetBits os).length = 8 * os.length := by
    rw [octetBits, List.length_flatMap]
    simp [Nat.mul_comm]
  have hsame : os.length = os'.length := by
    have hbits := congrArg List.length h
    rw [hlength, hlength] at hbits
    omega
  refine List.ext_getElem hsame fun k hk hk' => UInt8.toNat.inj (Nat.eq_of_testBit_eq fun i => ?_)
  rcases Nat.lt_or_ge i 8 with hi | hi
  · have hbit : (octetBits os)[8 * k + i]? = (octetBits os')[8 * k + i]? := by rw [h]
    rw [octetBits, octetBits, getElem?_flatMap_lowBits hi, getElem?_flatMap_lowBits hi,
      List.getElem?_eq_getElem hk, List.getElem?_eq_getElem hk'] at hbit
    exact Option.some.inj hbit
  · have hhigh (o : UInt8) : o.toNat.testBit i = false :=
      Nat.testBit_lt_two_pow
        (Nat.lt_of_lt_of_le o.toNat_lt (Nat.pow_le_pow_right (by decide) hi))
    rw [hhigh, hhigh]

/-- The second septets are the first and a zero, for which the last octet has room. -/
def IsFilledBy (ss ss' : List UInt8) : Prop := (∃ j, ss.length = 8 * j + 7) ∧ ss' = ss ++ [0x00]

/-- A septet that is zero makes no difference where seven bits are filled up. -/
theorem IsFilledBy.pack_eq (h : IsFilledBy ss ss') : pack ss = pack ss' := by
  obtain ⟨⟨j, hj⟩, rfl⟩ := h
  refine octetBits_injective ?_
  have hbits : bits (ss ++ [0x00]) = bits ss ++ List.replicate 7 false := List.flatMap_append
  rw [pack, pack, octetBits_octets, octetBits_octets, hbits, List.append_assoc,
    List.length_append, List.length_replicate, length_bits, ← List.replicate_add]
  congr 2
  omega

/-- Septets of one number are told by their octets. -/
theorem eq_of_pack_eq (h : pack ss = pack ss') (hlength : ss.length = ss'.length)
    (hss : ∀ s ∈ ss, s < 0x80) (hss' : ∀ s ∈ ss', s < 0x80) : ss = ss' := by
  rw [← unpack_pack_of_lt hss, ← unpack_pack_of_lt hss', h, hlength]

/-- More septets have the same octets only if there is a zero more. -/
theorem isFilledBy_of_pack_eq (h : pack ss = pack ss') (hlt : ss.length < ss'.length)
    (hss : ∀ s ∈ ss, s < 0x80) (hss' : ∀ s ∈ ss', s < 0x80) : IsFilledBy ss ss' := by
  have hlengths := congrArg List.length h
  rw [length_pack, length_pack] at hlengths
  -- As many octets have room for one septet more only if seven bits are filled up.
  have hfull : 8 * ((7 * ss.length + 7) / 8) = 7 * ss.length + 7 := by omega
  have hone : ss'.length = ss.length + 1 := by omega
  have hseven : ∃ j, ss.length = 8 * j + 7 := ⟨ss.length / 8, by omega⟩
  have hfilled : IsFilledBy ss (ss ++ [0x00]) := ⟨hseven, rfl⟩
  have hsame : (ss ++ [0x00]).length = ss'.length := by
    rw [List.length_append, List.length_singleton, hone]
  have hall : ∀ s ∈ ss ++ [0x00], s < 0x80 := by
    intro s hs
    rcases List.mem_append.1 hs with hs | hs
    · exact hss s hs
    · rw [List.mem_singleton.1 hs]
      decide
  exact ⟨hseven, (eq_of_pack_eq (hfilled.pack_eq.symm.trans h) hsame hall hss').symm⟩

/-- Two rows of septets have the same octets just if they are the same, or one of them
    is the other with a zero for which the last octet has room. -/
theorem pack_eq_pack_iff (hss : ∀ s ∈ ss, s < 0x80) (hss' : ∀ s ∈ ss', s < 0x80) :
    pack ss = pack ss' ↔ ss = ss' ∨ IsFilledBy ss ss' ∨ IsFilledBy ss' ss := by
  constructor
  · intro h
    rcases Nat.lt_trichotomy ss.length ss'.length with hlt | hsame | hlt
    · exact .inr (.inl (isFilledBy_of_pack_eq h hlt hss hss'))
    · exact .inl (eq_of_pack_eq h hsame hss hss')
    · exact .inr (.inr (isFilledBy_of_pack_eq h.symm hlt hss' hss))
  · rintro (rfl | h | h)
    · rfl
    · exact h.pack_eq
    · exact h.pack_eq.symm

/-- The octets of septets are those that go out of a register of sixteen bits, seven for
    every eight septets. Bit `i` of septet `k` has the place `7 * k + i` in them, the high
    bit of a byte has none, and the places that are left are zero, so that as many septets
    as were packed are read back. Other septets have the same octets just if there is a
    zero more on either side, for which the last octet has room. -/
theorem pack_places_bits (ss : List UInt8) :
    Carry.pack {} ss = pack ss ∧
      (pack ss).length = 7 * ss.length ⌈/⌉ 8 ∧
      (∀ k (hk : k < ss.length), ∀ i < 7, bitAt (pack ss) (7 * k + i) = ss[k].toNat.testBit i) ∧
      (∀ j, 7 * ss.length ≤ j → bitAt (pack ss) j = false) ∧
      pack (ss.map (· &&& 0x7F)) = pack ss ∧
      unpack ss.length (pack ss) = ss.map (· &&& 0x7F) ∧
      ∀ ss', (∀ s ∈ ss, s < 0x80) → (∀ s ∈ ss', s < 0x80) →
        (pack ss = pack ss' ↔
          ss = ss' ∨ (∃ j, ss.length = 8 * j + 7) ∧ ss' = ss ++ [0x00] ∨
            (∃ j, ss'.length = 8 * j + 7) ∧ ss = ss' ++ [0x00]) := by
  refine ⟨Carry.pack_eq ss, ?_, fun k hk i hi => bitAt_pack hk hi, fun j hj => bitAt_pack_of_le hj,
    pack_map_and ss, unpack_pack ss, fun ss' hss hss' => pack_eq_pack_iff hss hss'⟩
  rw [length_pack, Nat.ceilDiv_eq_add_pred_div]
  rfl

/-- Seven septets have the octets of eight of which the last is zero, and of no other
    eight. -/
theorem pack_places_bits_of_seven :
    let ss : List UInt8 := [0x31, 0x32, 0x33, 0x34, 0x35, 0x36, 0x37]
    (∀ s ∈ ss, s < 0x80) ∧ pack ss = pack (ss ++ [0x00]) ∧ pack ss ≠ pack (ss ++ [0x38]) := by
  intro ss
  have hss : ∀ s ∈ ss, s < 0x80 := by decide +kernel
  obtain ⟨-, -, -, -, -, -, hsame⟩ := pack_places_bits ss
  have hfilled := hsame (ss ++ [0x00]) hss (by decide +kernel)
  refine ⟨hss, hfilled.2 (.inr (.inl ⟨⟨0, rfl⟩, rfl⟩)), fun h => ?_⟩
  rcases (hsame (ss ++ [0x38]) hss (by decide +kernel)).1 h with h | ⟨-, h⟩ | ⟨⟨j, hj⟩, -⟩
  · exact absurd h (by decide)
  · exact absurd h (by decide)
  · have hlength : (ss ++ [0x38]).length = 8 := rfl
    omega

end CardToolkit.Text.Septets
