/-!
# Packed septets

Septets, seven bits each, in a row of bits cut into octets: the lowest bit comes
first, in a septet as in an octet, and the last octet is filled up with zeros.
Eight septets thus take seven octets.

* `Septets.pack`: the octets of septets (a high bit is passed over);
* `Septets.unpack`: the first `n` septets of octets.

The row of bits is `bits` on the side of septets and `octetBits` on that of
octets; packing keeps it, up to the filling.
-/

namespace CardToolkit.Text.Septets

/-- The `w` lowest bits of a byte, the lowest first. -/
def lowBits (w : Nat) (b : UInt8) : List Bool := (List.range w).map b.toNat.testBit

/-- The number whose bits these are, the lowest first. -/
def number : List Bool → Nat
  | [] => 0
  | b :: bs => b.toNat + 2 * number bs

/-- The row of bits of septets. -/
def bits (septets : List UInt8) : List Bool := septets.flatMap (lowBits 7)

/-- The row of bits of octets. -/
def octetBits (octets : List UInt8) : List Bool := octets.flatMap (lowBits 8)

/-- A row of bits cut into octets, the last of which is filled up with zeros. -/
def octets (bs : List Bool) : List UInt8 :=
  if _h : bs = [] then [] else UInt8.ofNat (number (bs.take 8)) :: octets (bs.drop 8)
termination_by bs.length
decreasing_by
  -- A row that is not empty loses a bit at least.
  have : bs.length ≠ 0 := by simpa using _h
  simp only [List.length_drop]
  omega

/-- The octets of septets. -/
def pack (septets : List UInt8) : List UInt8 := octets (bits septets)

/-- The septet at place `k` of a row of bits. -/
def septetAt (bs : List Bool) (k : Nat) : UInt8 := UInt8.ofNat (number ((bs.drop (7 * k)).take 7))

/-- The first `n` septets of octets. -/
def unpack (n : Nat) (octets : List UInt8) : List UInt8 :=
  (List.range n).map (septetAt (octetBits octets))

@[simp] theorem length_lowBits (w : Nat) (b : UInt8) : (lowBits w b).length = w := by
  simp [lowBits]

@[simp] theorem length_bits (septets : List UInt8) :
    (bits septets).length = 7 * septets.length := by
  induction septets with
  | nil => rfl
  | cons s ss ih =>
    rw [bits] at ih ⊢
    rw [List.flatMap_cons, List.length_append, ih, length_lowBits, List.length_cons]
    omega

theorem octets_nil : octets [] = [] := by
  rw [octets]
  rfl

theorem octets_of_ne_nil {bs : List Bool} (h : bs ≠ []) :
    octets bs = UInt8.ofNat (number (bs.take 8)) :: octets (bs.drop 8) := by
  rw [octets, dif_neg h]

end CardToolkit.Text.Septets
