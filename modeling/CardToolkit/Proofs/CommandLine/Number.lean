import CardToolkit.CommandLine.Number
import Mathlib.Data.Nat.Digits.Defs

/-!
# Bytes in hexadecimal, exactly

The texts of bytes are those of a small grammar: in front a *lead*, which is a mark,
if any, and a plus sign, if any; then digits, at least one, whose number is below
256. Every other text is refused, and which reason is given depends on how far it
goes along with the grammar: not to the digits (there is nothing behind the mark),
out of the range of a byte while all is digits, or to a character that fits nowhere.

The reader takes the digits from the left, and the number of those that it has taken
is below 256 as long as it goes on. So what it comes to is settled by the first
character that is no digit and by the first digit with which the number is too
large, whichever stands in front of the other.

* `IsNumeral`, `IsLead`, `IsByteText`: the grammar;
* `byteOfHexDigits_eq`: the size of a number is not tested only where it is small;
* `Scanned`, `hexDigits_of_scanned`: what the reading of digits comes to;
* `hexByte_exact`: the texts that are read, and those that are refused for each
  reason.
-/

namespace CardToolkit.CommandLine

variable {c : Char} {d n : Nat} {cs rest lead mark body : List Char} {ds : List Nat}

/-! ## Digits -/

/-- The character is a digit in hexadecimal, in either case, and `d` its number. -/
def IsDigit (c : Char) (d : Nat) : Prop :=
  d < 16 ∧ (c = Nat.digitChar d ∨ c = (Nat.digitChar d).toUpper)

/-- What is read as a digit is an ASCII character. -/
theorem toNat_lt_of_digitValue? (h : Hex.digitValue? c = some d) : c.toNat < 128 := by
  unfold Hex.digitValue? at h
  split at h
  · next hc => exact Nat.lt_of_le_of_lt hc.2 (by decide)
  · split at h
    · next hc => exact Nat.lt_of_le_of_lt hc.2 (by decide)
    · split at h
      · next hc => exact Nat.lt_of_le_of_lt hc.2 (by decide)
      · cases h

/-- A digit is read as its number, and nothing else is. -/
theorem digitValue?_eq_some_iff : Hex.digitValue? c = some d ↔ IsDigit c d := by
  constructor
  · intro h
    have hread : ∀ n < 128, ∀ d ∈ Hex.digitValue? (Char.ofNat n),
        d < 16 ∧ (Char.ofNat n = Nat.digitChar d ∨ Char.ofNat n = (Nat.digitChar d).toUpper) := by
      decide +kernel
    have hlt := toNat_lt_of_digitValue? h
    rw [← Char.ofNat_toNat c] at h ⊢
    exact hread c.toNat hlt d h
  · have hwritten : ∀ d < 16, Hex.digitValue? (Nat.digitChar d) = some d ∧
        Hex.digitValue? (Nat.digitChar d).toUpper = some d := by
      decide
    rintro ⟨hd, rfl | rfl⟩
    · exact (hwritten d hd).1
    · exact (hwritten d hd).2

/-- What is not read as a digit is none. -/
theorem not_isDigit (h : Hex.digitValue? c = none) : ¬IsDigit c d := by
  intro hc
  rw [digitValue?_eq_some_iff.2 hc] at h
  cases h

/-- The characters are digits, one at least, and `n` is their number. -/
def IsNumeral (cs : List Char) (n : Nat) : Prop :=
  cs ≠ [] ∧ ∃ ds, List.Forall₂ IsDigit cs ds ∧ Nat.ofDigits 16 ds.reverse = n

/-- Each of some digits is one. -/
theorem exists_isDigit_of_mem (h : List.Forall₂ IsDigit cs ds) (hc : c ∈ cs) :
    ∃ d, IsDigit c d := by
  induction h with
  | nil => cases hc
  | cons hd _ ih =>
    rcases List.mem_cons.1 hc with rfl | hc
    · exact ⟨_, hd⟩
    · exact ih hc

/-- The number of digits behind the number `n`. -/
def numberBehind (n : Nat) (ds : List Nat) : Nat := 16 ^ ds.length * n + Nat.ofDigits 16 ds.reverse

theorem numberBehind_nil : numberBehind n [] = n := by
  rw [numberBehind, List.length_nil, pow_zero, one_mul, List.reverse_nil, Nat.ofDigits_nil, add_zero]

theorem numberBehind_cons : numberBehind n (d :: ds) = numberBehind (16 * n + d) ds := by
  rw [numberBehind, numberBehind, List.reverse_cons, Nat.ofDigits_append, Nat.ofDigits_singleton,
    List.length_reverse, List.length_cons]
  ring

theorem numberBehind_zero : numberBehind 0 ds = Nat.ofDigits 16 ds.reverse := by
  rw [numberBehind, mul_zero, zero_add]

/-- With more digits behind it, a number is no smaller. -/
theorem le_numberBehind : n ≤ numberBehind n ds :=
  Nat.le_trans (Nat.le_mul_of_pos_left n (Nat.pow_pos (by decide))) (Nat.le_add_right _ _)

/-! ## Reading digits -/

theorem hexDigits_of_lt (hc : IsDigit c d) (h : 16 * n + d < 256) :
    hexDigits n (c :: cs) = hexDigits (16 * n + d) cs := by
  rw [hexDigits, digitValue?_eq_some_iff.2 hc]
  exact if_pos h

theorem hexDigits_of_le (hc : IsDigit c d) (h : 256 ≤ 16 * n + d) :
    hexDigits n (c :: cs) = .error .overflow := by
  rw [hexDigits, digitValue?_eq_some_iff.2 hc]
  exact if_neg (Nat.not_lt.2 h)

theorem hexDigits_of_not (hc : ∀ d, ¬IsDigit c d) : hexDigits n (c :: cs) = .error .invalidDigit := by
  have hnone : Hex.digitValue? c = none :=
    Option.eq_none_iff_forall_ne_some.2 fun d h => hc d (digitValue?_eq_some_iff.1 h)
  rw [hexDigits, hnone]

/-- Of digits whose number is small, the size need not be tested: the byte that they
    are counted up in does not overflow. -/
theorem fewHexDigits_eq (h : 16 ^ cs.length * (n + 1) ≤ 256) :
    fewHexDigits (UInt8.ofNat n) cs = (hexDigits n cs).map UInt8.ofNat := by
  induction cs generalizing n with
  | nil => rfl
  | cons c cs ih =>
    cases hc : Hex.digitValue? c with
    | none => rw [fewHexDigits, hexDigits, hc]; rfl
    | some d =>
      have hd : d < 16 := (digitValue?_eq_some_iff.1 hc).1
      have hnext : 16 ^ cs.length * (16 * n + d + 1) ≤ 256 :=
        calc 16 ^ cs.length * (16 * n + d + 1)
          _ ≤ 16 ^ cs.length * (16 * (n + 1)) := Nat.mul_le_mul_left _ (by omega)
          _ = 16 ^ (cs.length + 1) * (n + 1) := by rw [pow_succ, Nat.mul_assoc]
          _ ≤ 256 := h
      have hlt : 16 * n + d < 256 :=
        Nat.lt_of_lt_of_le (Nat.le_mul_of_pos_left _ (Nat.pow_pos (by decide))) hnext
      have hbyte : 16 * UInt8.ofNat n + UInt8.ofNat d = UInt8.ofNat (16 * n + d) := by
        rw [UInt8.ofNat_add, UInt8.ofNat_mul]
        rfl
      rw [hexDigits_of_lt (digitValue?_eq_some_iff.1 hc) hlt, fewHexDigits, hc, ← ih hnext, ← hbyte]

/-- Whether the size is tested or not, what is read is the same. -/
theorem byteOfHexDigits_eq : byteOfHexDigits cs = (hexDigits 0 cs).map UInt8.ofNat := by
  unfold byteOfHexDigits
  split
  · next h =>
    refine fewHexDigits_eq ?_
    calc 16 ^ cs.length * (0 + 1)
      _ = 16 ^ cs.length := Nat.mul_one _
      _ ≤ 16 ^ 2 := Nat.pow_le_pow_right (by decide) h
  · rfl

/-- Digits whose number is small are read, and what follows them is read behind it. -/
theorem hexDigits_append (h : List.Forall₂ IsDigit cs ds) (hlt : numberBehind n ds < 256) :
    hexDigits n (cs ++ rest) = hexDigits (numberBehind n ds) rest := by
  induction h generalizing n with
  | nil => rw [numberBehind_nil, List.nil_append]
  | cons hc _ ih =>
    rw [numberBehind_cons] at hlt ⊢
    rw [List.cons_append, hexDigits_of_lt hc (Nat.lt_of_le_of_lt le_numberBehind hlt), ih hlt]

/-- Digits whose number is too large are refused, whatever follows them. -/
theorem hexDigits_append_of_le (h : List.Forall₂ IsDigit cs ds) (hn : n < 256)
    (hle : 256 ≤ numberBehind n ds) : hexDigits n (cs ++ rest) = .error .overflow := by
  induction h generalizing n with
  | nil =>
    rw [numberBehind_nil] at hle
    omega
  | @cons c d cs ds hc _ ih =>
    rw [numberBehind_cons] at hle
    by_cases hlt : 16 * n + d < 256
    · rw [List.cons_append, hexDigits_of_lt hc hlt, ih hlt hle]
    · exact hexDigits_of_le hc (Nat.not_lt.1 hlt)

/-- What the reading of characters as digits comes to. -/
inductive Scanned : List Char → Except ByteFault Nat → Prop
  /-- All are digits, and their number is that of a byte. -/
  | number {cs : List Char} {ds : List Nat} (digits : List.Forall₂ IsDigit cs ds)
    (small : Nat.ofDigits 16 ds.reverse < 256) :
    Scanned cs (.ok (Nat.ofDigits 16 ds.reverse))
  /-- Some in front are digits, and their number is larger. -/
  | overflow {cs rest : List Char} {ds : List Nat} (digits : List.Forall₂ IsDigit cs ds)
    (large : 256 ≤ Nat.ofDigits 16 ds.reverse) :
    Scanned (cs ++ rest) (.error .overflow)
  /-- Some in front are digits, their number is that of a byte, and then there is
      something else. -/
  | other {cs rest : List Char} {c : Char} {ds : List Nat} (digits : List.Forall₂ IsDigit cs ds)
    (small : Nat.ofDigits 16 ds.reverse < 256) (other : ∀ d, ¬IsDigit c d) :
    Scanned (cs ++ c :: rest) (.error .invalidDigit)

/-- Characters are digits up to one that is none, or all of them are digits. -/
theorem exists_digits_append (cs : List Char) :
    ∃ front ds back, cs = front ++ back ∧ List.Forall₂ IsDigit front ds ∧
      ∀ c rest, back = c :: rest → ∀ d, ¬IsDigit c d := by
  induction cs with
  | nil => exact ⟨[], [], [], rfl, .nil, fun _ _ h => nomatch h⟩
  | cons c cs ih =>
    by_cases hc : ∃ d, IsDigit c d
    · obtain ⟨d, hd⟩ := hc
      obtain ⟨front, ds, back, rfl, hdigits, hback⟩ := ih
      exact ⟨c :: front, d :: ds, back, rfl, .cons hd hdigits, hback⟩
    · refine ⟨[], [], c :: cs, rfl, .nil, ?_⟩
      rintro _ _ ⟨⟩ d hd
      exact hc ⟨d, hd⟩

/-- There is an outcome for all characters. -/
theorem exists_scanned (cs : List Char) : ∃ r, Scanned cs r := by
  obtain ⟨front, ds, back, rfl, digits, hback⟩ := exists_digits_append cs
  by_cases small : Nat.ofDigits 16 ds.reverse < 256
  · cases back with
    | nil =>
      rw [List.append_nil]
      exact ⟨_, .number digits small⟩
    | cons c rest => exact ⟨_, .other digits small (hback c rest rfl)⟩
  · exact ⟨_, .overflow digits (Nat.not_lt.1 small)⟩

/-- Characters are read as digits to the outcome that fits them. -/
theorem hexDigits_of_scanned {r : Except ByteFault Nat} (h : Scanned cs r) : hexDigits 0 cs = r := by
  cases h with
  | @number _ ds digits small =>
    rw [← numberBehind_zero] at small ⊢
    rw [← List.append_nil cs, hexDigits_append digits small]
    rfl
  | overflow digits large =>
    rw [← numberBehind_zero] at large
    exact hexDigits_append_of_le digits (by decide) large
  | other digits small other =>
    rw [← numberBehind_zero] at small
    rw [hexDigits_append digits small, hexDigits_of_not other]

/-! ## The grammar -/

/-- A mark in front of a number in hexadecimal, which may be missing. -/
inductive IsMark : List Char → Prop
  | none : IsMark []
  | lower : IsMark ['0', 'x']
  | upper : IsMark ['0', 'X']

/-- What may stand in front of the digits: a mark, and a plus sign or not. -/
inductive IsLead : List Char → Prop
  | unsigned {mark : List Char} : IsMark mark → IsLead mark
  | signed {mark : List Char} : IsMark mark → IsLead (mark ++ ['+'])

/-- The characters are the text of a byte. -/
def IsByteText (cs : List Char) (b : UInt8) : Prop :=
  ∃ lead digits, cs = lead ++ digits ∧ IsLead lead ∧ IsNumeral digits b.toNat

/-- In front of the characters is a number that is too large for a byte. -/
def IsTooLarge (cs : List Char) : Prop :=
  ∃ lead digits rest n, cs = lead ++ digits ++ rest ∧ IsLead lead ∧ IsNumeral digits n ∧ 255 < n

/-- The characters are no text of a byte up to where they end, or up to one that
    fits nowhere, and not because of a number that is too large. -/
inductive IsBroken : List Char → Prop
  /-- There is nothing behind the sign. -/
  | sign {mark : List Char} : IsMark mark → IsBroken (mark ++ ['+'])
  /-- A character is no digit behind the digits so far, which may be none, nor does it
      belong in front of them. -/
  | other {lead cs rest : List Char} {c : Char} {ds : List Nat} (isLead : IsLead lead)
    (digits : List.Forall₂ IsDigit cs ds) (small : Nat.ofDigits 16 ds.reverse ≤ 255)
    (other : ∀ d, ¬IsDigit c d) (ends : ¬IsLead (lead ++ cs ++ [c])) :
    IsBroken (lead ++ cs ++ c :: rest)

/-- The characters begin with a mark. -/
def HasMark (cs : List Char) : Prop :=
  ∃ x rest, (x = 'x' ∨ x = 'X') ∧ cs = '0' :: x :: rest

/-- A mark ends in its letter. -/
theorem isMark_append_singleton_iff :
    IsMark (cs ++ [c]) ↔ (c = 'x' ∨ c = 'X') ∧ cs = ['0'] := by
  constructor
  · intro h
    generalize heq : cs ++ [c] = mark at h
    cases h with
    | none => exact absurd heq (List.append_ne_nil_of_right_ne_nil cs (List.cons_ne_nil c []))
    | lower =>
      obtain ⟨rfl, hc⟩ := List.append_inj' (show cs ++ [c] = ['0'] ++ ['x'] from heq) rfl
      exact ⟨.inl (List.cons.inj hc).1, rfl⟩
    | upper =>
      obtain ⟨rfl, hc⟩ := List.append_inj' (show cs ++ [c] = ['0'] ++ ['X'] from heq) rfl
      exact ⟨.inr (List.cons.inj hc).1, rfl⟩
  · rintro ⟨rfl | rfl, rfl⟩
    · exact .lower
    · exact .upper

/-- What stands in front of digits ends in a plus sign or the letter of a mark. -/
theorem isLead_append_singleton_iff :
    IsLead (cs ++ [c]) ↔ c = '+' ∧ IsMark cs ∨ (c = 'x' ∨ c = 'X') ∧ cs = ['0'] := by
  constructor
  · intro h
    generalize heq : cs ++ [c] = lead at h
    cases h with
    | unsigned hmark =>
      subst heq
      exact .inr (isMark_append_singleton_iff.1 hmark)
    | signed hmark =>
      obtain ⟨rfl, hc⟩ := List.append_inj' heq rfl
      exact .inl ⟨(List.cons.inj hc).1, hmark⟩
  · rintro (⟨rfl, hmark⟩ | h)
    · exact .signed hmark
    · exact .unsigned (isMark_append_singleton_iff.2 h)

/-- A mark behind digits can only be one of which they are the zero. -/
theorem hasMark_digits_append (h : List.Forall₂ IsDigit cs ds) (hm : HasMark (cs ++ rest)) :
    cs = [] ∧ HasMark rest ∨
      cs = ['0'] ∧ ∃ x rest', (x = 'x' ∨ x = 'X') ∧ rest = x :: rest' := by
  cases h with
  | nil => exact .inl ⟨rfl, hm⟩
  | cons hc h =>
    obtain ⟨x, rest', hx, heq⟩ := hm
    cases h with
    | nil =>
      obtain ⟨rfl, rfl⟩ := List.cons.inj heq
      exact .inr ⟨rfl, x, rest', hx, rfl⟩
    | cons hc' =>
      -- The second character would be a digit, which the letter of a mark is not.
      obtain ⟨-, heq⟩ := List.cons.inj heq
      obtain ⟨rfl, -⟩ := List.cons.inj heq
      rcases hx with rfl | rfl <;> exact absurd hc' (not_isDigit rfl)

/-! ## Taking off what stands in front -/

theorem withoutHexMark_append (h : IsMark mark) (hno : mark = [] → ¬HasMark rest) :
    withoutHexMark (mark ++ rest) = rest := by
  cases h with
  | none =>
    have hnot := hno rfl
    rw [List.nil_append]
    unfold withoutHexMark
    split
    · next tail => exact absurd ⟨'x', tail, .inl rfl, rfl⟩ hnot
    · next tail => exact absurd ⟨'X', tail, .inr rfl, rfl⟩ hnot
    · rfl
  | lower => rfl
  | upper => rfl

/-- A mark is taken off, and only one. -/
theorem exists_mark (cs : List Char) :
    ∃ mark, IsMark mark ∧ cs = mark ++ withoutHexMark cs ∧ (mark = [] → ¬HasMark cs) := by
  unfold withoutHexMark
  split
  · exact ⟨_, .lower, rfl, fun h => nomatch h⟩
  · exact ⟨_, .upper, rfl, fun h => nomatch h⟩
  · next hlower hupper =>
    refine ⟨_, .none, rfl, ?_⟩
    rintro - ⟨x, rest, rfl | rfl, rfl⟩
    · exact hlower rest rfl
    · exact hupper rest rfl

theorem withoutPlus_of_ne (h : c ≠ '+') : withoutPlus (c :: cs) = c :: cs := by
  unfold withoutPlus
  split
  · next heq => exact absurd (List.cons.inj heq).1 h
  · rfl

/-- A text is taken apart into what stands in front of the digits and what comes
    then, as far as it goes. -/
structure Splits (cs lead body : List Char) : Prop where
  eq : cs = lead ++ body
  isLead : IsLead lead
  ne_nil : body ≠ []
  /-- No mark is left. -/
  mark : lead = [] → ¬HasMark body
  /-- No sign is left, unless there is nothing else. -/
  sign : IsMark lead → ∀ rest, body = '+' :: rest → rest = []

variable {text : String}

/-- A text without anything behind the mark has no byte. -/
theorem hexByte_of_isMark (h : IsMark text.toList) : hexByte text = .error .empty := by
  unfold hexByte
  generalize text.toList = cs at h ⊢
  cases h <;> rfl

/-- What comes behind the lead of a text is read as digits. -/
theorem hexByte_of_splits {r : Except ByteFault Nat} (h : Splits text.toList lead body)
    (hr : Scanned body r) : hexByte text = r.map UInt8.ofNat := by
  rw [← hexDigits_of_scanned hr, ← byteOfHexDigits_eq, hexByte, h.eq]
  obtain ⟨c, cs, rfl⟩ := List.exists_cons_of_ne_nil h.ne_nil
  cases h.isLead with
  | unsigned hmark =>
    rw [withoutHexMark_append hmark h.mark, hexNumber]
    by_cases hc : c = '+'
    · subst hc
      rw [h.sign hmark cs rfl]
      rfl
    · rw [withoutPlus_of_ne hc]
  | @signed mark hmark =>
    have hno : ¬HasMark (['+'] ++ c :: cs) := by
      rintro ⟨x, rest, -, heq⟩
      cases heq
    rw [List.append_assoc, withoutHexMark_append hmark fun _ => hno]
    rfl

/-- A text is a mark, or there is something behind its lead. -/
theorem isMark_or_splits (cs : List Char) : IsMark cs ∨ ∃ lead body, Splits cs lead body := by
  obtain ⟨mark, hmark, heq, hno⟩ := exists_mark cs
  generalize withoutHexMark cs = rest at heq
  subst heq
  cases rest with
  | nil =>
    rw [List.append_nil]
    exact .inl hmark
  | cons c rest =>
    refine .inr ?_
    by_cases hc : c = '+' ∧ rest ≠ []
    · obtain ⟨rfl, hne⟩ := hc
      exact ⟨mark ++ ['+'], rest,
        { eq := (List.append_assoc mark ['+'] rest).symm
          isLead := .signed hmark
          ne_nil := hne
          mark := fun h => absurd h (List.append_ne_nil_of_right_ne_nil mark (List.cons_ne_nil _ _))
          sign := fun h => absurd (isMark_append_singleton_iff.1 h).1 (by decide) }⟩
    · refine ⟨mark, c :: rest,
        { eq := rfl
          isLead := .unsigned hmark
          ne_nil := List.cons_ne_nil c rest
          mark := ?_
          sign := ?_ }⟩
      · rintro rfl
        exact hno rfl
      · rintro - rest' heq
        obtain ⟨rfl, rfl⟩ := List.cons.inj heq
        by_contra hne
        exact hc ⟨rfl, hne⟩

/-- Digits, and what follows them, stand behind a lead that they do not go on with. -/
theorem splits_of_digits (hlead : IsLead lead) (digits : List.Forall₂ IsDigit cs ds)
    (hne : cs ++ rest ≠ []) (hfirst : ∀ c rest', rest = c :: rest' → cs = [] → ∀ d, ¬IsDigit c d)
    (hends : ∀ c rest', rest = c :: rest' → ¬IsLead (lead ++ cs ++ [c])) :
    Splits (lead ++ cs ++ rest) lead (cs ++ rest) where
  eq := List.append_assoc lead cs rest
  isLead := hlead
  ne_nil := hne
  mark := by
    rintro rfl hmark
    rcases hasMark_digits_append digits hmark with ⟨rfl, x, rest', -, rfl⟩ | ⟨rfl, x, rest', hx, rfl⟩
    · exact hfirst '0' _ rfl rfl 0 ⟨by decide, .inl rfl⟩
    · exact hends x rest' rfl (isLead_append_singleton_iff.2 (.inr ⟨hx, rfl⟩))
  sign := by
    intro hmark rest' heq
    cases digits with
    | nil =>
      rw [List.append_nil] at hends
      exact absurd (IsLead.signed hmark) (hends '+' rest' heq)
    | cons hc =>
      obtain ⟨rfl, -⟩ := List.cons.inj heq
      exact absurd hc (not_isDigit rfl)

/-- Digits do not end a mark. -/
theorem eq_nil_of_isMark_append (digits : List.Forall₂ IsDigit cs ds) (h : IsMark (lead ++ cs)) :
    cs = [] := by
  rcases List.eq_nil_or_concat cs with hnil | ⟨front, c, rfl⟩
  · exact hnil
  · rw [List.concat_eq_append] at digits h
    obtain ⟨d, hc⟩ := exists_isDigit_of_mem digits (List.mem_append_right front List.mem_cons_self)
    rw [← List.append_assoc, isMark_append_singleton_iff] at h
    rcases h.1 with rfl | rfl <;> exact absurd hc (not_isDigit rfl)

/-- No lead is a zero, so that digits behind one are the zero that both are together. -/
theorem eq_nil_of_append_eq_zero (hlead : IsLead lead) (h : lead ++ cs = ['0']) :
    lead = [] ∧ cs = ['0'] := by
  rcases List.append_eq_singleton_iff.1 h with h | ⟨rfl, -⟩
  · exact h
  · rw [← List.nil_append ['0'], isLead_append_singleton_iff] at hlead
    exact absurd hlead (by rintro (⟨⟨⟩, -⟩ | ⟨⟨⟨⟩⟩ | ⟨⟨⟩⟩, -⟩))

/-- Behind a number that is too large, nothing goes on with the lead. -/
theorem not_isLead_of_large (hlead : IsLead lead) (hcs : IsNumeral cs n) (hn : 255 < n) :
    ¬IsLead (lead ++ cs ++ [c]) := by
  obtain ⟨hne, ds, digits, rfl⟩ := hcs
  intro h
  rcases isLead_append_singleton_iff.1 h with ⟨-, hmark⟩ | ⟨-, hzero⟩
  · exact hne (eq_nil_of_isMark_append digits hmark)
  · -- The number of a single digit is not too large.
    obtain ⟨-, rfl⟩ := eq_nil_of_append_eq_zero hlead hzero
    cases digits with
    | @cons _ d _ _ hc digits =>
      cases digits
      have hd : d < 16 := hc.1
      rw [List.reverse_singleton, Nat.ofDigits_singleton] at hn
      omega

/-! ## What a text comes to -/

/-- What the reading of a text as a byte comes to. -/
inductive Reads (cs : List Char) : Except ByteFault UInt8 → Prop
  | byte {b : UInt8} (text : IsByteText cs b) : Reads cs (.ok b)
  | empty (mark : IsMark cs) : Reads cs (.error .empty)
  | tooLarge (large : IsTooLarge cs) : Reads cs (.error .overflow)
  | broken (broken : IsBroken cs) : Reads cs (.error .invalidDigit)

/-- What stands behind the lead settles what a text comes to. -/
theorem Splits.reads {r : Except ByteFault Nat} (h : Splits cs lead body) (hr : Scanned body r) :
    Reads cs (r.map UInt8.ofNat) := by
  obtain ⟨heq, hlead, hne, hmark, hsign⟩ := h
  cases hr with
  | number digits small =>
    exact .byte ⟨lead, body, heq, hlead, hne, _, digits, (UInt8.toNat_ofNat_of_lt' small).symm⟩
  | @overflow cs rest ds digits large =>
    have hdigits : cs ≠ [] := by
      rintro rfl
      cases digits
      exact absurd large (by decide)
    exact .tooLarge ⟨lead, cs, rest, _, by rw [heq, List.append_assoc], hlead,
      ⟨hdigits, ds, digits, rfl⟩, large⟩
  | @other cs rest c ds digits small other =>
    rw [← List.append_assoc] at heq
    subst heq
    refine .broken ?_
    by_cases hends : IsLead (lead ++ cs ++ [c])
    · rcases isLead_append_singleton_iff.1 hends with ⟨rfl, hlast⟩ | ⟨hx, hzero⟩
      · -- The sign is not taken off, so that there is nothing behind it.
        obtain rfl := eq_nil_of_isMark_append digits hlast
        rw [List.append_nil] at hlast ⊢
        rw [hsign hlast rest rfl]
        exact .sign hlast
      · obtain ⟨rfl, rfl⟩ := eq_nil_of_append_eq_zero hlead hzero
        exact absurd ⟨c, rest, hx, rfl⟩ (hmark rfl)
    · exact .other hlead digits (Nat.le_of_lt_succ small) other hends

/-- There is an outcome for all texts. -/
theorem exists_reads (cs : List Char) : ∃ r, Reads cs r := by
  rcases isMark_or_splits cs with hmark | ⟨lead, body, hsplits⟩
  · exact ⟨_, .empty hmark⟩
  · obtain ⟨r, hr⟩ := exists_scanned body
    exact ⟨_, hsplits.reads hr⟩

theorem hexByte_of_isByteText {b : UInt8} (h : IsByteText text.toList b) : hexByte text = .ok b := by
  obtain ⟨lead, cs, heq, hlead, hne, ds, digits, hnumber⟩ := h
  have hsplits : Splits (lead ++ cs ++ []) lead (cs ++ []) :=
    splits_of_digits hlead digits (by rwa [List.append_nil]) (fun _ _ h => nomatch h)
      (fun _ _ h => nomatch h)
  rw [List.append_nil, List.append_nil, ← heq] at hsplits
  rw [hexByte_of_splits hsplits (.number digits (hnumber ▸ b.toNat_lt)), hnumber]
  exact congrArg Except.ok UInt8.ofNat_toNat

theorem hexByte_of_isTooLarge (h : IsTooLarge text.toList) : hexByte text = .error .overflow := by
  obtain ⟨lead, cs, rest, n, heq, hlead, hnumeral, hn⟩ := h
  have hends : ∀ c rest', rest = c :: rest' → ¬IsLead (lead ++ cs ++ [c]) :=
    fun _ _ _ => not_isLead_of_large hlead hnumeral hn
  obtain ⟨hne, ds, digits, rfl⟩ := hnumeral
  have hsplits := splits_of_digits hlead digits (List.append_ne_nil_of_left_ne_nil hne rest)
    (fun _ _ _ hnil => absurd hnil hne) hends
  rw [← heq] at hsplits
  exact hexByte_of_splits hsplits (.overflow digits hn)

theorem hexByte_of_isBroken (h : IsBroken text.toList) : hexByte text = .error .invalidDigit := by
  generalize hcs : text.toList = cs at h
  cases h with
  | @sign mark hmark =>
    have hsplits : Splits text.toList mark ['+'] :=
      { eq := hcs
        isLead := .unsigned hmark
        ne_nil := List.cons_ne_nil _ _
        mark := by
          rintro - ⟨x, rest, -, heq⟩
          cases heq
        sign := fun _ rest heq => (List.cons.inj heq).2.symm }
    have hscanned : Scanned ([] ++ ['+']) (.error .invalidDigit) :=
      .other .nil (by decide) fun d => not_isDigit rfl
    exact hexByte_of_splits hsplits hscanned
  | @other lead cs rest c ds hlead digits small other ends =>
    have hsplits : Splits (lead ++ cs ++ c :: rest) lead (cs ++ c :: rest) := by
      refine splits_of_digits hlead digits
        (List.append_ne_nil_of_right_ne_nil cs (List.cons_ne_nil c rest)) ?_ ?_
      · rintro _ _ ⟨⟩ -
        exact other
      · rintro _ _ ⟨⟩
        exact ends
    rw [← hcs] at hsplits
    exact hexByte_of_splits hsplits (.other digits (Nat.lt_succ_of_le small) other)

theorem hexByte_of_reads {r : Except ByteFault UInt8} (h : Reads text.toList r) :
    hexByte text = r := by
  cases h with
  | byte text => exact hexByte_of_isByteText text
  | empty mark => exact hexByte_of_isMark mark
  | tooLarge large => exact hexByte_of_isTooLarge large
  | broken broken => exact hexByte_of_isBroken broken

/-- A text is read to the one outcome that fits it. -/
theorem reads_iff {r : Except ByteFault UInt8} : Reads text.toList r ↔ hexByte text = r := by
  refine ⟨hexByte_of_reads, ?_⟩
  rintro rfl
  obtain ⟨r, hr⟩ := exists_reads text.toList
  rw [hexByte_of_reads hr]
  exact hr

/-- The texts of bytes are read, and nothing else is. -/
theorem hexByte_eq_ok_iff {b : UInt8} : hexByte text = .ok b ↔ IsByteText text.toList b := by
  refine ⟨fun h => ?_, hexByte_of_isByteText⟩
  cases reads_iff.2 h with
  | byte text => exact text

theorem hexByte_eq_empty_iff : hexByte text = .error .empty ↔ IsMark text.toList := by
  refine ⟨fun h => ?_, hexByte_of_isMark⟩
  cases reads_iff.2 h with
  | empty mark => exact mark

theorem hexByte_eq_overflow_iff : hexByte text = .error .overflow ↔ IsTooLarge text.toList := by
  refine ⟨fun h => ?_, hexByte_of_isTooLarge⟩
  cases reads_iff.2 h with
  | tooLarge large => exact large

theorem hexByte_eq_invalidDigit_iff :
    hexByte text = .error .invalidDigit ↔ IsBroken text.toList := by
  refine ⟨fun h => ?_, hexByte_of_isBroken⟩
  cases reads_iff.2 h with
  | broken broken => exact broken

/-! ## Reasons in words -/

/-- The reasons are told apart by their words. -/
theorem ByteFault.message_injective : Function.Injective ByteFault.message := by
  intro f g h
  cases f <;> cases g <;> simp_all [ByteFault.message]

/-- A text is refused as that of a byte, for a reason in words. -/
def IsRefused (text reason : String) : Prop :=
  (hexByte text).mapError ByteFault.message = .error ("invalid hex byte: " ++ reason)

theorem isRefused_iff {reason : String} {f : ByteFault}
    (h : f.message = "invalid hex byte: " ++ reason) :
    IsRefused text reason ↔ hexByte text = .error f := by
  rw [IsRefused, ← h]
  cases hexByte text with
  | ok b => exact iff_of_false nofun nofun
  | error g =>
    constructor
    · intro hg
      rw [ByteFault.message_injective (Except.error.inj hg)]
    · rintro ⟨⟩
      rfl

/-- A text is read as a byte just if it is a mark, if any, a plus sign, if any, and
    digits, at least one, whose number is that byte. Otherwise it is refused: as
    empty just if there is nothing behind the mark; as too large just if digits
    behind mark and sign have a number above 255, whatever follows them; and as
    having an invalid digit in all other cases, which are those of a sign with
    nothing behind it, and of a character that is no digit and belongs to no mark or
    sign, behind digits whose number is still that of a byte. -/
theorem hexByte_exact (text : String) :
    (∀ b, hexByte text = .ok b ↔ IsByteText text.toList b) ∧
      (IsRefused text "cannot parse integer from empty string" ↔ IsMark text.toList) ∧
      (IsRefused text "number too large to fit in target type" ↔ IsTooLarge text.toList) ∧
      (IsRefused text "invalid digit found in string" ↔
        (¬∃ b, IsByteText text.toList b) ∧ ¬IsMark text.toList ∧ ¬IsTooLarge text.toList) ∧
      (IsRefused text "invalid digit found in string" ↔ IsBroken text.toList) := by
  have hempty : IsRefused text "cannot parse integer from empty string" ↔
      hexByte text = .error .empty := isRefused_iff rfl
  have hlarge : IsRefused text "number too large to fit in target type" ↔
      hexByte text = .error .overflow := isRefused_iff rfl
  have hinvalid : IsRefused text "invalid digit found in string" ↔
      hexByte text = .error .invalidDigit := isRefused_iff rfl
  refine ⟨fun _ => hexByte_eq_ok_iff, hempty.trans hexByte_eq_empty_iff,
    hlarge.trans hexByte_eq_overflow_iff, hinvalid.trans ?_,
    hinvalid.trans hexByte_eq_invalidDigit_iff⟩
  rw [← hexByte_eq_empty_iff, ← hexByte_eq_overflow_iff,
    ← exists_congr fun b => hexByte_eq_ok_iff (b := b)]
  -- A reading has one outcome, and these are all there are.
  cases hexByte text with
  | ok b => exact iff_of_false nofun fun h => h.1 ⟨b, rfl⟩
  | error f => cases f <;> simp

/-- It is the first character out of the grammar that tells the reason. -/
example : hexByte "0x1ffz" = .error .overflow ∧ hexByte "0x1z00" = .error .invalidDigit := by
  decide

end CardToolkit.CommandLine
