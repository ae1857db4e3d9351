import CardToolkit.Proofs.Text.Alphabet
import Mathlib.Data.List.Nodup

/-!
# Spelled in septets

Septets *spell* a text (`Alphabet.IsSpelled`) if each of them is one of the default
alphabet, or the escape together with one of the extension. Each text is spelled in one
way, and each spelling is that of one text, as in no table a character is found twice,
and none in both: so a septet and a pair are those of the character that they are read
as. The characters of neither table are all spelled as the question mark.

* `septets_of_basicChar?`, `septets_of_mem_extension`: the septets of the character that
  is read;
* `isSpelled_encode`, `IsSpelled.exists_text`: what is written is spelled, and what is
  spelled is written;
* `length_encode`: how long a spelling is;
* `spelling_unique`: all of this.
-/

namespace CardToolkit.Text.Alphabet

variable {c : Char} {s : UInt8} {ss : List UInt8}

/-- Septets of the default alphabet, and pairs of the escape and a septet of the
    extension. -/
inductive IsSpelled : List UInt8 → Prop
  | nil : IsSpelled []
  | basic {s : UInt8} {rest : List UInt8} (h : s < 0x80) (hescape : s ≠ escape)
    (hrest : IsSpelled rest) : IsSpelled (s :: rest)
  | pair {s : UInt8} {rest : List UInt8} (h : s ∈ extension.map Prod.fst)
    (hrest : IsSpelled rest) : IsSpelled (escape :: s :: rest)

/-! ## The tables -/

/-- No character has two places in the default alphabet. -/
theorem nodup_basic : basic.Nodup := .of_map Char.toNat (by decide +kernel)

/-- A character of the extension is none of the default alphabet, and is read behind the
    escape, from the septet that it has there and that is not the escape again. -/
theorem extension_sound : ∀ entry ∈ extension,
    basicSeptet? entry.2 = none ∧ extensionSeptet? entry.2 = some entry.1 ∧
      extensionChar? entry.1 = some entry.2 ∧ entry.1 < 0x80 ∧ entry.1 ≠ escape := by
  decide +kernel

/-- The character in a place has the septet of this place. -/
theorem basicSeptet?_of_place (h : basic[s.toNat]? = some c) (hvacant : c ≠ vacant) :
    basicSeptet? c = some s := by
  obtain ⟨hlt, hget⟩ := List.getElem?_eq_some_iff.1 h
  have hfirst : basic.idxOf? c = some s.toNat := by
    refine List.idxOf?_eq_some_iff.2 ⟨hlt, hget, fun j hj heq => ?_⟩
    have hplace : j = s.toNat := nodup_basic.getElem_inj_iff.1 (heq.trans hget.symm)
    exact absurd hplace (Nat.ne_of_lt hj)
  rw [basicSeptet?, if_neg hvacant, hfirst, Option.map_some, UInt8.ofNat_toNat]

/-- A septet that stands alone is read as a character, unless it is the escape. -/
theorem exists_basicChar? (h : s < 0x80) (hescape : s ≠ escape) :
    ∃ c, basicChar? s = some c ∧ c ≠ vacant := by
  have hlength : basic.length = 128 := rfl
  have hlt : s.toNat < basic.length := h
  refine ⟨basic[s.toNat], ?_, fun hvacant => ?_⟩
  · rw [basicChar?, if_neg hescape, List.getElem?_eq_getElem hlt]
  · -- What stands in the place of the escape stands in no other place.
    have hescaped : basic[escape.toNat]? = some vacant := rfl
    obtain ⟨_, hplace⟩ := List.getElem?_eq_some_iff.1 hescaped
    exact hescape (UInt8.toNat.inj (nodup_basic.getElem_inj_iff.1 (hvacant.trans hplace.symm)))

/-- The character that a septet alone is read as has this septet. -/
theorem septets_of_basicChar? (h : basicChar? s = some c) (hvacant : c ≠ vacant) :
    septets c = [s] := by
  rw [basicChar?] at h
  split at h
  · cases h
  · rw [septets, basicSeptet?_of_place h hvacant]

/-- The character that a pair is read as has this pair. -/
theorem septets_of_mem_extension {entry : UInt8 × Char} (h : entry ∈ extension) :
    septets entry.2 = [escape, entry.1] := by
  obtain ⟨hbasic, hextension, -⟩ := extension_sound entry h
  rw [septets, hbasic, hextension]

/-! ## What is written is spelled -/

/-- The septets of a character spell it, in front of others. -/
theorem IsSpelled.septets_append (h : IsSpelled ss) (c : Char) : IsSpelled (septets c ++ ss) := by
  have hlt : ∀ s ∈ septets c, s < 0x80 := fun s => lt_of_mem_septets
  rw [septets] at hlt ⊢
  cases hbasic : basicSeptet? c with
  | some s =>
    rw [hbasic] at hlt
    refine .basic (hlt s List.mem_cons_self) ?_ h
    rintro rfl
    have hescape : basicChar? escape = none := if_pos rfl
    cases hescape.symm.trans (basicChar?_of_basicSeptet? hbasic)
  | none =>
    cases hextension : extensionSeptet? c with
    | some s =>
      obtain ⟨entry, hentry, rfl⟩ := Option.map_eq_some_iff.1 hextension
      exact .pair (List.mem_map_of_mem (List.mem_of_find?_eq_some hentry)) h
    | none => exact .basic (by decide) (by decide) h

/-- The septets of a text spell it. -/
theorem isSpelled_encode (text : String) : IsSpelled (encode text) := by
  rw [encode]
  induction text.toList with
  | nil => exact .nil
  | cons c cs ih => exact ih.septets_append c

/-- Spelled septets have no high bit. -/
theorem IsSpelled.lt (h : IsSpelled ss) : ∀ s ∈ ss, s < 0x80 := by
  induction h with
  | nil => exact fun s hs => absurd hs List.not_mem_nil
  | basic h _ _ ih => exact List.forall_mem_cons.2 ⟨h, ih⟩
  | pair h _ ih =>
    obtain ⟨entry, hentry, rfl⟩ := List.mem_map.1 h
    obtain ⟨-, -, -, hlt, -⟩ := extension_sound entry hentry
    exact List.forall_mem_cons.2 ⟨by decide, List.forall_mem_cons.2 ⟨hlt, ih⟩⟩

/-- In spelled septets a septet of the extension is behind every escape. -/
theorem IsSpelled.behind_escape (h : IsSpelled ss) :
    ∀ i, ss[i]? = some escape → ∃ s ∈ extension.map Prod.fst, ss[i + 1]? = some s := by
  induction h with
  | nil => exact fun i hi => by cases hi
  | basic _ hescape _ ih =>
    intro i hi
    cases i with
    | zero => exact absurd (Option.some.inj hi) hescape
    | succ i => exact ih i hi
  | @pair s rest h _ ih =>
    intro i hi
    match i with
    | 0 => exact ⟨s, h, rfl⟩
    | 1 =>
      -- The second of a pair is not the escape.
      obtain ⟨entry, hentry, rfl⟩ := List.mem_map.1 h
      obtain ⟨-, -, -, -, hescape⟩ := extension_sound entry hentry
      exact absurd (Option.some.inj hi) hescape
    | i + 2 => exact ih i hi

/-! ## What is spelled is written -/

/-- Spelled septets are read, and are those of what is read. -/
theorem IsSpelled.exists_chars (h : IsSpelled ss) :
    ∃ cs, decode ss = some cs ∧ encodeChars cs = ss := by
  induction h with
  | nil => exact ⟨[], rfl, rfl⟩
  | @basic s rest h hescape _ ih =>
    obtain ⟨cs, hread, hwritten⟩ := ih
    obtain ⟨c, hc, hvacant⟩ := exists_basicChar? h hescape
    refine ⟨c :: cs, ?_, ?_⟩
    · rw [decode_of_basicChar? hc, hread]
      rfl
    · rw [encodeChars_cons, septets_of_basicChar? hc hvacant, hwritten]
      rfl
  | @pair s rest h _ ih =>
    obtain ⟨cs, hread, hwritten⟩ := ih
    obtain ⟨entry, hentry, rfl⟩ := List.mem_map.1 h
    obtain ⟨-, -, hchar, -, -⟩ := extension_sound entry hentry
    refine ⟨entry.2 :: cs, ?_, ?_⟩
    · rw [decode_of_extensionChar? hchar, hread]
      rfl
    · rw [encodeChars_cons, septets_of_mem_extension hentry, hwritten]
      rfl

/-- Spelled septets are those of the text that is read from them. -/
theorem IsSpelled.exists_text (h : IsSpelled ss) :
    ∃ text : String, decode ss = some text.toList ∧ encode text = ss := by
  obtain ⟨cs, hread, hwritten⟩ := h.exists_chars
  refine ⟨String.ofList cs, ?_, ?_⟩
  · rw [String.toList_ofList, hread]
  · rw [encode, String.toList_ofList, hwritten]

/-! ## Lengths -/

/-- A character of the extension has two septets, and every other has one. -/
theorem length_septets (c : Char) :
    (septets c).length = 1 + if c ∈ extension.map Prod.snd then 1 else 0 := by
  by_cases h : c ∈ extension.map Prod.snd
  · obtain ⟨entry, hentry, rfl⟩ := List.mem_map.1 h
    rw [septets_of_mem_extension hentry, if_pos h]
    rfl
  · have hextension : extensionSeptet? c = none := by
      rw [← Option.not_isSome_iff_eq_none, isSome_extensionSeptet?_iff]
      exact h
    rw [septets, hextension, if_neg h]
    cases basicSeptet? c <;> rfl

/-- A text has a septet for each character, and one more for each of the extension. -/
theorem length_encode (text : String) :
    (encode text).length = text.length + text.toList.countP (· ∈ extension.map Prod.snd) := by
  rw [encode, ← String.length_toList]
  induction text.toList with
  | nil => rfl
  | cons c cs ih =>
    rw [encodeChars_cons, List.length_append, length_septets, ih, List.countP_cons,
      List.length_cons]
    simp only [decide_eq_true_eq]
    omega

/-! ## One spelling for each text -/

/-- Texts of listed characters are told by their septets. -/
theorem eq_of_encode_eq {text text' : String} (h : ∀ c ∈ text.toList, IsListed c)
    (h' : ∀ c ∈ text'.toList, IsListed c) (heq : encode text = encode text') : text = text' := by
  have hread {t : String} (ht : ∀ c ∈ t.toList, IsListed c) :
      decode (encode t) = some t.toList := by
    rw [decode_encode]
    refine congrArg some ((List.map_congr_left fun c hc => ?_).trans (List.map_id t.toList))
    exact if_pos (ht c hc)
  have hsame := (hread h).symm.trans ((congrArg decode heq).trans (hread h'))
  exact String.toList_injective (Option.some.inj hsame)

/-- The septets of a text are below 128 and spell it: the escape is always the first of a
    pair, and the second is a septet of the extension. There is one for each character,
    and one more for each of the extension. They are read as the text, with a question
    mark for each character that no table has, among them that which stands for none.
    Just the septets that spell something are those of the text that is read from them,
    and so texts of listed characters have the same septets only if they are the same. -/
theorem spelling_unique (text : String) :
    (∀ s ∈ encode text, s < 0x80) ∧
      (∀ i, (encode text)[i]? = some escape →
        ∃ s ∈ extension.map Prod.fst, (encode text)[i + 1]? = some s) ∧
      (encode text).length = text.length + text.toList.countP (· ∈ extension.map Prod.snd) ∧
      decode (encode text) = some (text.toList.map fun c => if IsListed c then c else '?') ∧
      ¬IsListed vacant ∧
      (∀ ss, IsSpelled ss ↔ ∃ t : String, decode ss = some t.toList ∧ encode t = ss) ∧
      ∀ text' : String, (∀ c ∈ text.toList, IsListed c) → (∀ c ∈ text'.toList, IsListed c) →
        encode text = encode text' → text = text' := by
  refine ⟨(isSpelled_encode text).lt, (isSpelled_encode text).behind_escape, length_encode text,
    decode_encode text, by decide, fun ss => ⟨fun h => h.exists_text, ?_⟩,
    fun text' h h' heq => eq_of_encode_eq h h' heq⟩
  rintro ⟨t, -, rfl⟩
  exact isSpelled_encode t

/-- A text with characters of both tables, read from its septets. -/
theorem spelling_unique_of_price :
    let price := "5€"
    (∀ c ∈ price.toList, IsListed c) ∧ encode price = [0x35, 0x1B, 0x65] ∧
      ∀ text : String, (∀ c ∈ text.toList, IsListed c) → encode text = [0x35, 0x1B, 0x65] →
        text = price := by
  intro price
  have hprice : ∀ c ∈ price.toList, IsListed c := by
    rw [show price.toList = ['5', '€'] by decide]
    exact List.forall_mem_cons.2 ⟨by decide, List.forall_mem_singleton.2 (by decide)⟩
  have hseptets : encode price = [0x35, 0x1B, 0x65] := by decide
  obtain ⟨-, -, -, -, -, -, hunique⟩ := spelling_unique price
  refine ⟨hprice, hseptets, fun text h htext => ?_⟩
  exact (hunique text hprice h (hseptets.trans htext.symm)).symm

end CardToolkit.Text.Alphabet
