import CardToolkit.Proofs.CommandLine.Lookup
import CardToolkit.Proofs.CommandLine.Number

/-!
# Symbols as arguments, exactly

A text stands for a symbol if it is its name, but for case and dashes, or its byte in
hexadecimal (`StandsFor`). These are two vocabularies in one, and could clash: a name
such as `FACE` would be a number as well, and which symbol it stood for would depend
on what is tried first. No name is like that, as there is a letter in each that stands
in no number. So a text stands for at most one symbol, and trying the byte before the
name would come to the same.

* `not_name_and_byte`: no text is both a name and a byte, be it that of another symbol
  or of none;
* `Found`, `found_lookup`: what looking a text up comes to, and that it does so;
* `lookupByteFirst`: looking a text up in the other order;
* `Resolves`: an argument finds the symbols of a vocabulary, and tells what stands for
  none;
* `symbols_resolve`: so do the arguments for command types, results, events and
  devices.
-/

namespace CardToolkit.CommandLine

variable {α : Type} [Vocabulary α] {a a' : α} {b : UInt8} {c : Char} {d : Nat} {text label : String}

/-! ## What a text stands for -/

/-- The text is the name of a symbol, with dashes for underscores or not, and in either
    case. -/
def IsName (text : String) (a : α) : Prop :=
  (text.toList.map fun c => if c = '-' then '_' else c).map Char.toLower =
    (Vocabulary.name a).toList.map Char.toLower

/-- The text stands for a symbol. -/
inductive StandsFor (text : String) (a : α) : Prop
  | name (name : IsName text a)
  | byte (byte : hexByte text = .ok (Vocabulary.value a))

/-- A digit is one in lower case as well. -/
theorem isNumberCharacter_of_isDigit (h : IsDigit c d) : isNumberCharacter c.toLower = true := by
  have hlower : ∀ d < 16, isNumberCharacter (Nat.digitChar d).toLower = true ∧
      isNumberCharacter (Nat.digitChar d).toUpper.toLower = true := by
    decide
  obtain ⟨hd, rfl | rfl⟩ := h
  · exact (hlower d hd).1
  · exact (hlower d hd).2

theorem isNumberCharacter_of_isMark {mark : List Char} (h : IsMark mark) (hc : c ∈ mark) :
    isNumberCharacter c.toLower = true := by
  have hall : (mark.all fun c => isNumberCharacter c.toLower) = true := by
    cases h <;> rfl
  exact List.all_eq_true.1 hall c hc

/-- What stands in the text of a byte may do so. -/
theorem isNumberCharacter_of_isByteText {cs : List Char} (h : IsByteText cs b) (hc : c ∈ cs) :
    isNumberCharacter c.toLower = true := by
  obtain ⟨lead, cs, rfl, hlead, -, ds, digits, -⟩ := h
  rcases List.mem_append.1 hc with hc | hc
  · cases hlead with
    | unsigned hmark => exact isNumberCharacter_of_isMark hmark hc
    | signed hmark =>
      rcases List.mem_append.1 hc with hc | hc
      · exact isNumberCharacter_of_isMark hmark hc
      · rw [List.mem_singleton.1 hc]
        rfl
  · obtain ⟨d, hd⟩ := exists_isDigit_of_mem digits hc
    exact isNumberCharacter_of_isDigit hd

section

variable [PlainNames α]

theorem byName?_eq_some_iff_isName : byName? text = some a ↔ IsName text a := by
  rw [byName?_eq_some_iff, equalIgnoringCase_iff]
  exact eq_comm

theorem byName?_eq_none_iff : (byName? text : Option α) = none ↔ ∀ a : α, ¬IsName text a := by
  rw [Option.eq_none_iff_forall_ne_some]
  exact forall_congr' fun a => not_congr byName?_eq_some_iff_isName

/-- No text is both a name and a byte, be it that of another symbol or of none. -/
theorem not_name_and_byte (hname : IsName text a) : hexByte text ≠ .ok b := by
  intro hbyte
  have hnumber : ∀ c ∈ text.toList, isNumberCharacter c.toLower = true :=
    fun _ => isNumberCharacter_of_isByteText (hexByte_eq_ok_iff.1 hbyte)
  -- The letter of the name that stands in no number comes from a character of the text.
  obtain ⟨-, l, hl, hnot⟩ := isWord_lowerName a
  rw [lowerName, ← hname, List.map_map, List.mem_map] at hl
  obtain ⟨c, hc, rfl⟩ := hl
  by_cases hdash : c = '-'
  · subst hdash
    exact absurd (hnumber '-' hc) (by decide)
  · rw [Function.comp_apply, if_neg hdash, hnumber c hc] at hnot
    cases hnot

/-- A text stands for at most one symbol. -/
theorem StandsFor.unique (h : StandsFor text a) (h' : StandsFor text a') : a = a' := by
  cases h with
  | name hname =>
    cases h' with
    | name hname' => exact lowerName_injective (hname.symm.trans hname')
    | byte hbyte' => exact absurd hbyte' (not_name_and_byte hname)
  | byte hbyte =>
    cases h' with
    | name hname' => exact absurd hbyte (not_name_and_byte hname')
    | byte hbyte' => exact Vocabulary.value_injective (Except.ok.inj (hbyte.symm.trans hbyte'))

/-- A text that is neither a name nor the byte of a symbol stands for none. -/
theorem not_standsFor (hname : (byName? text : Option α) = none)
    (hbyte : ∀ a : α, hexByte text ≠ .ok (Vocabulary.value a)) (a : α) : ¬StandsFor text a := by
  intro h
  cases h with
  | name name => exact byName?_eq_none_iff.1 hname a name
  | byte byte => exact hbyte a byte

end

/-! ## Looking a text up -/

/-- What looking a text up comes to. -/
inductive Found (label text : String) : Except LookupFault α → Prop
  | symbol {a : α} (stands : StandsFor text a) : Found label text (.ok a)
  | unknownValue {b : UInt8} (none : ∀ a : α, ¬StandsFor text a) (byte : hexByte text = .ok b) :
    Found label text (.error (.unknownValue label b))
  | unknownName (none : ∀ a : α, ¬StandsFor text a) (other : ∀ b, hexByte text ≠ .ok b) :
    Found label text (.error (.unknownName label text))

/-- The symbol whose byte the text is. -/
def byByte? (text : String) : Option α := (hexByte text).toOption.bind Vocabulary.ofByte?

theorem byByte?_eq_some_iff : byByte? text = some a ↔ hexByte text = .ok (Vocabulary.value a) := by
  rw [byByte?]
  cases hexByte text with
  | error f => exact iff_of_false nofun nofun
  | ok b =>
    rw [Except.toOption, Option.bind_some, Vocabulary.ofByte?_eq_some_iff, Except.ok.injEq]
    exact eq_comm

/-- The symbol of a text, by its byte or else by its name. -/
def lookupByteFirst (label text : String) : Except LookupFault α :=
  match byByte? text with
  | some a => .ok a
  | none =>
    match byName? text, hexByte text with
    | some a, _ => .ok a
    | none, .ok b => .error (.unknownValue label b)
    | none, .error _ => .error (.unknownName label text)

section

variable [PlainNames α]

/-- A text comes to one thing only. -/
theorem Found.unique {r r' : Except LookupFault α} (h : Found label text r)
    (h' : Found label text r') : r = r' := by
  cases h with
  | symbol stands =>
    cases h' with
    | symbol stands' => rw [stands.unique stands']
    | unknownValue none' | unknownName none' => exact absurd stands (none' _)
  | unknownValue none byte =>
    cases h' with
    | symbol stands' => exact absurd stands' (none _)
    | unknownValue _ byte' => rw [Except.ok.inj (byte.symm.trans byte')]
    | unknownName _ other' => exact absurd byte (other' _)
  | unknownName none other =>
    cases h' with
    | symbol stands' => exact absurd stands' (none _)
    | unknownValue _ byte' => exact absurd byte' (other _)
    | unknownName => rfl

theorem found_lookup : Found label text (lookup label text : Except LookupFault α) := by
  rw [lookup]
  cases hname : (byName? text : Option α) with
  | some a => exact .symbol (.name (byName?_eq_some_iff_isName.1 hname))
  | none =>
    dsimp only
    cases hread : hexByte text with
    | error f =>
      have hother : ∀ b, hexByte text ≠ .ok b := by
        intro b h
        cases hread.symm.trans h
      exact .unknownName (not_standsFor hname fun a => hother _) hother
    | ok b =>
      dsimp only
      cases hsymbol : (Vocabulary.ofByte? b : Option α) with
      | some a =>
        rw [← Vocabulary.ofByte?_eq_some_iff.1 hsymbol] at hread
        exact .symbol (.byte hread)
      | none =>
        refine .unknownValue (not_standsFor hname fun a h => ?_) hread
        exact Vocabulary.ofByte?_eq_none_iff.1 hsymbol a (Except.ok.inj (h.symm.trans hread))

theorem found_lookupByteFirst :
    Found label text (lookupByteFirst label text : Except LookupFault α) := by
  rw [lookupByteFirst]
  cases hsymbol : (byByte? text : Option α) with
  | some a => exact .symbol (.byte (byByte?_eq_some_iff.1 hsymbol))
  | none =>
    have hbyte : ∀ a : α, hexByte text ≠ .ok (Vocabulary.value a) := by
      intro a h
      cases hsymbol.symm.trans (byByte?_eq_some_iff.2 h)
    dsimp only
    cases hname : (byName? text : Option α) with
    | some a => exact .symbol (.name (byName?_eq_some_iff_isName.1 hname))
    | none =>
      have hnone := not_standsFor hname hbyte
      cases hread : hexByte text with
      | ok b => exact .unknownValue hnone hread
      | error f =>
        refine .unknownName hnone fun b h => ?_
        cases hread.symm.trans h

/-- The symbol is found that the text stands for. -/
theorem lookup_eq_ok_iff : lookup label text = .ok a ↔ StandsFor text a := by
  refine ⟨fun h => ?_, fun stands => found_lookup.unique (.symbol stands)⟩
  have hfound : Found label text (lookup label text : Except LookupFault α) := found_lookup
  rw [h] at hfound
  cases hfound with
  | symbol stands => exact stands

end

/-! ## What is told -/

theorem LookupFault.message_unknownValue_inj {b' : UInt8}
    (h : (unknownValue label b).message = (unknownValue label b').message) : b = b' := by
  have hdigits : Hex.byteDigits b = Hex.byteDigits b' :=
    String.ofList_injective ((String.append_right_inj _).1 h)
  have hencode : Hex.encode [b] = Hex.encode [b'] := by
    rw [Hex.encode, Hex.encode, Hex.digits_cons, Hex.digits_cons, hdigits]
  have hread : Except.ok [b] = (Except.ok [b'] : Except HexFault (List UInt8)) :=
    calc Except.ok [b]
      _ = Hex.decode (Hex.encode [b]) := (Hex.decode_encode [b]).symm
      _ = Hex.decode (Hex.encode [b']) := by rw [hencode]
      _ = Except.ok [b'] := Hex.decode_encode [b']
  exact (List.cons.inj (Except.ok.inj hread)).1

theorem LookupFault.message_unknownValue_ne :
    (unknownValue label b).message ≠ (unknownName label text).message := by
  intro h
  have hbehind : " value 0x" ++ String.ofList (Hex.byteDigits b) = " '" ++ (text ++ "'") := by
    refine (String.append_right_inj ("unknown " ++ label)).1 ?_
    rw [← String.append_assoc, ← String.append_assoc, ← String.append_assoc]
    exact h
  -- The one goes on with a letter where the other has a quotation mark.
  have hchars := congrArg String.toList hbehind
  rw [String.toList_append, String.toList_append] at hchars
  exact absurd (List.cons.inj (List.cons.inj hchars).2).1 (by decide)

section

variable [PlainNames α] {r : Except LookupFault α} (h : Found label text r)
include h

/-- A byte is told just if the text is that byte, and stands for no symbol. -/
theorem Found.tells_unknownValue_iff :
    r.mapError LookupFault.message = .error (LookupFault.unknownValue label b).message ↔
      (∀ a : α, ¬StandsFor text a) ∧ hexByte text = .ok b := by
  constructor
  · intro told
    cases h with
    | symbol => cases told
    | unknownValue none byte =>
      rw [← LookupFault.message_unknownValue_inj (Except.error.inj told)]
      exact ⟨none, byte⟩
    | unknownName =>
      exact absurd (Except.error.inj told).symm LookupFault.message_unknownValue_ne
  · rintro ⟨none, byte⟩
    rw [h.unique (.unknownValue none byte)]
    rfl

/-- The text is told just if it is no byte, and stands for no symbol. -/
theorem Found.tells_unknownName_iff :
    r.mapError LookupFault.message = .error (LookupFault.unknownName label text).message ↔
      (∀ a : α, ¬StandsFor text a) ∧ ∀ b, hexByte text ≠ .ok b := by
  constructor
  · intro told
    cases h with
    | symbol => cases told
    | unknownValue =>
      exact absurd (Except.error.inj told) LookupFault.message_unknownValue_ne
    | unknownName none other => exact ⟨none, other⟩
  · rintro ⟨none, other⟩
    rw [h.unique (.unknownName none other)]
    rfl

end

/-! ## Arguments for symbols -/

/-- An argument finds the symbols of a vocabulary, each of which is called a `label`,
    and tells what stands for none. -/
structure Resolves (label : String) (resolve : String → Except CommandFault α) : Prop where
  /-- A symbol is found just if the text is its name or its byte. -/
  eq_ok_iff : ∀ text a, resolve text = .ok a ↔ StandsFor text a
  /-- No text is a name and a byte, be they those of different symbols. -/
  not_both : ∀ text (a : α) b, IsName text a → hexByte text ≠ .ok b
  /-- No text stands for two symbols. -/
  unique : ∀ text (a a' : α), StandsFor text a → StandsFor text a' → a = a'
  /-- Whether the name or the byte is tried first does not show. -/
  either_first : ∀ text, resolve text = (lookupByteFirst label text).mapError .lookup
  /-- A byte is told just if the text is that byte, and stands for no symbol. -/
  tells_value_iff : ∀ text b,
    (resolve text).mapError CommandFault.message =
        .error ("unknown " ++ label ++ " value 0x" ++ String.ofList (Hex.byteDigits b)) ↔
      (∀ a : α, ¬StandsFor text a) ∧ hexByte text = .ok b
  /-- The text is told just if it is no byte, and stands for no symbol. -/
  tells_name_iff : ∀ text,
    (resolve text).mapError CommandFault.message =
        .error ("unknown " ++ label ++ " '" ++ text ++ "'") ↔
      (∀ a : α, ¬StandsFor text a) ∧ ∀ b, hexByte text ≠ .ok b

omit [Vocabulary α] in
/-- What is found by an argument is found by looking it up. -/
theorem mapError_lookup_eq_ok_iff {r : Except LookupFault α} :
    r.mapError CommandFault.lookup = .ok a ↔ r = .ok a := by
  cases r with
  | error f => exact iff_of_false nofun nofun
  | ok a' => rw [Except.mapError, Except.ok.injEq, Except.ok.injEq]

omit [Vocabulary α] in
/-- What is told by an argument is what looking it up tells. -/
theorem mapError_message_lookup {r : Except LookupFault α} :
    (r.mapError CommandFault.lookup).mapError CommandFault.message =
      r.mapError LookupFault.message := by
  cases r <;> rfl

/-- An argument that is looked up finds the symbols of its vocabulary. -/
theorem resolves_lookup [PlainNames α] (label : String) :
    Resolves label fun text => (lookup label text : Except LookupFault α).mapError .lookup where
  eq_ok_iff _ _ := mapError_lookup_eq_ok_iff.trans lookup_eq_ok_iff
  not_both _ _ _ := not_name_and_byte
  unique _ _ _ := StandsFor.unique
  either_first _ := congrArg (Except.mapError _) (found_lookup.unique found_lookupByteFirst)
  tells_value_iff _ _ := by
    rw [mapError_message_lookup]
    exact found_lookup.tells_unknownValue_iff
  tells_name_iff _ := by
    rw [mapError_message_lookup]
    exact found_lookup.tells_unknownName_iff

/-- Command types, results, events and devices are found by their names and their bytes,
    which no text confuses, and what stands for none of them is told. -/
theorem symbols_resolve :
    Resolves "command type" commandType ∧ Resolves "result code" resultCode ∧
      Resolves "event" eventCode ∧ Resolves "device identity" device :=
  ⟨resolves_lookup _, resolves_lookup _, resolves_lookup _, resolves_lookup _⟩

/-- A name has several spellings, and so has a byte. -/
example : commandType "set-up-Menu" = .ok .setUpMenu ∧ device "0X+082" = .ok .terminal := by
  decide +kernel

end CardToolkit.CommandLine
