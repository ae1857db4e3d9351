import CardToolkit.CommandLine.Encoding

/-!
# Symbols by their names

A text is compared with the names of a vocabulary without regard to case, and with
underscores for its dashes. This takes no name for another one, and each name for
itself, as names differ in more than case and have no dash of their own. Nor could a
name be a byte in hexadecimal, as each has a letter beyond the digits
(`PlainNames`).

* `byName?_eq_some_iff`: a text gives the symbol whose name it is;
* `lookup_name`: a symbol is found under its name.
-/

namespace CardToolkit.CommandLine

variable {α : Type} [Vocabulary α]

theorem equalIgnoringCase_iff {cs ds : List Char} :
    equalIgnoringCase cs ds = true ↔ cs.map Char.toLower = ds.map Char.toLower := beq_iff_eq

/-- The name of a symbol in lower case. -/
def lowerName (a : α) : List Char := (Vocabulary.name a).toList.map Char.toLower

/-- The character may stand in a byte in hexadecimal, if its case does not matter. -/
def isNumberCharacter (c : Char) : Bool := c == '+' || c == 'x' || (Hex.digitValue? c).isSome

/-- The characters have no dash, and one of them stands in no number. -/
def isWord (cs : List Char) : Bool := cs.all (· != '-') && cs.any (!isNumberCharacter ·)

/-- The names of a vocabulary differ in more than case, and are words. -/
class PlainNames (α : Type) [Vocabulary α] : Prop where
  -- The two are decided together, as it takes long to take the names apart.
  plain : ((Vocabulary.all : List α).map lowerName).Nodup ∧
    ∀ cs ∈ (Vocabulary.all : List α).map lowerName, isWord cs = true

instance : PlainNames CommandType := ⟨by decide +kernel⟩

instance : PlainNames ResultCode := ⟨by decide +kernel⟩

instance : PlainNames EventCode := ⟨by decide +kernel⟩

instance : PlainNames Device := ⟨by decide +kernel⟩

theorem lowerName_injective [PlainNames α] : Function.Injective (lowerName : α → List Char) :=
  fun a b => Vocabulary.eq_of_nodup_map PlainNames.plain.1 (Vocabulary.mem_all a)
    (Vocabulary.mem_all b)

theorem isWord_lowerName [PlainNames α] (a : α) :
    '-' ∉ lowerName a ∧ ∃ c ∈ lowerName a, isNumberCharacter c = false := by
  have h := PlainNames.plain.2 _ (List.mem_map_of_mem (Vocabulary.mem_all a))
  rw [isWord, Bool.and_eq_true, List.all_eq_true, List.any_eq_true] at h
  obtain ⟨hdash, c, hc, hnot⟩ := h
  exact ⟨fun hmem => absurd (hdash '-' hmem) (by decide), c, hc, Bool.not_eq_eq_eq_not.1 hnot⟩

section

variable [PlainNames α] {a : α} {text : String}

/-- A text gives a symbol by name just if it is the name but for case and dashes. -/
theorem byName?_eq_some_iff :
    byName? text = some a ↔
      equalIgnoringCase (Vocabulary.name a).toList (dashesToUnderscores text) = true := by
  constructor
  · intro h
    have hfound := List.find?_some h
    exact hfound
  · intro h
    cases hc : (byName? text : Option α) with
    | none => exact absurd h (List.find?_eq_none.1 hc a (Vocabulary.mem_all a))
    | some c =>
      -- Two names that are both the text are the same in lower case.
      have hfound := List.find?_some hc
      have hlower : lowerName c = lowerName a :=
        (equalIgnoringCase_iff.1 hfound).trans (equalIgnoringCase_iff.1 h).symm
      rw [lowerName_injective hlower]

variable (a)

/-- No dash is taken for an underscore in a name. -/
theorem dashesToUnderscores_name :
    dashesToUnderscores (Vocabulary.name a) = (Vocabulary.name a).toList := by
  have hsame : ∀ c ∈ (Vocabulary.name a).toList, (if c = '-' then '_' else c) = c := by
    intro c hc
    refine if_neg ?_
    rintro rfl
    exact (isWord_lowerName a).1 (List.mem_map_of_mem hc)
  rw [dashesToUnderscores, List.map_congr_left hsame, List.map_id']

/-- A symbol is found under its name. -/
theorem lookup_name (label : String) : lookup label (Vocabulary.name a) = .ok a := by
  have hname : byName? (Vocabulary.name a) = some a := by
    rw [byName?_eq_some_iff, dashesToUnderscores_name]
    exact equalIgnoringCase_iff.2 rfl
  rw [lookup, hname]

end

/-! ## Arguments that are names -/

theorem commandType_name (t : CommandType) : commandType t.name = .ok t :=
  congrArg (Except.mapError CommandFault.lookup) (lookup_name t "command type")

theorem resultCode_name (result : ResultCode) : resultCode result.name = .ok result :=
  congrArg (Except.mapError CommandFault.lookup) (lookup_name result "result code")

theorem eventCode_name (e : EventCode) : eventCode e.name = .ok e :=
  congrArg (Except.mapError CommandFault.lookup) (lookup_name e "event")

end CardToolkit.CommandLine
