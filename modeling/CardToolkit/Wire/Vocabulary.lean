/-!
# Vocabularies

A *vocabulary* is a closed list of symbols, each with the byte that stands for
it on the wire and the name it is printed under. No two symbols share a byte,
so that a byte names at most one symbol, and reading is a search through the
list.

* `Vocabulary.ofByte?`: the symbol a byte stands for, if any;
* `ofByte?_eq_some_iff`: reading a byte gives `a` just when `a` is written as
  that byte;
* `ofByte?_eq_none_iff`: reading fails just on the bytes of no symbol.
-/

namespace CardToolkit

/-- A closed list of symbols with their bytes on the wire and their names. -/
class Vocabulary (α : Type) where
  /-- What the symbols are, in words. -/
  kind : String
  /-- Every symbol, in the order of the bytes. -/
  all : List α
  /-- The byte of a symbol on the wire. -/
  value : α → UInt8
  /-- The name of a symbol in the standard. -/
  name : α → String
  /-- The list is complete. -/
  mem_all : ∀ a : α, a ∈ all
  /-- No byte stands for two symbols. -/
  nodup_value : (all.map value).Nodup

namespace Vocabulary

/-- Where the images of a list do not repeat, its members are told apart by
    their images. -/
theorem eq_of_nodup_map {α β : Type} {f : α → β} {l : List α} (h : (l.map f).Nodup)
    {a b : α} (ha : a ∈ l) (hb : b ∈ l) (hab : f a = f b) : a = b := by
  induction l with
  | nil => cases ha
  | cons c l ih =>
    rw [List.map_cons, List.nodup_cons] at h
    rcases List.mem_cons.1 ha with ac | al <;> rcases List.mem_cons.1 hb with bc | bl
    · exact ac.trans bc.symm
    · subst ac
      exact absurd (List.mem_map.2 ⟨b, bl, hab.symm⟩) h.1
    · subst bc
      exact absurd (List.mem_map.2 ⟨a, al, hab⟩) h.1
    · exact ih h.2 al bl

variable {α : Type} [Vocabulary α]

/-- A symbol is known by its byte. -/
theorem value_injective {a b : α} (h : value a = value b) : a = b :=
  eq_of_nodup_map nodup_value (mem_all a) (mem_all b) h

/-- The symbol that a byte stands for, if any. -/
def ofByte? (b : UInt8) : Option α :=
  all.find? fun a => value a == b

/-- Reading gives `a` just on the byte of `a`. -/
theorem ofByte?_eq_some_iff {a : α} {b : UInt8} : ofByte? b = some a ↔ value a = b := by
  constructor
  · intro h
    simpa using List.find?_some h
  · intro h
    cases hc : (ofByte? b : Option α) with
    | none =>
      have := List.find?_eq_none.1 hc a (mem_all a)
      simp [h] at this
    | some c =>
      have hc' : value c = b := by simpa using List.find?_some hc
      rw [value_injective (hc'.trans h.symm)]

/-- A symbol is read back from its byte. -/
@[simp] theorem ofByte?_value (a : α) : ofByte? (value a) = some a :=
  ofByte?_eq_some_iff.2 rfl

/-- Reading fails just on the bytes that stand for no symbol. -/
theorem ofByte?_eq_none_iff {b : UInt8} : (ofByte? b : Option α) = none ↔ ∀ a : α, value a ≠ b := by
  constructor
  · intro h a ha
    rw [ofByte?_eq_some_iff.2 ha] at h
    cases h
  · intro h
    cases hc : (ofByte? b : Option α) with
    | none => rfl
    | some c => exact absurd (ofByte?_eq_some_iff.1 hc) (h c)

end Vocabulary

end CardToolkit
