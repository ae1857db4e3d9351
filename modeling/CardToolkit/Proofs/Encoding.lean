import CardToolkit.Envelope
import CardToolkit.TerminalResponse

/-!
# When messages have bytes

A message to the card is written in full, or not at all. Three objects of a
terminal response are always there and always short, so that all depends on the
last one: a response *fits* if the value of its last object has a length that
can be told. A frame depends on the length of its content alone.

* `encode_of_fits`, `encode_of_last`: the bytes of a response that fits, and the
  fault of one that does not;
* `exists_encode_iff`: a response has bytes just if it fits;
* `exists_wrap_iff`, `wrap_eq_error_iff`: a frame has bytes just if its content is
  short enough, and the fault of one that has none;
* `exists_menuSelection`: a choice from the menu always has bytes.
-/

namespace CardToolkit

namespace Object

/-- Objects whose values are not too long are written in full, whatever comes
    after them. -/
theorem emissions_append_of_le {os : List Object} (h : ∀ o ∈ os, o.value.length ≤ maxLength)
    (os' : List Object) :
    emissions (os ++ os') = .write (os.flatMap bytes) ++ emissions os' := by
  induction os with
  | nil => rfl
  | cons o os ih =>
    have ih := ih fun o ho => h o (List.mem_cons_of_mem _ ho)
    have hcons : emissions (o :: os ++ os') = o.emission ++ emissions (os ++ os') := rfl
    rw [hcons, ih, emission_of_le (h o List.mem_cons_self), List.flatMap_cons]
    simp only [Emission.write_append, List.append_assoc]

end Object

namespace TerminalResponse

/-- The value of the last object has a length that can be told. -/
def Fits (r : TerminalResponse) : Prop := ∀ o ∈ r.last, o.value.length ≤ maxLength

instance (r : TerminalResponse) : Decidable r.Fits :=
  inferInstanceAs (Decidable (∀ o ∈ r.last, o.value.length ≤ maxLength))

/-- The three objects that are always there. -/
def fixedObjects (r : TerminalResponse) : List Object :=
  [detailsObject r.details, devicesObject, resultObject r.result r.info]

/-- The values of the objects that are always there are short. -/
theorem length_of_mem_fixedObjects {r : TerminalResponse} {o : Object} (ho : o ∈ r.fixedObjects) :
    o.value.length ≤ maxLength := by
  have hinfo : r.info.toList.length ≤ 1 := by cases r.info <;> simp
  simp only [fixedObjects, List.mem_cons, List.not_mem_nil, or_false] at ho
  rcases ho with rfl | rfl | rfl
  · exact Nat.le_of_ble_eq_true rfl
  · exact Nat.le_of_ble_eq_true rfl
  · have hmax : 2 ≤ maxLength := Nat.le_of_ble_eq_true rfl
    show r.info.toList.length + 1 ≤ maxLength
    omega

/-- A response that fits is written in full. -/
theorem encode_of_fits {r : TerminalResponse} (h : r.Fits) :
    r.encode = .ok (r.objects.flatMap Object.bytes) := by
  have hall : ∀ o ∈ r.objects, o.value.length ≤ maxLength := by
    intro o ho
    rcases List.mem_append.1 ho with hfixed | hlast
    · exact length_of_mem_fixedObjects hfixed
    · exact h o (Option.mem_toList.1 hlast)
  rw [encode, Object.emissions_of_le hall, Emission.result_write]

/-- A response without a last object is written in full. -/
theorem encode_of_last_eq_none {r : TerminalResponse} (h : r.last = none) :
    r.encode = .ok (r.fixedObjects.flatMap Object.bytes) := by
  have hfits : r.Fits := by
    intro o ho
    rw [h] at ho
    cases ho
  have hobjects : r.objects = r.fixedObjects := by
    rw [objects, h]
    exact List.append_nil _
  rw [encode_of_fits hfits, hobjects]

/-- A response whose last value is too long is not written. -/
theorem encode_of_last {r : TerminalResponse} {o : Object} (ho : r.last = some o)
    (h : maxLength < o.value.length) : r.encode = .error (.valueTooLong o.value.length) := by
  have hobjects : r.objects = r.fixedObjects ++ [o] := by
    rw [objects, ho]
    rfl
  have hlast : Object.emissions [o] = ⟨[o.tag], some (.valueTooLong o.value.length)⟩ := by
    show o.emission ++ Emission.empty = _
    rw [Emission.append_empty, Object.emission_of_lt h]
  rw [encode, hobjects, Object.emissions_append_of_le fun _ => length_of_mem_fixedObjects, hlast]
  rfl

/-- A response has bytes just if it fits. -/
theorem exists_encode_iff {r : TerminalResponse} : (∃ bs, r.encode = .ok bs) ↔ r.Fits := by
  constructor
  · rintro ⟨bs, hbs⟩ o ho
    rcases Nat.lt_or_ge maxLength o.value.length with hlong | hshort
    · rw [encode_of_last ho hlong] at hbs
      cases hbs
    · exact hshort
  · intro h
    exact ⟨_, encode_of_fits h⟩

end TerminalResponse

/-- What is made of a result is made of what the result holds. -/
theorem map_eq_ok_iff {ε α β : Type} {x : Except ε α} {f : α → β} {b : β} :
    x.map f = .ok b ↔ ∃ a, x = .ok a ∧ f a = b := by
  cases x with
  | error e =>
    refine iff_of_false nofun ?_
    rintro ⟨a, ⟨⟩, -⟩
  | ok a =>
    constructor
    · intro h
      exact ⟨a, rfl, Except.ok.inj h⟩
    · rintro ⟨_, ⟨⟩, rfl⟩
      rfl

/-- What is made of a result is there just if the result is. -/
theorem exists_map_eq_ok {ε α β : Type} {x : Except ε α} {f : α → β} :
    (∃ b, x.map f = .ok b) ↔ ∃ a, x = .ok a := by
  constructor
  · rintro ⟨b, hb⟩
    obtain ⟨a, ha, -⟩ := map_eq_ok_iff.1 hb
    exact ⟨a, ha⟩
  · rintro ⟨a, rfl⟩
    exact ⟨f a, rfl⟩

/-- A frame is refused just if its content is too long, and the fault tells how long
    it is. -/
theorem Frame.wrap_eq_error_iff {tag : UInt8} {content : List UInt8} {f : EncodingFault} :
    Frame.wrap tag content = .error f ↔
      maxLength < content.length ∧ f = .contentTooLong content.length := by
  rcases Nat.lt_or_ge maxLength content.length with hlong | hshort
  · rw [show Frame.wrap tag content = _ from Frame.close_of_lt hlong, Except.error.injEq]
    exact eq_comm.trans (and_iff_right hlong).symm
  · rw [show Frame.wrap tag content = _ from Frame.close_of_le hshort]
    exact iff_of_false nofun fun h => Nat.not_lt.2 hshort h.1

/-- A frame has bytes just if its content is short enough. -/
theorem Frame.exists_wrap_iff {tag : UInt8} {content : List UInt8} :
    (∃ bs, Frame.wrap tag content = .ok bs) ↔ content.length ≤ maxLength := by
  constructor
  · rintro ⟨bs, hbs⟩
    rcases Nat.lt_or_ge maxLength content.length with hlong | hshort
    · rw [show Frame.wrap tag content = _ from Frame.close_of_lt hlong] at hbs
      cases hbs
    · exact hshort
  · intro h
    exact ⟨_, Frame.close_of_le h⟩

/-- A choice from the menu always has bytes. -/
theorem Envelope.exists_menuSelection (item : UInt8) (help : Bool) :
    ∃ bs, Envelope.menuSelection item help = .ok bs := by
  refine Frame.exists_wrap_iff.2 ?_
  cases help <;> exact Nat.le_of_ble_eq_true rfl

end CardToolkit
