import CardToolkit.Proofs.Engine.Step

/-!
# What the slots may hold

The two slots are written by messages of every kind, and yet never hold just
anything. What is remembered as the menu sets one up; what waits is of a type
that may wait; and the two agree (`Sound.agree`): a command about the menu that
waits is the one remembered, or has withdrawn it. The last is what makes the
end of a session harmless, which puts the menu in the place of what waits.

* `Sound`: the invariant;
* `Sound.step`: a step preserves it;
* `reachable_sound`: it holds in all slots that a run may reach;
* `slotsAfter_sound`: the same after any run, and the bytes that answer a command
  that could not be read.
-/

namespace CardToolkit.Engine

open Command

/-- What holds of the slots after any run. -/
structure Sound (s : Slots) : Prop where
  /-- What is remembered as the menu is about the menu. -/
  menu_type : ∀ c ∈ s.menu, c.type? = some .setUpMenu
  /-- What is remembered as the menu has not withdrawn it. -/
  menu_present : ∀ c ∈ s.menu, ¬c.WithdrawsMenu
  /-- What waits is of a type that may wait. -/
  outstanding_type : ∀ c ∈ s.outstanding, ∃ t ∈ waitingTypes, c.type? = some t
  /-- The terminal reports all the events that a command asks for that waits. -/
  events : ∀ c ∈ s.outstanding, c.type? = some .setUpEventList → c.EventsReported
  /-- A command about the menu that waits is the one remembered, or has withdrawn
      the menu. -/
  agree : ∀ c ∈ s.outstanding, c.type? = some .setUpMenu →
    s.menu = some c ∨ c.WithdrawsMenu ∧ s.menu = none

variable {s : Slots} {c : Command}

/-! ## Each way to write the slots -/

theorem sound_empty : Sound {} where
  menu_type := by rintro _ ⟨⟩
  menu_present := by rintro _ ⟨⟩
  outstanding_type := by rintro _ ⟨⟩
  events := by rintro _ ⟨⟩
  agree := by rintro _ ⟨⟩

/-- The wait may end. -/
theorem Sound.answered (h : Sound s) : Sound ⟨none, s.menu⟩ where
  menu_type := h.menu_type
  menu_present := h.menu_present
  outstanding_type := by rintro _ ⟨⟩
  events := by rintro _ ⟨⟩
  agree := by rintro _ ⟨⟩

/-- The menu may take the place of what waits. -/
theorem Sound.rearmed (h : Sound s) : Sound ⟨s.menu, s.menu⟩ where
  menu_type := h.menu_type
  menu_present := h.menu_present
  outstanding_type c hc := ⟨.setUpMenu, by decide, h.menu_type c hc⟩
  events c hc ht := by
    rw [h.menu_type c hc] at ht
    cases ht
  agree _ hc _ := .inl hc

/-- The menu that a command leaves is about the menu, and not withdrawn. -/
theorem mem_menuAfter (h : Sound s) {d : Command} (hd : d ∈ menuAfter s.menu c) :
    d.type? = some .setUpMenu ∧ ¬d.WithdrawsMenu := by
  rw [menuAfter_eq] at hd
  split at hd
  · next ht =>
    split at hd
    · cases hd
    · next hkept =>
      cases hd
      exact ⟨ht, hkept⟩
  · exact ⟨h.menu_type d hd, h.menu_present d hd⟩

/-- A command that is shown may take the place of what waits. -/
theorem Sound.shown (h : Sound s) (hc : c.IsShown) : Sound ⟨some c.shown, menuAfter s.menu c⟩ where
  menu_type _ hd := (mem_menuAfter h hd).1
  menu_present _ hd := (mem_menuAfter h hd).2
  outstanding_type := by
    rintro _ ⟨⟩
    exact hc.type?_shown
  events := by
    rintro _ ⟨⟩ ht
    -- A refresh is shown as another type, so that the command is shown as it is.
    have hsame := shown_eq_of_type? ht (by decide)
    rw [hsame] at ht ⊢
    exact hc.2 ht
  agree := by
    rintro _ ⟨⟩ ht
    have hsame := shown_eq_of_type? ht (by decide)
    rw [hsame] at ht ⊢
    show menuAfter s.menu c = _ ∨ _ ∧ menuAfter s.menu c = _
    rw [menuAfter_eq, if_pos ht]
    by_cases hwithdraws : c.WithdrawsMenu
    · exact .inr ⟨hwithdraws, if_pos hwithdraws⟩
    · exact .inl (if_neg hwithdraws)

/-! ## Steps and runs -/

variable {language : String}

/-- A step preserves the invariant. -/
theorem Sound.step (h : Sound s) (m : Message) (v : Verdict) :
    Sound (step language s m v).slots := by
  rw [slots_step]
  cases m with
  | command c reading =>
    rw [nextOutstanding, nextMenu]
    by_cases hr : reading = .ok
    · by_cases hc : c.IsShown
      · rw [if_pos ⟨hr, hc⟩, if_pos hr]
        exact h.shown hc
      · rw [if_neg fun h => hc h.2, if_pos hr, menuAfter_of_not_isShown hc]
        exact h
    · rw [if_neg fun h => hr h.1, if_neg hr]
      exact h
  | unreadable reading => exact h
  | reply r =>
    rw [nextOutstanding]
    split
    · exact h.answered
    · exact h
  | sessionEnd => exact h.rearmed
  | refreshed outcome =>
    rw [nextOutstanding, nextMenu]
    split
    · exact h
    · exact sound_empty
  | cardAbsent => exact sound_empty

/-- The invariant holds in all slots that a run may reach. -/
theorem reachable_sound (h : Reachable language s) : Sound s := by
  induction h with
  | start => exact sound_empty
  | step _ m v ih => exact ih.step m v

/-- The invariant holds after any run. -/
theorem sound_slotsAfter (l : List (Message × Verdict)) : Sound (slotsAfter language {} l) :=
  reachable_sound (reachable_slotsAfter language .start l)

/-! ## Commands that could not be read -/

/-- The answer to a command that could not be read has the bytes of the three
    objects that are always there. -/
theorem acknowledge_unreadable (reading : ResultCode) :
    acknowledge language (unreadableDetails s) reading =
      .ok (.terminalResponse (Hex.encode
        [0x81, 0x03, 0x00, (unreadableDetails s).typeByte, 0x00, 0x02, 0x02, 0x82, 0x81,
          0x83, 0x01, reading.value])) := by
  have hqualifier : (unreadableDetails s).qualifier ≠ languageSetting :=
    show (0x00 : UInt8) ≠ 0x04 by decide
  -- A time waited in vain needs a question, a language needs its qualifier: there
  -- is neither.
  have hlast : TerminalResponse.last
      { details := unreadableDetails s, result := reading, language := some language } = none := by
    show TerminalResponse.derived _ = none
    rw [TerminalResponse.derived]
    split
    · split <;> rfl
    · exact if_neg fun h => hqualifier h.1
    · rfl
  rw [acknowledge, respond, TerminalResponse.encode_of_last_eq_none hlast]
  rfl

/-- The type under which a command is answered that could not be read is zero, or
    one of a command that may wait. -/
theorem Sound.typeByte_unreadable (h : Sound s) :
    (unreadableDetails s).typeByte = 0x00 ∨
      ∃ t ∈ waitingTypes, (unreadableDetails s).typeByte = t.value := by
  rw [unreadableDetails]
  cases hs : s.outstanding with
  | none => exact .inl rfl
  | some c =>
    obtain ⟨t, ht, hc⟩ := h.outstanding_type c hs
    exact .inr ⟨t, ht, (type?_eq_some_iff.1 hc).symm⟩

variable (language) in
/-- After any run the slots are sound, and a command that cannot be read is
    answered under the type zero or one of a command that may wait. -/
theorem slotsAfter_sound (l : List (Message × Verdict)) :
    Sound (slotsAfter language {} l) ∧
      ∀ (reading : ResultCode) (v : Verdict), ∃ b : UInt8,
        (step language (slotsAfter language {} l) (.unreadable reading) v).attempted =
            some (.terminalResponse (Hex.encode
              [0x81, 0x03, 0x00, b, 0x00, 0x02, 0x02, 0x82, 0x81, 0x83, 0x01, reading.value])) ∧
          (b = 0x00 ∨ ∃ t ∈ waitingTypes, b = t.value) := by
  have hsound : Sound (slotsAfter language {} l) := sound_slotsAfter l
  refine ⟨hsound, fun reading v => ⟨_, ?_, hsound.typeByte_unreadable⟩⟩
  refine attempted_settle ?_ v
  exact congrArg some (acknowledge_unreadable reading)

end CardToolkit.Engine
