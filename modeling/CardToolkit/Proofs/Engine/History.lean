import CardToolkit.Proofs.Engine.Invariant
import Mathlib.Data.List.Basic
import Mathlib.Data.List.Induction

/-!
# Histories

What a run looks like from outside: its messages, each with what came of it
(`history`). Much of what holds after a run is of one form: something happened,
and nothing that puts an end to it happened *since* (`Since`).

* `history_append`: a history goes on where it stopped;
* `since_append_singleton`: what happened since, message by message;
* `slotsAfter_iff_since`: from what a step does to the slots to what is there after
  a run;
* `Entry.Shows`, `Entry.EndsWait`: a command was shown to the host; what waited
  waits no longer;
* `outstanding_of_shows`, `outstanding_of_not_endsWait`, `outstanding_of_endsWait`:
  what waits after either.
-/

namespace CardToolkit

/-- A message of a run, and what came of it. -/
structure Entry where
  message : Message
  step : Step

namespace Entry

/-- The entry shows the command to the host. -/
def Shows (e : Entry) (c : Command) : Prop := e.message = .command c .ok ∧ e.step.events ≠ []

/-- What waited before the entry does not wait after it: another command is
    shown, the session ends, the card starts again or is taken out, or the link
    takes a request that a reply asks for. -/
def EndsWait (e : Entry) : Prop :=
  match e.message with
  | .command _ reading => reading = .ok ∧ e.step.events ≠ []
  | .unreadable _ => False
  | .reply _ => e.step.sent ≠ none
  | .sessionEnd => True
  | .refreshed outcome => outcome = .init ∨ outcome = .reset
  | .cardAbsent => True

/-- A command that is shown takes the place of what waited. -/
theorem Shows.endsWait {e : Entry} {c : Command} (h : e.Shows c) : e.EndsWait := by
  rw [EndsWait, h.1]
  exact ⟨rfl, h.2⟩

end Entry

/-- Something happened that has not been ended since. -/
def Since (starts ends : Entry → Prop) (t : List Entry) : Prop :=
  ∃ before e after, t = before ++ e :: after ∧ starts e ∧ ∀ e' ∈ after, ¬ends e'

section

variable {starts ends : Entry → Prop} {t : List Entry} {e : Entry}

theorem not_since_nil : ¬Since starts ends [] := by
  rintro ⟨before, e, after, hnil, -⟩
  simp at hnil

/-- What is found at an entry, given what came before it, and has not been ended
    since, is found at the last entry, or is not ended by it. -/
theorem exists_split_append_singleton {found : List Entry → Entry → Prop} :
    (∃ before x after, t ++ [e] = before ++ x :: after ∧ found before x ∧ ∀ e' ∈ after, ¬ends e') ↔
      found t e ∨ ¬ends e ∧
        ∃ before x after, t = before ++ x :: after ∧ found before x ∧ ∀ e' ∈ after, ¬ends e' := by
  constructor
  · rintro ⟨before, x, after, ht, hx, hafter⟩
    -- The last entry is where it was found, or one of those that came after.
    rcases List.eq_nil_or_concat' after with rfl | ⟨after, y, rfl⟩
    · obtain ⟨rfl, hlast⟩ := List.append_inj' ht rfl
      exact .inl ((List.cons.inj hlast).1 ▸ hx)
    · rw [← List.cons_append, ← List.append_assoc] at ht
      obtain ⟨rfl, hlast⟩ := List.append_inj' ht rfl
      refine .inr ⟨?_, before, x, after, rfl, hx, fun e' he' => hafter e' ?_⟩
      · rw [(List.cons.inj hlast).1]
        exact hafter y (List.mem_append_right _ (List.mem_singleton_self y))
      · exact List.mem_append_left _ he'
  · rintro (hfound | ⟨hends, before, x, after, rfl, hx, hafter⟩)
    · exact ⟨t, e, [], rfl, hfound, fun _ h => absurd h List.not_mem_nil⟩
    · refine ⟨before, x, after ++ [e], by simp, hx, fun e' he' => ?_⟩
      rcases List.mem_append.1 he' with h | h
      · exact hafter e' h
      · rw [List.mem_singleton.1 h]
        exact hends

/-- What has not been ended since either starts with the last entry, or is not
    ended by it. -/
theorem since_append_singleton :
    Since starts ends (t ++ [e]) ↔ starts e ∨ ¬ends e ∧ Since starts ends t :=
  exists_split_append_singleton

end

namespace Engine

variable (language : String)

/-- The messages of a run, each with what came of it. -/
def history (s : Slots) : List (Message × Verdict) → List Entry
  | [] => []
  | (m, v) :: rest => ⟨m, step language s m v⟩ :: history (step language s m v).slots rest

variable {language} {s : Slots}

/-- The steps of a history are those of the run. -/
theorem map_step_history (l : List (Message × Verdict)) :
    (history language s l).map Entry.step = run language s l := by
  induction l generalizing s with
  | nil => rfl
  | cons p l ih => exact congrArg (_ :: ·) ih

/-- A history goes on where it stopped. -/
theorem history_append (l l' : List (Message × Verdict)) :
    history language s (l ++ l') =
      history language s l ++ history language (slotsAfter language s l) l' := by
  induction l generalizing s with
  | nil => rfl
  | cons p l ih => exact congrArg (_ :: ·) ih

/-- What a step starts and ends in the slots is there after a run just if something
    started it and nothing has ended it since. -/
theorem slotsAfter_iff_since {P : Slots → Prop} {starts ends : Entry → Prop} (hempty : ¬P {})
    (hstep : ∀ s m v, Sound s → (P (step language s m v).slots ↔
      starts ⟨m, step language s m v⟩ ∨ ¬ends ⟨m, step language s m v⟩ ∧ P s))
    (l : List (Message × Verdict)) :
    P (slotsAfter language {} l) ↔ Since starts ends (history language {} l) := by
  -- A run is taken apart at its end, as the history is by `Since`.
  induction l using List.reverseRecOn with
  | nil => exact iff_of_false hempty not_since_nil
  | append_singleton l p ih =>
    rw [history_append, slotsAfter_append]
    refine Iff.trans ?_ since_append_singleton.symm
    rw [← ih]
    exact hstep _ p.1 p.2 (sound_slotsAfter l)

/-! ## What waits -/

variable {m : Message} {v : Verdict} {c : Command}

/-- A command raises an event just if it is shown. -/
theorem events_command_ne_nil_iff {reading : ResultCode} :
    (step language s (.command c reading) v).events ≠ [] ↔ reading = .ok ∧ c.IsShown := by
  rw [events_step, Message.announcement]
  split
  · next h => exact iff_of_true (List.cons_ne_nil _ _) h
  · next h => exact iff_of_false (fun hne => hne rfl) h

/-- A command that is shown waits. -/
theorem outstanding_of_shows (h : Entry.Shows ⟨m, step language s m v⟩ c) :
    (step language s m v).slots.outstanding = some c.shown := by
  obtain ⟨rfl, hevents⟩ := h
  rw [slots_step]
  exact if_pos (events_command_ne_nil_iff.1 hevents)

/-- What waits goes on waiting unless the wait is ended. -/
theorem outstanding_of_not_endsWait (h : ¬Entry.EndsWait ⟨m, step language s m v⟩) :
    (step language s m v).slots.outstanding = s.outstanding := by
  rw [slots_step]
  cases m with
  | command c reading =>
    exact if_neg fun hshown => h ⟨hshown.1, events_command_ne_nil_iff.2 hshown⟩
  | unreadable reading => rfl
  | reply r =>
    have hsent : (step language s (.reply r) v).sent = none := Decidable.byContradiction h
    rw [hsent]
    rfl
  | sessionEnd => exact absurd trivial h
  | refreshed outcome =>
    cases outcome with
    | fileUpdate => rfl
    | init => exact absurd (.inl rfl) h
    | reset => exact absurd (.inr rfl) h
  | cardAbsent => exact absurd trivial h

/-- Where the wait ends and no command is shown, nothing waits, or the menu at the
    end of a session. -/
theorem outstanding_of_endsWait (h : Entry.EndsWait ⟨m, step language s m v⟩)
    (hshows : ∀ c, ¬Entry.Shows ⟨m, step language s m v⟩ c) :
    (step language s m v).slots.outstanding = none ∨
      m = .sessionEnd ∧ (step language s m v).slots.outstanding = s.menu := by
  rw [slots_step]
  cases m with
  | command c reading =>
    obtain ⟨rfl, hevents⟩ := h
    exact absurd ⟨rfl, hevents⟩ (hshows c)
  | unreadable reading => exact h.elim
  | reply r =>
    obtain ⟨q, hq⟩ := Option.ne_none_iff_exists'.1 h
    rw [show (step language s (.reply r) v).sent = some q from hq]
    exact .inl rfl
  | sessionEnd => exact .inr ⟨rfl, rfl⟩
  | refreshed outcome =>
    cases outcome with
    | fileUpdate => rcases h with h | h <;> cases h
    | init => exact .inl rfl
    | reset => exact .inl rfl
  | cardAbsent => exact .inl rfl

/-- What waits after a step was shown by it, or is the menu after the end of a
    session, or waited before and goes on waiting. -/
theorem outstanding_step_iff {c' : Command} :
    (step language s m v).slots.outstanding = some c' ↔
      (∃ c, Entry.Shows ⟨m, step language s m v⟩ c ∧ c.shown = c') ∨
        (m = .sessionEnd ∧ s.menu = some c') ∨
        ¬Entry.EndsWait ⟨m, step language s m v⟩ ∧ s.outstanding = some c' := by
  by_cases hend : m = .sessionEnd
  · subst hend
    have hmenu : (step language s .sessionEnd v).slots.outstanding = s.menu := by
      rw [slots_step]
      rfl
    rw [hmenu]
    constructor
    · intro h
      exact .inr (.inl ⟨rfl, h⟩)
    · rintro (⟨c, ⟨⟨⟩, -⟩, -⟩ | ⟨-, h⟩ | ⟨hnot, -⟩)
      · exact h
      · exact absurd trivial hnot
  · by_cases hshows : ∃ c, Entry.Shows ⟨m, step language s m v⟩ c
    · obtain ⟨c, hc⟩ := hshows
      rw [outstanding_of_shows hc]
      constructor
      · intro h
        exact .inl ⟨c, hc, Option.some.inj h⟩
      · rintro (⟨c₁, hc₁, rfl⟩ | ⟨h, -⟩ | ⟨hnot, -⟩)
        · cases hc.1.symm.trans hc₁.1
          rfl
        · exact absurd h hend
        · exact absurd hc.endsWait hnot
    · have hnone : ¬∃ c, Entry.Shows ⟨m, step language s m v⟩ c ∧ c.shown = c' :=
        fun ⟨c, hc, _⟩ => hshows ⟨c, hc⟩
      by_cases hends : Entry.EndsWait ⟨m, step language s m v⟩
      · rcases outstanding_of_endsWait hends (not_exists.1 hshows) with hout | ⟨h, -⟩
        · rw [hout]
          refine iff_of_false nofun ?_
          rintro (h | ⟨h, -⟩ | ⟨hnot, -⟩) <;> contradiction
        · exact absurd h hend
      · rw [outstanding_of_not_endsWait hends]
        constructor
        · intro h
          exact .inr (.inr ⟨hends, h⟩)
        · rintro (h | ⟨h, -⟩ | ⟨-, h⟩)
          · exact absurd h hnone
          · exact absurd h hend
          · exact h

end Engine

end CardToolkit
