import CardToolkit.Proofs.Engine.History

/-!
# Which replies are timely

Whether a reply is timely is read off the slots. For a *direct* reply, one that
is not about a menu or a list of events, the history of the run says the same:
the command that it replies to was shown to the host, and nothing has ended the
wait since (`Awaited`). What stands in the way is the end of a session, by which
a command waits that was not shown just then; but it is about the menu, and no
direct reply is to it.

* `waits_step_iff`, `waits_iff_awaited`: what waits, after a step by what waited
  before, and after a run by its history;
* `Quiet`: nothing waits but the menu, which stays so until a command is shown;
* `direct_reply_iff_awaited`: a direct reply is timely just if it is awaited, and
  no two of them go out for one command.
-/

namespace CardToolkit

/-- The reply is not about a menu or a list of events. -/
def Reply.IsDirect (r : Reply) : Prop :=
  r.details.type? ≠ some .setUpMenu ∧ r.details.type? ≠ some .setUpEventList

instance (r : Reply) : Decidable r.IsDirect := inferInstanceAs (Decidable (_ ∧ _))

/-- The entry takes a direct reply to the card. -/
def Entry.answersDirectly (e : Entry) : Bool :=
  match e.message with
  | .reply r => decide r.IsDirect && e.step.sent.isSome
  | _ => false

/-- A command of these details was shown, and nothing has ended the wait since. -/
def Awaited (t : List Entry) (d : Details) : Prop :=
  Since (fun e => ∃ c, e.Shows c ∧ c.shown.details.SameCommand d) Entry.EndsWait t

namespace Engine

variable {language : String} {s : Slots} {d : Details} {r : Reply}

/-! ## What waits, by the history -/

/-- Details are awaited just if they are those of the command that waits. -/
theorem awaits_iff : s.awaits d = true ↔ ∃ c ∈ s.outstanding, c.details.SameCommand d := by
  rw [Slots.awaits]
  cases s.outstanding with
  | none => exact iff_of_false nofun (by rintro ⟨c, ⟨⟩, -⟩)
  | some c =>
    rw [Details.same_iff]
    constructor
    · intro h
      exact ⟨c, rfl, h⟩
    · rintro ⟨_, ⟨⟩, h⟩
      exact h

/-- A direct reply is timely just if it is to the command that waits. -/
theorem isTimely_of_isDirect (h : r.IsDirect) : isTimely s r = s.awaits r.details := by
  rw [isTimely]
  split
  · next he => exact absurd he h.2
  · next hm => exact absurd hm h.1
  · rfl

variable {m : Message} {v : Verdict}

/-- What waits after a step was shown by it, or waited before and goes on
    waiting, unless it is about the menu. -/
theorem waits_step_iff (hs : Sound s) (hd : d.type? ≠ some .setUpMenu) :
    (∃ c ∈ (step language s m v).slots.outstanding, c.details.SameCommand d) ↔
      (∃ c, Entry.Shows ⟨m, step language s m v⟩ c ∧ c.shown.details.SameCommand d) ∨
        ¬Entry.EndsWait ⟨m, step language s m v⟩ ∧
          ∃ c ∈ s.outstanding, c.details.SameCommand d := by
  constructor
  · rintro ⟨c', hc', hsame⟩
    rcases outstanding_step_iff.1 hc' with ⟨c, hc, rfl⟩ | ⟨-, hmenu⟩ | ⟨hnot, hwaits⟩
    · exact .inl ⟨c, hc, hsame⟩
    · -- `d` is not about the menu.
      exact absurd ((Details.type?_congr hsame).symm.trans (hs.menu_type c' hmenu)) hd
    · exact .inr ⟨hnot, c', hwaits, hsame⟩
  · rintro (⟨c, hc, hsame⟩ | ⟨hnot, c, hwaits, hsame⟩)
    · exact ⟨c.shown, outstanding_of_shows hc, hsame⟩
    · exact ⟨c, outstanding_step_iff.2 (.inr (.inr ⟨hnot, hwaits⟩)), hsame⟩

/-- A command waits that is not about the menu just if it was shown and nothing
    has ended the wait since. -/
theorem waits_iff_awaited (hd : d.type? ≠ some .setUpMenu) (l : List (Message × Verdict)) :
    (∃ c ∈ (slotsAfter language {} l).outstanding, c.details.SameCommand d) ↔
      Awaited (history language {} l) d := by
  refine slotsAfter_iff_since (P := fun s => ∃ c ∈ s.outstanding, c.details.SameCommand d) ?_
    (fun s m v hs => waits_step_iff hs hd) l
  rintro ⟨c, ⟨⟩, -⟩

/-! ## At most one direct reply -/

/-- Nothing waits but the menu. -/
def Quiet (s : Slots) : Prop := ∀ c ∈ s.outstanding, c.type? = some .setUpMenu

/-- Where nothing waits but the menu, a direct reply is passed over. -/
theorem Quiet.not_isTimely (h : Quiet s) (hr : r.IsDirect) : isTimely s r = false := by
  rw [isTimely_of_isDirect hr]
  refine Bool.eq_false_iff.2 fun hawaits => ?_
  obtain ⟨c, hc, hsame⟩ := awaits_iff.1 hawaits
  exact hr.1 ((Details.type?_congr hsame).symm.trans (h c hc))

/-- Where nothing waits but the menu, no direct reply goes out. -/
theorem not_answersDirectly_of_quiet (h : Quiet s) :
    Entry.answersDirectly ⟨m, step language s m v⟩ = false := by
  cases m with
  | reply r =>
    by_cases hr : r.IsDirect
    · have hcarried : ¬IsCarried s r := fun hc =>
        Bool.false_ne_true ((h.not_isTimely hr).symm.trans hc.timely)
      simp [Entry.answersDirectly, step_reply_of_not_isCarried hcarried]
    · simp [Entry.answersDirectly, hr]
  | _ => rfl

/-- Nothing but the menu comes to wait unless a command is shown. -/
theorem quiet_step (h : Quiet s) (hs : Sound s)
    (hshows : ∀ c, ¬Entry.Shows ⟨m, step language s m v⟩ c) :
    Quiet (step language s m v).slots := by
  intro c hc
  by_cases hends : Entry.EndsWait ⟨m, step language s m v⟩
  · rcases outstanding_of_endsWait hends hshows with hout | ⟨-, hout⟩
    · rw [hout] at hc
      cases hc
    · rw [hout] at hc
      exact hs.menu_type c hc
  · rw [outstanding_of_not_endsWait hends] at hc
    exact h c hc

/-- Once a direct reply was taken, nothing waits. -/
theorem quiet_of_answersDirectly (h : Entry.answersDirectly ⟨m, step language s m v⟩ = true) :
    Quiet (step language s m v).slots := by
  cases m with
  | reply r =>
    simp only [Entry.answersDirectly, Bool.and_eq_true] at h
    intro c hc
    rw [slots_step, nextOutstanding, if_pos h.2] at hc
    cases hc
  | _ => cases h

/-- Where nothing waits but the menu, no direct reply goes out until a command is
    shown. -/
theorem countP_answersDirectly_of_quiet (h : Quiet s) (hs : Sound s) (l : List (Message × Verdict))
    (hshows : ∀ e ∈ history language s l, ∀ c, ¬e.Shows c) :
    (history language s l).countP Entry.answersDirectly = 0 := by
  induction l generalizing s with
  | nil => rfl
  | cons p l ih =>
    rw [history, List.forall_mem_cons] at hshows
    have htail := ih (quiet_step h hs hshows.1) (hs.step p.1 p.2) hshows.2
    rw [history, List.countP_cons, htail, not_answersDirectly_of_quiet h]
    rfl

/-- As long as no command is shown, one direct reply goes out at most. -/
theorem countP_answersDirectly_le_one (hs : Sound s) (l : List (Message × Verdict))
    (hshows : ∀ e ∈ history language s l, ∀ c, ¬e.Shows c) :
    (history language s l).countP Entry.answersDirectly ≤ 1 := by
  induction l generalizing s with
  | nil => exact Nat.zero_le 1
  | cons p l ih =>
    rw [history, List.forall_mem_cons] at hshows
    have hsound : Sound (step language s p.1 p.2).slots := hs.step p.1 p.2
    rw [history, List.countP_cons]
    by_cases hanswers : Entry.answersDirectly ⟨p.1, step language s p.1 p.2⟩ = true
    · have htail := countP_answersDirectly_of_quiet (quiet_of_answersDirectly hanswers) hsound l
        hshows.2
      rw [if_pos hanswers]
      omega
    · rw [if_neg hanswers]
      exact ih hsound hshows.2

variable (language r) in
/-- After any run, a direct reply is timely just if it is awaited: a command of
    its details was shown, and nothing has ended the wait since. One that is not
    timely changes nothing, and one of which a request is made was awaited. From
    one command that is shown to the next, one direct reply goes out at most. -/
theorem direct_reply_iff_awaited (l : List (Message × Verdict)) (hr : r.IsDirect) :
    (isTimely (slotsAfter language {} l) r = true ↔ Awaited (history language {} l) r.details) ∧
      (isTimely (slotsAfter language {} l) r = false → ∀ v : Verdict,
        step language (slotsAfter language {} l) (.reply r) v =
          { slots := slotsAfter language {} l }) ∧
      (∀ (v : Verdict) (q : Request),
        (step language (slotsAfter language {} l) (.reply r) v).attempted = some q →
          Awaited (history language {} l) r.details) ∧
      ∀ l' : List (Message × Verdict),
        (∀ e ∈ history language (slotsAfter language {} l) l', ∀ c, ¬e.Shows c) →
          (history language (slotsAfter language {} l) l').countP Entry.answersDirectly ≤ 1 := by
  have hiff : isTimely (slotsAfter language {} l) r = true ↔
      Awaited (history language {} l) r.details := by
    rw [isTimely_of_isDirect hr, awaits_iff, waits_iff_awaited hr.1]
  have hpassed (h : isTimely (slotsAfter language {} l) r = false) (v : Verdict) :
      step language (slotsAfter language {} l) (.reply r) v =
        { slots := slotsAfter language {} l } := by
    refine step_reply_of_not_isCarried (fun hc => ?_) v
    exact Bool.false_ne_true (h.symm.trans hc.timely)
  refine ⟨hiff, hpassed, fun v q hq => hiff.1 ?_, fun l' => ?_⟩
  · cases ht : isTimely (slotsAfter language {} l) r with
    | true => rfl
    | false =>
      rw [hpassed ht] at hq
      cases hq
  · exact countP_answersDirectly_le_one (sound_slotsAfter l) l'

/-- A reply that the link refused is still timely, whatever answers in between to
    a command that could not be read; it need not be marked as the command was. -/
theorem direct_reply_awaited_after_refusal :
    let c : Command := { details := .ofType 1 .getInput 0, payload := .input {} }
    let r : Reply :=
      { details := { c.details with required := false }, result := .ok, text := some "a" }
    let l : List (Message × Verdict) :=
      [(.command c .ok, .accepted), (.reply r, .refused "down"),
        (.unreadable .dataNotUnderstood, .accepted)]
    r.IsDirect ∧ isTimely (slotsAfter "en" {} l) r = true ∧
      Awaited (history "en" {} l) r.details := by
  intro c r l
  have hr : r.IsDirect := by decide
  have ht : isTimely (slotsAfter "en" {} l) r = true := by decide
  exact ⟨hr, ht, (direct_reply_iff_awaited "en" r l hr).1.1 ht⟩

end Engine

end CardToolkit
