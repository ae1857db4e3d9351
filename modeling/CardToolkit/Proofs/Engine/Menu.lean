import CardToolkit.Proofs.Engine.Envelope

/-!
# The menu and its history

The menu that is remembered is the one that the card has set up last, unless the
card has started again or was taken out since, or has withdrawn it. Nothing else
that happens in a run has a say in it, and a choice from the menu depends on
nothing else: it goes to the card while there is a menu, whatever command waits
and whatever details the choice comes with, and nowhere once there is none.

* `Message.WritesMenu`: the messages that have a say in the menu;
* `LastMenu`: the last command about the menu, by the history of a run;
* `menu_eq_some_iff`, `menu_eq_none_iff`: the menu after a run, by its history;
* `attempted_choice`, `attempted_choice_of_no_menu`: what is asked of the link on
  a choice;
* `menu_follows_history`: all of this of a run.
-/

namespace CardToolkit

/-- The message has a say in the menu: it is a command about it that could be
    read, or the card starts again or is taken out. -/
def Message.WritesMenu : Message → Prop
  | .command c reading => reading = .ok ∧ c.type? = some .setUpMenu
  | .unreadable _ => False
  | .reply _ => False
  | .sessionEnd => False
  | .refreshed outcome => outcome = .init ∨ outcome = .reset
  | .cardAbsent => True

/-- The entry brings a command about the menu. -/
def Entry.BringsMenu (e : Entry) (c : Command) : Prop :=
  e.message = .command c .ok ∧ c.type? = some .setUpMenu

/-- The command is the last one about the menu, and the card has not started again
    or been taken out since. -/
def LastMenu (t : List Entry) (c : Command) : Prop :=
  Since (fun e => e.BringsMenu c) (fun e => e.message.WritesMenu) t

/-- The bytes of the envelope of a choice from the menu, and of a wish for help. -/
def Envelope.choiceBytes (item : UInt8) (help : Bool) : List UInt8 :=
  if help then [0xD3, 0x09, 0x82, 0x02, 0x01, 0x81, 0x90, 0x01, item, 0x15, 0x00]
  else [0xD3, 0x07, 0x82, 0x02, 0x01, 0x81, 0x90, 0x01, item]

theorem Envelope.menuSelection_eq (item : UInt8) (help : Bool) :
    menuSelection item help = .ok (choiceBytes item help) := by
  cases help <;> rfl

section

variable {t : List Entry} {e : Entry} {c c' : Command}

/-- A command about the menu has a say in it. -/
theorem Entry.BringsMenu.writesMenu (h : e.BringsMenu c) : e.message.WritesMenu := by
  rw [h.1]
  exact ⟨rfl, h.2⟩

/-- There is one last command about the menu at most. -/
theorem LastMenu.unique (h : LastMenu t c) (h' : LastMenu t c') : c = c' := by
  induction t using List.reverseRecOn with
  | nil => exact absurd h not_since_nil
  | append_singleton t e ih =>
    rcases since_append_singleton.1 h with hc | ⟨hnot, hc⟩
    · rcases since_append_singleton.1 h' with hc' | ⟨hnot', -⟩
      · exact (Message.command.inj (hc.1.symm.trans hc'.1)).1
      · exact absurd hc.writesMenu hnot'
    · rcases since_append_singleton.1 h' with hc' | ⟨-, hc'⟩
      · exact absurd hc'.writesMenu hnot
      · exact ih hc hc'

end

namespace Engine

open Envelope

variable {language : String} {s : Slots} {r : Reply} {c : Command} {m : Message} {v : Verdict}

/-! ## The menu by the history -/

/-- A message that has no say in the menu leaves it as it was. -/
theorem nextMenu_of_not_writesMenu (h : ¬m.WritesMenu) (menu : Option Command) :
    nextMenu menu m = menu := by
  cases m with
  | command c reading =>
    rw [nextMenu]
    split
    · next hr => exact if_neg fun ht => h ⟨hr, ht⟩
    · rfl
  | unreadable reading => rfl
  | reply r => rfl
  | sessionEnd => rfl
  | refreshed outcome =>
    cases outcome with
    | fileUpdate => rfl
    | init => exact absurd (.inl rfl) h
    | reset => exact absurd (.inr rfl) h
  | cardAbsent => exact absurd trivial h

/-- A message that has a say in the menu leaves the one that it brings, if it does
    not withdraw it. -/
theorem nextMenu_of_writesMenu (h : m.WritesMenu) {menu : Option Command} :
    nextMenu menu m = some c ↔
      (m = .command c .ok ∧ c.type? = some .setUpMenu) ∧ ¬c.WithdrawsMenu := by
  cases m with
  | command c' reading =>
    obtain ⟨rfl, ht⟩ := h
    rw [nextMenu, if_pos rfl, menuAfter_eq, if_pos ht]
    constructor
    · intro hnext
      split at hnext
      · cases hnext
      · next hkept =>
        cases hnext
        exact ⟨⟨rfl, ht⟩, hkept⟩
    · rintro ⟨⟨heq, -⟩, hkept⟩
      obtain ⟨rfl, -⟩ := Message.command.inj heq
      exact if_neg hkept
  | refreshed outcome =>
    have hnone : nextMenu menu (.refreshed outcome) = none := by
      rcases h with rfl | rfl <;> rfl
    rw [hnone]
    constructor
    · rintro ⟨⟩
    · rintro ⟨⟨⟨⟩, -⟩, -⟩
  | cardAbsent =>
    constructor
    · rintro ⟨⟩
    · rintro ⟨⟨⟨⟩, -⟩, -⟩
  | unreadable reading => exact h.elim
  | reply r => exact h.elim
  | sessionEnd => exact h.elim

/-- There is a menu after a message just if the message brings it, or has no say
    in the one before. -/
theorem nextMenu_eq_some_iff {menu : Option Command} :
    nextMenu menu m = some c ↔
      ((m = .command c .ok ∧ c.type? = some .setUpMenu) ∧ ¬c.WithdrawsMenu) ∨
        ¬m.WritesMenu ∧ menu = some c := by
  by_cases hw : m.WritesMenu
  · rw [nextMenu_of_writesMenu hw]
    exact ⟨.inl, fun h => h.resolve_right fun hnot => hnot.1 hw⟩
  · rw [nextMenu_of_not_writesMenu hw]
    refine ⟨fun h => .inr ⟨hw, h⟩, ?_⟩
    rintro (⟨⟨rfl, ht⟩, -⟩ | ⟨-, h⟩)
    · exact absurd ⟨rfl, ht⟩ hw
    · exact h

/-- The menu after a run is the one that the last command about it has set up. -/
theorem menu_eq_some_iff (l : List (Message × Verdict)) :
    (slotsAfter language {} l).menu = some c ↔
      LastMenu (history language {} l) c ∧ ¬c.WithdrawsMenu := by
  have hsince : (slotsAfter language {} l).menu = some c ↔
      Since (fun e => e.BringsMenu c ∧ ¬c.WithdrawsMenu) (fun e => e.message.WritesMenu)
        (history language {} l) := by
    refine slotsAfter_iff_since (P := fun s => s.menu = some c) (Option.some_ne_none c).symm
      (fun s m v _ => ?_) l
    rw [slots_step]
    exact nextMenu_eq_some_iff
  rw [hsince]
  constructor
  · rintro ⟨before, e, after, ht, ⟨hbrings, hkept⟩, hafter⟩
    exact ⟨⟨before, e, after, ht, hbrings, hafter⟩, hkept⟩
  · rintro ⟨⟨before, e, after, ht, hbrings, hafter⟩, hkept⟩
    exact ⟨before, e, after, ht, ⟨hbrings, hkept⟩, hafter⟩

/-- There is no menu after a run where no command was about it, or the last one has
    withdrawn it. -/
theorem menu_eq_none_iff (l : List (Message × Verdict)) :
    (slotsAfter language {} l).menu = none ↔
      (∀ c, ¬LastMenu (history language {} l) c) ∨
        ∃ c, LastMenu (history language {} l) c ∧ c.WithdrawsMenu := by
  constructor
  · intro hnone
    by_cases hlast : ∃ c, LastMenu (history language {} l) c
    · obtain ⟨c, hc⟩ := hlast
      refine .inr ⟨c, hc, by_contra fun hkept => ?_⟩
      have hsome := (menu_eq_some_iff l).2 ⟨hc, hkept⟩
      rw [hnone] at hsome
      cases hsome
    · exact .inl (not_exists.1 hlast)
  · intro h
    refine Option.eq_none_iff_forall_ne_some.2 fun c hc => ?_
    obtain ⟨hlast, hkept⟩ := (menu_eq_some_iff l).1 hc
    rcases h with hno | ⟨c', hlast', hwithdraws⟩
    · exact hno c hlast
    · rw [hlast'.unique hlast] at hwithdraws
      exact hkept hwithdraws

/-! ## Choices from the menu -/

/-- The results that come with what the user did. -/
theorem isPositive_iff {result : ResultCode} :
    isPositive result = true ↔
      result.isSuccess = true ∨ result = .helpRequired ∨ result = .launchBrowserError := by
  simp only [isPositive, Bool.or_eq_true, beq_iff_eq, or_assoc]

/-- A choice is carried while there is a menu, whatever command waits. -/
theorem isCarried_choice (ht : r.details.type? = some .setUpMenu)
    (hp : isPositive r.result = true) (hm : s.menu = some c) : IsCarried s r where
  timely := by rw [isTimely, ht]
  passedOn := isPassedOn_iff.2 (.inl hp)
  menu hlacks := Option.some_ne_none c (hm.symm.trans hlacks.2.2)

/-- A choice asks the link for its envelope while there is a menu. -/
theorem attempted_choice (ht : r.details.type? = some .setUpMenu)
    (hp : isPositive r.result = true) (hm : s.menu = some c) (v : Verdict) :
    (step language s (.reply r) v).attempted =
      some (.envelope (Hex.encode (choiceBytes r.item (r.result == .helpRequired)))) := by
  have hdispatch : dispatch language s r = .choice r.item (r.result == .helpRequired) := by
    rw [dispatch, if_pos hp, ht]
  rw [attempted_reply (isCarried_choice ht hp hm), hdispatch, Dispatch.request, menuSelection_eq]
  rfl

/-- A choice asks the link for nothing where there is no menu. -/
theorem attempted_choice_of_no_menu (ht : r.details.type? = some .setUpMenu)
    (hp : isPositive r.result = true) (hm : s.menu = none) (v : Verdict) :
    (step language s (.reply r) v).attempted = none :=
  attempted_reply_of_not_isCarried (fun hc => hc.menu ⟨hp, ht, hm⟩) v

/-- Where a choice goes out, there is a menu. -/
theorem exists_menu_of_choice {hex : String} {content : List UInt8}
    (h : (step language s m v).attempted = some (.envelope hex))
    (hframed : IsFramed hex 0xD3 content) : ∃ c, s.menu = some c := by
  obtain ⟨r, rfl, hcarried, hrequest⟩ := exists_reply_of_attempted_envelope h
  obtain ⟨hp, ⟨ht, -⟩ | ⟨-, hreport⟩⟩ := dispatch_eq_of_envelope hrequest
  · exact Option.ne_none_iff_exists'.1 fun hnone => hcarried.menu ⟨hp, ht, hnone⟩
  · -- A report has another tag.
    rw [hreport] at hrequest
    have htag := (hframed.unique (isFramed_of_deliver hrequest)).1
    exact absurd htag (by decide)

/-! ## Runs -/

variable (language) in
/-- After any run, the menu is the last one that a command has set up since the
    card started again or was taken out; there is none if there was no such
    command, or it has withdrawn the menu. No other message changes it. A choice
    asks the link for its envelope, and for nothing else, if there is a menu, and
    for nothing at all if there is none, so that no choice goes out but from the
    menu that was set up last. -/
theorem menu_follows_history (l : List (Message × Verdict)) :
    (∀ c, (slotsAfter language {} l).menu = some c ↔
        LastMenu (history language {} l) c ∧ ¬c.WithdrawsMenu) ∧
      ((slotsAfter language {} l).menu = none ↔
        (∀ c, ¬LastMenu (history language {} l) c) ∨
          ∃ c, LastMenu (history language {} l) c ∧ c.WithdrawsMenu) ∧
      (∀ (s : Slots) (m : Message) (v : Verdict), ¬m.WritesMenu →
        (step language s m v).slots.menu = s.menu) ∧
      (∀ r : Reply, r.details.type? = some .setUpMenu →
        r.result.isSuccess = true ∨ r.result = .helpRequired ∨ r.result = .launchBrowserError →
        ∀ s : Slots,
          (∀ c, s.menu = some c →
            let envelope : Request :=
              .envelope (Hex.encode (choiceBytes r.item (r.result == .helpRequired)))
            (∀ v, (step language s (.reply r) v).attempted = some envelope) ∧
              (step language s (.reply r) .accepted).sent = some envelope) ∧
          (s.menu = none → ∀ v, (step language s (.reply r) v).attempted = none)) ∧
      ∀ (m : Message) (v : Verdict) (hex : String) (content : List UInt8),
        (step language (slotsAfter language {} l) m v).attempted = some (.envelope hex) →
        IsFramed hex 0xD3 content →
          ∃ c, LastMenu (history language {} l) c ∧ ¬c.WithdrawsMenu := by
  refine ⟨fun c => menu_eq_some_iff l, menu_eq_none_iff l, fun s m v h => ?_,
    fun r ht hresult s => ⟨fun c hm => ?_, fun hm v => ?_⟩, fun m v hex content h hframed => ?_⟩
  · rw [slots_step]
    exact nextMenu_of_not_writesMenu h s.menu
  · have hp := isPositive_iff.2 hresult
    refine ⟨attempted_choice ht hp hm, ?_⟩
    exact (Reaction.sent_settle_accepted _).trans (attempted_choice ht hp hm .accepted)
  · exact attempted_choice_of_no_menu ht (isPositive_iff.2 hresult) hm v
  · obtain ⟨c, hc⟩ := exists_menu_of_choice h hframed
    exact ⟨c, (menu_eq_some_iff l).1 hc⟩

end Engine

end CardToolkit
