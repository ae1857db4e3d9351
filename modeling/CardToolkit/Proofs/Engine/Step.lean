import CardToolkit.Proofs.Engine.Delivery

/-!
# What a step does

A step has three effects: it raises events, and it writes the two slots. Two of
them follow from the message alone, whatever the link does: the events, one at
most (`Message.announcement`), and the menu (`nextMenu`). Only on a reply does
the command that waits depend on the link (`nextOutstanding`): once a request is
taken, nothing waits.

* `Command.IsShown`, `Command.shown`: which commands the host is shown, and how;
* `onCommand_of_isShown`, `onCommand_of_not_isShown`: the reaction to a command;
* `attempted_settle_eq`, `attempted_reply`, `isCarried_of_attempted`: what is asked
  of the link, which does not depend on its verdict;
* `events_step`, `slots_step`: the effects of a step.
-/

namespace CardToolkit

namespace Command

/-! ## Commands that the host is shown -/

/-- The types of the commands that may wait for a reply. -/
def waitingTypes : List CommandType :=
  [.setUpMenu, .setUpEventList, .setUpIdleModeText, .displayText, .selectItem, .getInput,
    .getInkey, .setUpCall, .openChannel, .launchBrowser, .playTone, .sendSs, .sendUssd, .sendSms,
    .sendDtmf]

/-- The host is shown the command: it is a refresh, or of a type that may wait,
    and if it asks for events, the terminal reports them all. -/
def IsShown (c : Command) : Prop :=
  (∃ t ∈ CommandType.refresh :: waitingTypes, c.type? = some t) ∧
    (c.type? = some .setUpEventList → c.EventsReported)

instance (c : Command) : Decidable c.IsShown := inferInstanceAs (Decidable (_ ∧ _))

/-- The command as it is shown: a refresh is shown as a text of the idle screen. -/
def shown (c : Command) : Command :=
  { c with
    details :=
      { c.details with
        typeByte :=
          if c.details.typeByte = CommandType.refresh.value then CommandType.setUpIdleModeText.value
          else c.details.typeByte } }

variable {c : Command}

/-- The byte of a command is that of its type. -/
theorem type?_eq_some_iff {t : CommandType} : c.type? = some t ↔ t.value = c.details.typeByte :=
  Vocabulary.ofByte?_eq_some_iff

theorem shown_of_refresh (h : c.type? = some .refresh) : c.shown = c.withType .setUpIdleModeText := by
  rw [shown, withType, if_pos (type?_eq_some_iff.1 h).symm]

theorem type?_withType (t : CommandType) : (c.withType t).type? = some t :=
  Vocabulary.ofByte?_value t

theorem shown_of_ne_refresh (h : c.type? ≠ some .refresh) : c.shown = c := by
  rw [shown, if_neg fun hbyte => h (type?_eq_some_iff.2 hbyte.symm)]

/-- A command that is shown is of a type that may wait. -/
theorem IsShown.type?_shown (h : c.IsShown) : ∃ t ∈ waitingTypes, c.shown.type? = some t := by
  obtain ⟨⟨t, ht, hc⟩, -⟩ := h
  rcases List.mem_cons.1 ht with rfl | ht
  · refine ⟨.setUpIdleModeText, by decide, ?_⟩
    rw [shown_of_refresh hc, type?_withType]
  · have hne : t ≠ .refresh := by
      rintro rfl
      exact absurd ht (by decide)
    refine ⟨t, ht, ?_⟩
    rw [shown_of_ne_refresh, hc]
    rw [hc]
    exact fun h => hne (Option.some.inj h)

/-- Only as a text of the idle screen is a command shown that is another one. -/
theorem shown_eq_of_type? {t : CommandType} (h : c.shown.type? = some t)
    (ht : t ≠ .setUpIdleModeText) : c.shown = c := by
  by_cases hr : c.type? = some .refresh
  · rw [shown_of_refresh hr, type?_withType] at h
    exact absurd (Option.some.inj h).symm ht
  · exact shown_of_ne_refresh hr

end Command

namespace Engine

open Command

variable {c : Command}

/-- A command that is shown is forwarded as it is shown. -/
theorem handling_of_isShown (h : c.IsShown) : ∃ ack, handling c = .forward c.shown ack := by
  obtain ⟨⟨t, ht, hc⟩, hevents⟩ := h
  by_cases hr : c.type? = some .refresh
  · rw [shown_of_refresh hr]
    exact ⟨none, by rw [handling, hr]⟩
  · rw [shown_of_ne_refresh hr, handling, hc]
    rw [hc] at hr hevents
    -- All other types are forwarded as they are, or excluded by the list.
    cases t with
    | refresh => exact absurd rfl hr
    | setUpEventList => exact ⟨_, if_pos (eventsSupported_iff.2 (hevents rfl))⟩
    | moreTime | pollInterval | pollingOff | timerManagement | languageNotification
    | provideLocalInformation | closeChannel | receiveData | sendData | getChannelStatus =>
      exact absurd ht (by decide)
    | _ => exact ⟨_, rfl⟩

/-- A command that is not shown is passed over, or answered at once. -/
theorem handling_of_not_isShown (h : ¬c.IsShown) :
    handling c = .drop ∨ ∃ result, handling c = .answer result := by
  rw [handling]
  cases hc : c.type? with
  | none => exact .inl rfl
  | some t =>
    -- A type that is listed would have the command shown, but for its events.
    have hshown (ht : t ∈ CommandType.refresh :: waitingTypes)
        (he : t = .setUpEventList → c.EventsReported) : False :=
      h ⟨⟨t, ht, hc⟩, fun h' => he (Option.some.inj (hc.symm.trans h'))⟩
    cases t with
    | setUpEventList =>
      exact .inr ⟨.beyondCapability,
        if_neg fun he => hshown (by decide) fun _ => eventsSupported_iff.1 he⟩
    | moreTime | pollInterval | pollingOff | timerManagement | languageNotification =>
      exact .inl rfl
    | provideLocalInformation | closeChannel | receiveData | sendData | getChannelStatus =>
      exact .inr ⟨.ok, rfl⟩
    | _ => exact (hshown (by decide) nofun).elim

/-- The menu that a command leaves: the command itself if it is about the menu, unless it
    withdraws it. -/
theorem menuAfter_eq (menu : Option Command) :
    menuAfter menu c =
      if c.type? = some .setUpMenu then if c.WithdrawsMenu then none else some c else menu := by
  rw [menuAfter]
  by_cases h : c.WithdrawsMenu
  · rw [if_pos h, if_pos (removesMenu_iff.2 h)]
  · rw [if_neg h, if_neg fun hremoves => h (removesMenu_iff.1 hremoves)]

/-- A command that is not shown is not about the menu. -/
theorem menuAfter_of_not_isShown (h : ¬c.IsShown) (menu : Option Command) :
    menuAfter menu c = menu := by
  refine if_neg fun hc => h ⟨⟨.setUpMenu, by decide, hc⟩, fun he => ?_⟩
  rw [hc] at he
  cases he

/-- A command that is shown is forwarded, and may change the menu. -/
theorem onCommand_of_isShown (language : String) (s : Slots) (h : c.IsShown) :
    ∃ ack, onCommand language s c =
      .forward { s with menu := menuAfter s.menu c } c.shown ack := by
  obtain ⟨ack, hack⟩ := handling_of_isShown h
  exact ⟨_, by rw [onCommand, hack]⟩

/-- A command that is not shown leaves the slots as they were, and is answered
    at most. -/
theorem onCommand_of_not_isShown (language : String) (s : Slots) (h : ¬c.IsShown) :
    onCommand language s c = .pass s ∨ ∃ answer, onCommand language s c = .report s answer := by
  rcases handling_of_not_isShown h with hdrop | ⟨result, hanswer⟩
  · exact .inl (by rw [onCommand, hdrop])
  · exact .inr ⟨_, by rw [onCommand, hanswer]⟩

end Engine

/-! ## What is asked of the link -/

/-- The request of a step is that of the reaction, if it has bytes, whatever the
    verdict. -/
theorem Reaction.attempted_settle_eq (r : Reaction) (v : Verdict) :
    (r.settle v).attempted = r.request.bind Except.toOption := by
  rw [settle]
  cases r.request with
  | none => rfl
  | some request =>
    cases request with
    | error f => rfl
    | ok q => cases v <;> rfl

/-- A link that takes every request has taken what it was asked to take. -/
theorem Reaction.sent_settle_accepted (r : Reaction) :
    (r.settle .accepted).sent = (r.settle .accepted).attempted := by
  rw [settle]
  split <;> rfl

namespace Engine

variable {language : String} {s : Slots} {r : Reply}

/-- On a reply that is carried, the link is asked for the dispatch. -/
theorem attempted_reply (h : IsCarried s r) (v : Verdict) :
    (step language s (.reply r) v).attempted = (dispatch language s r).request.toOption := by
  rw [step, Reaction.attempted_settle_eq, react, onReply_of_isCarried h]
  rfl

/-- On a reply that is not carried, the link is asked for nothing. -/
theorem attempted_reply_of_not_isCarried (h : ¬IsCarried s r) (v : Verdict) :
    (step language s (.reply r) v).attempted = none := by
  rw [step_reply_of_not_isCarried h]

/-- The link is asked for a request on a reply only if the reply is carried, and
    then it is asked for its dispatch. -/
theorem isCarried_of_attempted {v : Verdict} {q : Request}
    (h : (step language s (.reply r) v).attempted = some q) :
    IsCarried s r ∧ (dispatch language s r).request = .ok q := by
  by_cases hc : IsCarried s r
  · rw [attempted_reply hc] at h
    refine ⟨hc, ?_⟩
    cases hd : (dispatch language s r).request with
    | error f =>
      rw [hd] at h
      cases h
    | ok q' =>
      rw [hd] at h
      exact congrArg Except.ok (Option.some.inj h)
  · rw [attempted_reply_of_not_isCarried hc] at h
    cases h

end Engine

/-! ## Effects -/

/-- The event that a message raises. -/
def Message.announcement : Message → Option Event
  | .command c reading => if reading = .ok ∧ c.IsShown then some (.command c.shown) else none
  | .unreadable _ => none
  | .reply _ => none
  | .sessionEnd => some .sessionEnded
  | .refreshed outcome => some (.cardStatus true (some outcome))
  | .cardAbsent => some (.cardStatus false none)

namespace Engine

/-- The menu that is remembered after a message. -/
def nextMenu (menu : Option Command) : Message → Option Command
  | .command c reading => if reading = .ok then menuAfter menu c else menu
  | .unreadable _ => menu
  | .reply _ => menu
  | .sessionEnd => menu
  | .refreshed outcome => if outcome = .fileUpdate then menu else none
  | .cardAbsent => none

/-- The command that waits after a message of which a request was taken, or none
    was. -/
def nextOutstanding (s : Slots) (sent : Option Request) : Message → Option Command
  | .command c reading => if reading = .ok ∧ c.IsShown then some c.shown else s.outstanding
  | .unreadable _ => s.outstanding
  | .reply _ => if sent.isSome then none else s.outstanding
  | .sessionEnd => s.menu
  | .refreshed outcome => if outcome = .fileUpdate then s.outstanding else none
  | .cardAbsent => none

variable {language : String} {s : Slots}

/-- The verdict of the link makes no difference to slots that are the same either
    way. -/
theorem slots_settle {r : Reaction} (h : r.taken = r.kept) (v : Verdict) :
    (r.settle v).slots = r.kept := by
  rw [Reaction.settle]
  split
  · rfl
  · rfl
  · split
    · exact h
    · rfl

/-- The link is asked for a request that has bytes, whatever its verdict. -/
theorem attempted_settle {r : Reaction} {q : Request} (h : r.request = some (.ok q))
    (v : Verdict) : (r.settle v).attempted = some q := by
  rw [Reaction.attempted_settle_eq, h]
  rfl

/-- The events of a step follow from the message. -/
theorem events_step (m : Message) (v : Verdict) :
    (step language s m v).events = m.announcement.toList := by
  cases m with
  | command c reading =>
    rw [step, Reaction.events_settle]
    by_cases hr : reading = .ok
    · by_cases hc : c.IsShown
      · obtain ⟨ack, hack⟩ := onCommand_of_isShown language s hc
        rw [react, if_pos hr, hack, Message.announcement, if_pos ⟨hr, hc⟩]
        rfl
      · rw [react, if_pos hr, Message.announcement, if_neg fun h => hc h.2]
        rcases onCommand_of_not_isShown language s hc with hp | ⟨a, ha⟩
        · rw [hp]
          rfl
        · rw [ha]
          rfl
    · rw [react, if_neg hr, Message.announcement, if_neg fun h => hr h.1]
      rfl
  | reply r => exact events_step_reply
  | _ => rw [step, Reaction.events_settle]; rfl

/-- The slots after a step follow from the message and, on a reply, from whether
    a request was taken. -/
theorem slots_step (m : Message) (v : Verdict) :
    (step language s m v).slots =
      ⟨nextOutstanding s (step language s m v).sent m, nextMenu s.menu m⟩ := by
  cases m with
  | command c reading =>
    by_cases hr : reading = .ok
    · by_cases hc : c.IsShown
      · obtain ⟨ack, hack⟩ := onCommand_of_isShown language s hc
        have hreact : react language s (.command c reading) = _ := (if_pos hr).trans hack
        rw [nextOutstanding, if_pos ⟨hr, hc⟩, nextMenu, if_pos hr, step, hreact, slots_settle rfl]
        rfl
      · rw [nextOutstanding, if_neg fun h => hc h.2, nextMenu, if_pos hr,
          menuAfter_of_not_isShown hc, step, react, if_pos hr]
        rcases onCommand_of_not_isShown language s hc with hp | ⟨a, ha⟩
        · rw [hp, slots_settle rfl]
          rfl
        · rw [ha, slots_settle rfl]
          rfl
    · rw [nextOutstanding, if_neg fun h => hr h.1, nextMenu, if_neg hr, step, react, if_neg hr,
        slots_settle rfl]
      rfl
  | unreadable reading => rw [step, slots_settle rfl]; rfl
  | reply r =>
    -- Here alone the verdict matters: only what is delivered ends the wait.
    by_cases hd : Delivered (dispatch language s r) s (step language s (.reply r) v)
    · obtain ⟨q, -, hq⟩ := hd.sent
      rw [nextOutstanding, hq, Option.isSome_some, if_pos rfl]
      show _ = Slots.mk none s.menu
      rw [← hd.outstanding, ← hd.menu]
    · have hu := untouched_of_not_delivered hd
      rw [nextOutstanding, hu.sent, hu.slots]
      rfl
  | sessionEnd => rw [step, slots_settle rfl]; rfl
  | refreshed outcome =>
    rw [step, slots_settle rfl]
    cases outcome <;> rfl
  | cardAbsent => rw [step, slots_settle rfl]; rfl

end Engine

end CardToolkit
