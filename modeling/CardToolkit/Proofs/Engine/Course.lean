import CardToolkit.Proofs.Engine.Step
import CardToolkit.Proofs.TerminalResponse

/-!
# The courses of a command

A command of the card takes one of four courses. One that could not be read well
is answered with the verdict of the reader. One that has no use here is passed
over. One that needs nothing of the host is answered at once, and so is a wish
for events that are never reported. All others are shown to the host and wait for
a reply, some of them after an acknowledgement, whatever becomes of that.

The rules speak of the command alone (`Command.Takes`), and what comes of a
course speaks of the step alone (`Course.Comes`): the objects that the link is
asked to take, the events, the slots and the result.

* `Responds`: the one request of a step is a terminal response, and the result is
  what became of it;
* `exists_takes`, `handling_of_takes`: a command takes some course, and the engine
  handles it accordingly;
* `command_takes_one_course`: it takes one course alone, and what comes of it.
-/

namespace CardToolkit

/-! ## Terminal responses of a step -/

/-- The step asks the link for the terminal response of these objects, if their
    lengths can be told, and for nothing else. The result says what became of
    it. -/
structure Responds (os : List Object) (v : Verdict) (st : Step) : Prop where
  /-- Objects that are short enough are asked for, and the verdict decides. -/
  short : (∀ o ∈ os, o.value.length ≤ 255) →
    (∃ bs, Object.readAll bs = some os ∧
      st.attempted = some (.terminalResponse (Hex.encode bs))) ∧
      st.sent = (if v = .accepted then st.attempted else none) ∧ st.result = v.result
  /-- An object that is too long is the fault, and nothing is asked for. -/
  long : ∀ o ∈ os, 255 < o.value.length →
    st.attempted = none ∧ st.sent = none ∧
      st.result = .error (.encoding (.valueTooLong o.value.length))

/-- A reaction that is to send a response responds with its objects. -/
theorem Reaction.responds_settle {r : Reaction} {t : TerminalResponse}
    (h : r.request = some (Engine.respond t)) (v : Verdict) :
    Responds t.objects v (r.settle v) where
  short hshort := by
    have hfits : t.Fits := fun o ho => hshort o (List.mem_append_right _ (Option.mem_toList.2 ho))
    obtain ⟨bs, hbs⟩ := TerminalResponse.exists_encode_iff.2 hfits
    have hrequest : r.request = some (.ok (.terminalResponse (Hex.encode bs))) := by
      rw [h, Engine.respond, hbs]
      rfl
    refine ⟨⟨bs, TerminalResponse.encode_eq_ok_iff.1 hbs, Engine.attempted_settle hrequest v⟩, ?_⟩
    rw [settle, hrequest]
    cases v with
    | accepted => exact ⟨rfl, rfl⟩
    | refused reason => exact ⟨rfl, rfl⟩
  long o ho hlong := by
    have hlast : t.last = some o := by
      rcases List.mem_append.1 ho with hfixed | hlast
      · exact absurd (TerminalResponse.length_of_mem_fixedObjects hfixed) (Nat.not_le.2 hlong)
      · exact Option.mem_toList.1 hlast
    have hrequest : r.request = some (.error (.valueTooLong o.value.length)) := by
      rw [h, Engine.respond, TerminalResponse.encode_of_last hlast hlong]
      rfl
    rw [settle, hrequest]
    exact ⟨rfl, rfl, rfl⟩

namespace Command

/-! ## The rules -/

/-- The types of the commands that have no use here. -/
def unusedTypes : List CommandType :=
  [.moreTime, .pollInterval, .pollingOff, .timerManagement, .languageNotification]

/-- The types of the commands that need nothing of the host. -/
def answeredTypes : List CommandType :=
  [.provideLocalInformation, .closeChannel, .receiveData, .sendData, .getChannelStatus]

/-- The command is acknowledged with this result before it is shown: a menu or a
    text may lack its icons. -/
inductive Acknowledged (c : Command) : ResultCode → Prop
  /-- A menu is set up or withdrawn. -/
  | menu (type : c.type? = some .setUpMenu) :
    Acknowledged c (if c.iconFailed then .iconNotDisplayed else .ok)
  /-- Events are asked for. -/
  | events (type : c.type? = some .setUpEventList) : Acknowledged c .ok
  /-- A text is shown that needs no response. -/
  | text (type : c.type? = some .displayText ∨ c.type? = some .setUpIdleModeText)
    (unanswered : ∀ t, c.payload.HasText t → t.responseNeeded = false) :
    Acknowledged c (if c.iconFailed then .iconNotDisplayed else .ok)

end Command

/-- What becomes of a command. -/
inductive Course
  /-- It is answered with the verdict of its reader. -/
  | refused (reading : ResultCode)
  /-- Nothing is done. -/
  | passedOver
  /-- It is answered, and the host is not told. -/
  | answered (result : ResultCode)
  /-- The host is told, after an acknowledgement if there is a result, and the
      command waits for a reply. -/
  | shown (ack : Option ResultCode)

/-- The command, which came with this verdict of its reader, is to take the
    course. -/
inductive Command.Takes (c : Command) : ResultCode → Course → Prop
  /-- It could not be read well. -/
  | refused {reading : ResultCode} (h : reading ≠ .ok) : Takes c reading (.refused reading)
  /-- Its type is none that is known. -/
  | unknown (type : c.type? = none) : Takes c .ok .passedOver
  /-- It has no use here. -/
  | unused {t : CommandType} (type : c.type? = some t) (h : t ∈ unusedTypes) :
    Takes c .ok .passedOver
  /-- It needs nothing of the host. -/
  | answered {t : CommandType} (type : c.type? = some t) (h : t ∈ answeredTypes) :
    Takes c .ok (.answered .ok)
  /-- It asks for an event that is never reported. -/
  | beyond {codes : List UInt8} {code : UInt8} (type : c.type? = some .setUpEventList)
    (events : c.payload = .events codes) (mem : code ∈ codes)
    (h : code ∉ ([0x05, 0x07, 0x08] : List UInt8)) : Takes c .ok (.answered .beyondCapability)
  /-- It is shown after an acknowledgement. -/
  | acknowledged {result : ResultCode} (shown : c.IsShown) (h : c.Acknowledged result) :
    Takes c .ok (.shown (some result))
  /-- It is shown without an acknowledgement. -/
  | awaiting (shown : c.IsShown) (h : ∀ result, ¬c.Acknowledged result) : Takes c .ok (.shown none)

/-- The object of the language, which answers the question for it. -/
def languageObjects (language : String) (c : Command) : List Object :=
  if c.type? = some .provideLocalInformation ∧ c.details.qualifier = 0x04 then
    [⟨0x2D, Text.utf8 language⟩]
  else []

/-- What comes of a command on a course. -/
def Course.Comes (language : String) (s : Slots) (c : Command) (v : Verdict) (st : Step) :
    Course → Prop
  | refused reading =>
    Responds (TerminalResponse.opening c.details reading none) v st ∧ st.events = [] ∧ st.slots = s
  | passedOver => st = { slots := s }
  | answered result =>
    Responds (TerminalResponse.opening c.details result none ++ languageObjects language c) v st ∧
      st.events = [] ∧ st.slots = s
  | shown ack =>
    st.events = [.command c.shown] ∧
      st.slots.outstanding = some c.shown ∧
      st.slots.menu =
        (if c.type? = some .setUpMenu then if c.WithdrawsMenu then none else some c
          else s.menu) ∧
      match ack with
      | some result => Responds (TerminalResponse.opening c.details result none) v st
      | none => st.attempted = none ∧ st.sent = none ∧ st.result = .ok ()

/-! ## The engine follows the rules -/

/-- How the engine handles a command on a course, if it could be read well. -/
def Course.handling (c : Command) : Course → Engine.Handling
  | refused _ => .drop
  | passedOver => .drop
  | answered result => .answer result
  | shown ack => .forward c.shown ack

namespace Command

variable {c : Command} {course : Course}

/-- A command that is acknowledged is about a menu, events or a text. -/
theorem Acknowledged.type?_eq {result : ResultCode} (h : c.Acknowledged result) :
    ∃ t ∈ [CommandType.setUpMenu, .setUpEventList, .displayText, .setUpIdleModeText],
      c.type? = some t := by
  cases h with
  | menu type => exact ⟨_, by decide, type⟩
  | events type => exact ⟨_, by decide, type⟩
  | text type => rcases type with type | type <;> exact ⟨_, by decide, type⟩

/-- A command that is acknowledged is of no other type. -/
theorem Acknowledged.type?_ne {result : ResultCode} (h : c.Acknowledged result) {t : CommandType}
    (ht : t ∉ [CommandType.setUpMenu, .setUpEventList, .displayText, .setUpIdleModeText]) :
    c.type? ≠ some t := by
  obtain ⟨t', ht', type⟩ := h.type?_eq
  rintro type'
  exact ht (Option.some.inj (type.symm.trans type') ▸ ht')

/-- A command that is acknowledged is shown as it is. -/
theorem Acknowledged.shown_eq {result : ResultCode} (h : c.Acknowledged result) : c.shown = c :=
  shown_of_ne_refresh (h.type?_ne (by decide))

/-- A command that is acknowledged is forwarded after that. -/
theorem handling_of_acknowledged {result : ResultCode} (shown : c.IsShown)
    (h : c.Acknowledged result) : Engine.handling c = .forward c.shown (some result) := by
  rw [h.shown_eq, Engine.handling]
  cases h with
  | menu type =>
    rw [type]
    rfl
  | events type =>
    rw [type]
    exact if_pos (eventsSupported_iff.2 (shown.2 type))
  | text type unanswered =>
    have hnot : ¬c.responseNeeded = true :=
      Bool.eq_false_iff.1 (responseNeeded_eq_false_iff.2 unanswered)
    rcases type with type | type <;> rw [type] <;> exact congrArg _ (if_neg hnot)

/-- A command that is shown and not acknowledged is forwarded at once. -/
theorem handling_of_awaiting (shown : c.IsShown) (h : ∀ result, ¬c.Acknowledged result) :
    Engine.handling c = .forward c.shown none := by
  obtain ⟨⟨t, ht, type⟩, -⟩ := shown
  have hneeded (text : t = .displayText ∨ t = .setUpIdleModeText) : c.responseNeeded = true := by
    refine Bool.of_not_eq_false fun hnot => h _ (.text ?_ (responseNeeded_eq_false_iff.1 hnot))
    rcases text with rfl | rfl
    · exact .inl type
    · exact .inr type
  rw [Engine.handling, type]
  by_cases hr : t = .refresh
  · subst hr
    rw [shown_of_refresh type]
  · have hsame : c.shown = c :=
      shown_of_ne_refresh fun h' => hr (Option.some.inj (type.symm.trans h'))
    rw [hsame]
    cases t with
    | refresh => exact absurd rfl hr
    | setUpMenu => exact absurd (.menu type) (h _)
    | setUpEventList => exact absurd (.events type) (h _)
    | displayText => exact congrArg _ (if_pos (hneeded (.inl rfl)))
    | setUpIdleModeText => exact congrArg _ (if_pos (hneeded (.inr rfl)))
    | moreTime | pollInterval | pollingOff | timerManagement | languageNotification
    | provideLocalInformation | closeChannel | receiveData | sendData | getChannelStatus =>
      exact absurd ht (by decide)
    | _ => rfl

/-- The engine handles a command as its course says. -/
theorem handling_of_takes (h : c.Takes .ok course) : Engine.handling c = course.handling c := by
  cases h with
  | refused h => exact absurd rfl h
  | unknown type =>
    rw [Engine.handling, type]
    rfl
  | @unused t type h =>
    rw [Engine.handling, type]
    cases t with
    | moreTime | pollInterval | pollingOff | timerManagement | languageNotification => rfl
    | _ => exact absurd h (by decide)
  | @answered t type h =>
    rw [Engine.handling, type]
    cases t with
    | provideLocalInformation | closeChannel | receiveData | sendData | getChannelStatus => rfl
    | _ => exact absurd h (by decide)
  | @beyond codes code type events mem h =>
    rw [Engine.handling, type]
    exact if_neg fun hs => h (eventsSupported_iff.1 hs codes events code mem)
  | acknowledged shown h => exact handling_of_acknowledged shown h
  | awaiting shown h => exact handling_of_awaiting shown h

/-- A command that is shown takes the course of those. -/
theorem exists_takes_of_isShown (h : c.IsShown) : ∃ ack, c.Takes .ok (.shown ack) := by
  by_cases hack : ∃ result, c.Acknowledged result
  · obtain ⟨result, hack⟩ := hack
    exact ⟨some result, .acknowledged h hack⟩
  · exact ⟨none, .awaiting h (not_exists.1 hack)⟩

/-- Every type has no use here, or needs nothing of the host, or is that of
    commands that are shown. -/
theorem type_cases (t : CommandType) :
    t ∈ unusedTypes ∨ t ∈ answeredTypes ∨ t ∈ CommandType.refresh :: waitingTypes := by
  cases t <;> decide

/-- A command of a type that is shown asks for an event that is never reported if
    it is not shown itself. -/
theorem takes_beyond {t : CommandType} (type : c.type? = some t)
    (ht : t ∈ CommandType.refresh :: waitingTypes) (h : ¬c.IsShown) :
    c.Takes .ok (.answered .beyondCapability) := by
  have hevents : ¬(c.type? = some .setUpEventList → c.EventsReported) :=
    fun hs => h ⟨⟨t, ht, type⟩, hs⟩
  obtain ⟨htype, hbeyond⟩ := Classical.not_imp.1 hevents
  simp only [EventsReported, Classical.not_forall] at hbeyond
  obtain ⟨codes, hcodes, code, hmem, hcode⟩ := hbeyond
  exact .beyond htype hcodes hmem hcode

variable (c) in
/-- There is a course for every command. -/
theorem exists_takes (reading : ResultCode) : ∃ course, c.Takes reading course := by
  by_cases hr : reading = .ok
  · subst hr
    cases type : c.type? with
    | none => exact ⟨_, .unknown type⟩
    | some t =>
      rcases type_cases t with h | h | h
      · exact ⟨_, .unused type h⟩
      · exact ⟨_, .answered type h⟩
      · by_cases hshown : c.IsShown
        · obtain ⟨ack, hack⟩ := exists_takes_of_isShown hshown
          exact ⟨_, hack⟩
        · exact ⟨_, takes_beyond type h hshown⟩
  · exact ⟨_, .refused hr⟩

/-- A command that could be read well is not refused. -/
theorem Takes.ne_refused (h : c.Takes .ok course) (reading : ResultCode) :
    course ≠ .refused reading := by
  rintro rfl
  cases h with
  | refused hr => exact hr rfl

/-- Courses other than a refusal are told apart by how a command is handled. -/
theorem eq_of_handling {course' : Course} (h : ∀ reading, course ≠ .refused reading)
    (h' : ∀ reading, course' ≠ .refused reading) (heq : course.handling c = course'.handling c) :
    course = course' := by
  cases course with
  | refused reading => exact absurd rfl (h reading)
  | passedOver =>
    cases course' with
    | refused reading => exact absurd rfl (h' reading)
    | passedOver => rfl
    | _ => cases heq
  | answered result =>
    cases course' with
    | refused reading => exact absurd rfl (h' reading)
    | answered result' =>
      cases heq
      rfl
    | _ => cases heq
  | shown ack =>
    cases course' with
    | refused reading => exact absurd rfl (h' reading)
    | shown ack' =>
      cases heq
      rfl
    | _ => cases heq

/-- A command takes no two courses. -/
theorem Takes.unique {reading : ResultCode} {course' : Course} (h : c.Takes reading course)
    (h' : c.Takes reading course') : course = course' := by
  by_cases hr : reading = .ok
  · subst hr
    exact eq_of_handling h.ne_refused h'.ne_refused
      ((handling_of_takes h).symm.trans (handling_of_takes h'))
  · cases h with
    | refused =>
      cases h' with
      | refused => rfl
      | _ => exact absurd rfl hr
    | _ => exact absurd rfl hr

end Command

/-! ## What comes of a course -/

namespace Engine

open Command

variable {language : String} {s : Slots} {c : Command} {v : Verdict}

/-- An acknowledgement is made of the three objects that open a response, and of
    the language if the card asks for it and the result is good. -/
theorem objects_acknowledge (d : Details) (result : ResultCode) :
    TerminalResponse.objects { details := d, result, language := some language } =
      TerminalResponse.opening d result none ++
        (if d.type? = some .provideLocalInformation ∧ d.qualifier = 0x04 ∧ result = .ok then
          [⟨0x2D, Text.utf8 language⟩]
        else []) := by
  rw [TerminalResponse.objects_eq]
  refine congrArg (TerminalResponse.opening d result none ++ ·) ?_
  show (TerminalResponse.derived _).toList = _
  rw [TerminalResponse.derived]
  by_cases hasked : d.type? = some .provideLocalInformation ∧ d.qualifier = 0x04 ∧ result = .ok
  · rw [if_pos hasked]
    simp only [hasked.1]
    exact congrArg Option.toList (if_pos hasked.2)
  · rw [if_neg hasked]
    refine congrArg Option.toList (?_ : _ = none)
    dsimp only
    split
    · -- A time waited in vain needs a question, and there is none.
      split <;> rfl
    · next type => exact if_neg fun h => hasked ⟨type, h⟩
    · rfl

/-- A reaction that is to send an acknowledgement responds with the three objects
    alone, if the card does not ask for the language or the result is not good. -/
theorem responds_acknowledge {r : Reaction} {d : Details} {result : ResultCode}
    (h : r.request = some (acknowledge language d result))
    (hno : ¬(d.type? = some .provideLocalInformation ∧ d.qualifier = 0x04 ∧ result = .ok)) :
    Responds (TerminalResponse.opening d result none) v (r.settle v) := by
  have hresponds := Reaction.responds_settle h v
  rwa [objects_acknowledge, if_neg hno, List.append_nil] at hresponds

/-- An answer to a command, which is a good one if the card asks for the language,
    has the objects of its course. -/
theorem responds_answer {result : ResultCode}
    (hok : c.type? = some .provideLocalInformation → result = .ok) :
    Responds (TerminalResponse.opening c.details result none ++ languageObjects language c) v
      ((Reaction.report s (acknowledge language c.details result)).settle v) := by
  have hresponds :
      Responds _ v ((Reaction.report s (acknowledge language c.details result)).settle v) :=
    Reaction.responds_settle rfl v
  rw [objects_acknowledge] at hresponds
  have hobjects : (if c.details.type? = some .provideLocalInformation ∧ c.details.qualifier = 0x04 ∧
      result = .ok then [⟨0x2D, Text.utf8 language⟩] else []) = languageObjects language c :=
    ite_congr (propext ⟨fun h => ⟨h.1, h.2.1⟩, fun h => ⟨h.1, h.2, hok h.1⟩⟩) (fun _ => rfl)
      fun _ => rfl
  rwa [hobjects] at hresponds

/-- A command that is forwarded is shown and waits, whatever becomes of its
    acknowledgement. -/
theorem settle_forward (ack : Option (Except EncodingFault Request)) :
    let st := (Reaction.forward { s with menu := menuAfter s.menu c } c.shown ack).settle v
    st.events = [.command c.shown] ∧ st.slots = ⟨some c.shown, menuAfter s.menu c⟩ :=
  ⟨Reaction.events_settle _ v, slots_settle rfl v⟩

/-- A command that is acknowledged is shown, and the acknowledgement has the three
    objects alone. -/
theorem comes_of_acknowledged {result : ResultCode} (h : c.Acknowledged result) :
    (Course.shown (some result)).Comes language s c v
      ((Reaction.forward { s with menu := menuAfter s.menu c } c.shown
        (some (acknowledge language c.shown.details result))).settle v) := by
  obtain ⟨hevents, hslots⟩ := settle_forward (s := s) (c := c) (v := v)
    (some (acknowledge language c.shown.details result))
  refine ⟨hevents, ?_, ?_, ?_⟩
  · rw [hslots]
  · rw [hslots]
    exact menuAfter_eq s.menu
  · have hrequest : some (acknowledge language c.shown.details result) =
        some (acknowledge language c.details result) := by rw [h.shown_eq]
    exact responds_acknowledge hrequest fun hasked => h.type?_ne (by decide) hasked.1

/-- The engine does with a command what its course says. -/
theorem comes_of_takes {reading : ResultCode} {course : Course} (h : c.Takes reading course) :
    course.Comes language s c v (step language s (.command c reading) v) := by
  by_cases hr : reading = .ok
  · subst hr
    have hhandling : handling c = course.handling c := handling_of_takes h
    rw [step, react, if_pos rfl, onCommand, hhandling]
    cases h with
    | refused hr => exact absurd rfl hr
    | unknown | unused => rfl
    | answered =>
      exact ⟨responds_answer fun _ => rfl, Reaction.events_settle _ v, slots_settle rfl v⟩
    | beyond type =>
      have hasked : c.type? ≠ some .provideLocalInformation := by
        rw [type]
        decide
      exact ⟨responds_answer fun h => absurd h hasked, Reaction.events_settle _ v,
        slots_settle rfl v⟩
    | acknowledged _ h => exact comes_of_acknowledged h
    | awaiting =>
      obtain ⟨hevents, hslots⟩ := settle_forward (s := s) (c := c) (v := v) none
      exact ⟨hevents, congrArg Slots.outstanding hslots,
        (congrArg Slots.menu hslots).trans (menuAfter_eq s.menu), rfl, rfl, rfl⟩
  · cases h with
    | refused =>
      rw [step, react, if_neg hr]
      exact ⟨responds_acknowledge rfl fun h => hr h.2.2, Reaction.events_settle _ v,
        slots_settle rfl v⟩
    | _ => exact absurd rfl hr

/-- A command takes one of the four courses and no other, and what comes of it is
    what the course says: a response with the verdict of its reader, nothing, an
    answer at once, or a command that is shown and waits, after an
    acknowledgement that keeps nothing from the host should it fail. -/
theorem command_takes_one_course (language : String) (s : Slots) (c : Command)
    (reading : ResultCode) (v : Verdict) :
    ∃ course, (∀ course', c.Takes reading course' ↔ course' = course) ∧
      course.Comes language s c v (step language s (.command c reading) v) := by
  obtain ⟨course, h⟩ := exists_takes c reading
  refine ⟨course, fun course' => ⟨fun h' => h'.unique h, ?_⟩, comes_of_takes h⟩
  rintro rfl
  exact h

end Engine

end CardToolkit
