import CardToolkit.Proofs.Engine.History
import CardToolkit.Proofs.EventReport

/-!
# Envelopes that go out

The link is asked for an envelope only on a reply, and what the envelope holds
follows from the reply. It is always framed: a tag, the length of all that
follows, and a content. A choice from the menu is made of objects. A report of an
event begins with two objects, and goes on with the bytes of the host, behind
the tag and the length of the object that the event has of its own. These bytes
are passed on as they are, so that the report is made of objects just if they
fill that object and are objects behind it (`exists_readAll_report_iff`).

* `exists_reply_of_attempted_envelope`: an envelope is due to a reply;
* `attempted_envelope_framed`: what every envelope of a run holds;
* `report_of_one_byte_not_wellFormed`: a report that is not made of objects.
-/

namespace CardToolkit

/-! ## What envelopes are due to -/

namespace Engine

variable {language : String} {s : Slots} {m : Message} {v : Verdict}

/-- What answers a command at once is no envelope. -/
theorem toOption_respond_ne_envelope (t : TerminalResponse) (hex : String) :
    (respond t).toOption ≠ some (.envelope hex) := by
  intro h
  rw [respond] at h
  cases ht : t.encode with
  | error f =>
    rw [ht] at h
    cases h
  | ok bs =>
    rw [ht] at h
    cases h

/-- On a command the link is not asked for an envelope. -/
theorem attempted_command_ne_envelope (c : Command) (reading : ResultCode) (hex : String) :
    (step language s (.command c reading) v).attempted ≠ some (.envelope hex) := by
  rw [step, Reaction.attempted_settle_eq, react]
  split
  · rw [onCommand]
    cases handling c with
    | drop => exact (Option.some_ne_none _).symm
    | answer result => exact toOption_respond_ne_envelope _ hex
    | forward c' ack =>
      cases ack with
      | none => exact (Option.some_ne_none _).symm
      | some result => exact toOption_respond_ne_envelope _ hex
  · exact toOption_respond_ne_envelope _ hex

/-- The link is asked for an envelope only on a reply that is carried as one. -/
theorem exists_reply_of_attempted_envelope {hex : String}
    (h : (step language s m v).attempted = some (.envelope hex)) :
    ∃ r, m = .reply r ∧ IsCarried s r ∧ (dispatch language s r).request = .ok (.envelope hex) := by
  cases m with
  | command c reading => exact absurd h (attempted_command_ne_envelope c reading hex)
  | unreadable reading =>
    rw [step, Reaction.attempted_settle_eq] at h
    exact absurd h (toOption_respond_ne_envelope _ hex)
  | reply r => exact ⟨r, rfl, isCarried_of_attempted h⟩
  | sessionEnd => cases h
  | refreshed outcome => cases h
  | cardAbsent => cases h

end Engine

/-! ## Frames in hexadecimal text -/

namespace Envelope

/-- The text is that of a frame around the content: a tag, a length, and as many
    bytes. -/
def IsFramed (hex : String) (tag : UInt8) (content : List UInt8) : Prop :=
  ∃ bs, Hex.IsTextOf hex bs ∧ Frame.read? bs = some (tag, content)

/-- The text is that of a frame around objects, with nothing missing or left
    over. -/
def WellFormed (hex : String) : Prop :=
  ∃ tag content os, IsFramed hex tag content ∧ Object.readAll content = some os

variable {hex : String} {tag : UInt8} {content : List UInt8}

/-- What is delivered in a frame is framed. -/
theorem isFramed_of_deliver
    (h : Engine.deliver (Frame.wrap tag content) = .ok (.envelope hex)) :
    IsFramed hex tag content := by
  obtain ⟨bs, hw, heq⟩ := map_eq_ok_iff.1 h
  cases heq
  exact ⟨bs, Hex.isTextOf_encode bs, Frame.read?_eq_some_iff.2 hw⟩

/-- A text is framed in one way at most. -/
theorem IsFramed.unique {tag' : UInt8} {content' : List UInt8} (h : IsFramed hex tag content)
    (h' : IsFramed hex tag' content') : tag = tag' ∧ content = content' := by
  obtain ⟨bs, htext, hread⟩ := h
  obtain ⟨bs', htext', hread'⟩ := h'
  obtain rfl : bs = bs' := Except.ok.inj (htext.decode.symm.trans htext'.decode)
  exact Prod.mk.inj (Option.some.inj (hread.symm.trans hread'))

/-- A text that is framed is well-formed just if its content is made of objects. -/
theorem IsFramed.wellFormed_iff (h : IsFramed hex tag content) :
    WellFormed hex ↔ ∃ os, Object.readAll content = some os := by
  constructor
  · rintro ⟨tag', content', os, h', hos⟩
    obtain ⟨-, rfl⟩ := h.unique h'
    exact ⟨os, hos⟩
  · rintro ⟨os, hos⟩
    exact ⟨tag, content, os, h, hos⟩

/-! ## Contents -/

/-- A choice from the menu is made of objects. -/
theorem readAll_menuObjects (item : UInt8) (help : Bool) :
    Object.readAll ((menuObjects item help).flatMap Object.bytes) =
      some (menuObjects item help) := by
  refine Object.readAll_eq_some_iff.2 ⟨?_, rfl⟩
  cases help <;> simp [menuObjects, devicesObject, maxLength]

/-- The content of a report: the event, the devices, the head of the object of
    the event, and the bytes of the host. -/
def reportBytes (event : UInt8) (info : List UInt8) : List UInt8 :=
  [0x99, 0x01, event, 0x82, 0x02, if event = 0x05 then 0x02 else 0x82, 0x81] ++
    announced event ++ info

theorem reportContent_eq (event : UInt8) (info : List UInt8) :
    Dispatch.reportContent event info = reportBytes event info := by
  rw [Dispatch.reportContent, eventContent_eq, reportBytes]
  by_cases he : event = 0x05
  · subst he
    rfl
  · have hsource : eventSource event = .terminal := if_neg he
    rw [hsource, if_neg he]
    rfl

/-- A report is made of objects just if the bytes of the host fill the object of
    the event, and are objects behind it. -/
theorem exists_readAll_report_iff {event : UInt8} {info : List UInt8} :
    (∃ os, Object.readAll (reportBytes event info) = some os) ↔
      announcedLength event ≤ info.length ∧
        ∃ os, Object.readAll (info.drop (announcedLength event)) = some os := by
  have hcontent : reportBytes event info =
      eventContent event (if event = 0x05 then 0x02 else 0x82) 0x81 info :=
    (eventContent_eq event _ _ info).symm
  rw [hcontent]
  constructor
  · rintro ⟨os, hos⟩
    obtain ⟨value, rest, os', rfl, hlength, hos', -⟩ := readAll_eventContent_iff.1 hos
    rw [← hlength, List.drop_left, List.length_append]
    exact ⟨Nat.le_add_right _ _, os', hos'⟩
  · rintro ⟨hle, os', hos'⟩
    exact ⟨_, readAll_eventContent_iff.2 ⟨_, _, os', (List.take_append_drop _ _).symm,
      List.length_take_of_le hle, hos', rfl⟩⟩

end Envelope

namespace Engine

open Envelope

variable {language : String} {s : Slots} {r : Reply} {hex : String}

/-! ## The envelopes of a run -/

/-- A report of an event is always due. -/
theorem isCarried_report (type : r.details.type? = some .setUpEventList)
    (did : isPositive r.result = true) : IsCarried s r where
  timely := by rw [isTimely, type]
  passedOn := isPassedOn_iff.2 (.inl did)
  menu hlacks := by
    have hmenu := type.symm.trans hlacks.2.1
    cases hmenu

/-- A reply that is carried as an envelope says what the user did: it is a choice
    from the menu, or a report of an event. -/
theorem dispatch_eq_of_envelope (h : (dispatch language s r).request = .ok (.envelope hex)) :
    isPositive r.result = true ∧
      ((r.details.type? = some .setUpMenu ∧
          dispatch language s r = .choice r.item (r.result == .helpRequired)) ∨
        (r.details.type? = some .setUpEventList ∧
          dispatch language s r = .report r.event r.eventInfo)) := by
  have hresponse (t : TerminalResponse) : (Dispatch.response t).request ≠ .ok (.envelope hex) :=
    fun ht => toOption_respond_ne_envelope t hex (congrArg Except.toOption ht)
  rw [dispatch] at h ⊢
  split at h
  · next hp =>
    rw [if_pos hp]
    refine ⟨hp, ?_⟩
    split at h
    · next ht => exact .inl ⟨ht, rfl⟩
    · next ht => exact .inr ⟨ht, rfl⟩
    · cases h
    · exact absurd h (hresponse _)
  · exact absurd h (hresponse _)

/-- An entry of a history is a step. -/
theorem exists_step_of_mem_history {l : List (Message × Verdict)} {e : Entry}
    (he : e ∈ history language s l) : ∃ s' m v, e = ⟨m, step language s' m v⟩ := by
  induction l generalizing s with
  | nil => cases he
  | cons p l ih =>
    rcases List.mem_cons.1 he with rfl | he
    · exact ⟨s, p.1, p.2, rfl⟩
    · exact ih he

/-- Every envelope of a run is due to a reply, and framed. A choice from the menu
    is made of objects. A report of an event is made of objects just if the bytes
    of the host fill the object of the event, and are objects behind it. -/
theorem attempted_envelope_framed (l : List (Message × Verdict)) {e : Entry}
    (he : e ∈ history language s l) (h : e.step.attempted = some (.envelope hex)) :
    ∃ r, e.message = .reply r ∧
      ((r.details.type? = some .setUpMenu ∧
          ∃ content os, IsFramed hex 0xD3 content ∧ Object.readAll content = some os) ∨
        (r.details.type? = some .setUpEventList ∧
          IsFramed hex 0xD6 (reportBytes r.event r.eventInfo) ∧
          (WellFormed hex ↔ announcedLength r.event ≤ r.eventInfo.length ∧
            ∃ os, Object.readAll (r.eventInfo.drop (announcedLength r.event)) = some os))) := by
  obtain ⟨s', m, v, rfl⟩ := exists_step_of_mem_history he
  obtain ⟨r, rfl, -, hrequest⟩ := exists_reply_of_attempted_envelope h
  refine ⟨r, rfl, ?_⟩
  obtain ⟨-, ⟨htype, hchoice⟩ | ⟨htype, hreport⟩⟩ := dispatch_eq_of_envelope hrequest
  · rw [hchoice] at hrequest
    exact .inl ⟨htype, _, _, isFramed_of_deliver hrequest, readAll_menuObjects _ _⟩
  · rw [hreport, Dispatch.request, reportContent_eq] at hrequest
    have hframed := isFramed_of_deliver hrequest
    refine .inr ⟨htype, hframed, ?_⟩
    rw [hframed.wellFormed_iff, exists_readAll_report_iff]

/-- The report of a language is well-formed with the two bytes of its code. -/
theorem attempted_envelope_of_language :
    let r : Reply :=
      { details := .ofType 1 .setUpEventList 0, result := .ok, event := 0x07
        eventInfo := [0x64, 0x65] }
    let l : List (Message × Verdict) := [(.sessionEnd, .accepted), (.reply r, .refused "down")]
    let e : Entry := ⟨.reply r, step "en" {} (.reply r) (.refused "down")⟩
    let hex := "D60B99010782028281AD026465"
    e ∈ history "en" {} l ∧ e.step.attempted = some (.envelope hex) ∧ WellFormed hex := by
  intro r l e hex
  have he : e ∈ history "en" {} l := List.mem_cons_of_mem _ List.mem_cons_self
  have h : e.step.attempted = some (.envelope hex) := by decide
  refine ⟨he, h, ?_⟩
  obtain ⟨r', hr', hframed⟩ := attempted_envelope_framed l he h
  obtain rfl : r = r' := Message.reply.inj hr'
  rcases hframed with ⟨htype, -⟩ | ⟨-, -, hiff⟩
  · exact absurd htype (by decide)
  · exact hiff.2 ⟨by decide, [], Object.readAll_nil⟩

/-- The report of an event passes on what the host says of it, though that is no
    object. -/
theorem report_of_one_byte_not_wellFormed :
    let r : Reply :=
      { details := .ofType 1 .setUpEventList 0, result := .ok, event := 0x04, eventInfo := [0xAA] }
    ¬∀ st ∈ run "en" {} [(.reply r, .accepted)], ∀ hex,
      st.attempted = some (.envelope hex) → WellFormed hex := by
  intro r h
  have hframed : IsFramed "D60899010482028281AA" 0xD6 (reportBytes 0x04 [0xAA]) :=
    isFramed_of_deliver rfl
  have hwell := h _ List.mem_cons_self "D60899010482028281AA" (by decide)
  rw [hframed.wellFormed_iff, exists_readAll_report_iff] at hwell
  obtain ⟨-, os, hos⟩ := hwell
  -- A tag without a length is no object.
  have hnone : Object.readAll [0xAA] = none :=
    Object.readAll_of_read?_eq_none (List.cons_ne_nil _ _) rfl
  exact Option.some_ne_none os (hos.symm.trans hnone)

end Engine

end CardToolkit
