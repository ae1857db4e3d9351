import CardToolkit.Engine.Run
import CardToolkit.Proofs.Encoding

/-!
# Delivering a reply

A reply of the host reaches the card or the modem as one message, its
*dispatch*: a choice from the menu, the report of an event, the decision on a
call, or a terminal response. Whether it is sent at all (`IsCarried`) does not
depend on the dispatch, and whether the dispatch has bytes (`Dispatch.Fits`)
depends on lengths alone.

* `onReply_of_isCarried`, `onReply_of_not_isCarried`: the reaction to a reply,
  which concludes with the dispatch or passes over the reply;
* `reply_all_or_nothing`: a reply is delivered, which ends the wait, or leaves no
  trace, so that it can be repeated once the link is up again.
-/

namespace CardToolkit

/-- What a reply of the host is carried as. -/
inductive Dispatch
  /-- A choice from the menu, or a wish for help on it. -/
  | choice (item : UInt8) (help : Bool)
  /-- The report of an event. -/
  | report (event : UInt8) (info : List UInt8)
  /-- The decision on a call. -/
  | decision (accept : Bool)
  /-- A terminal response. -/
  | response (response : TerminalResponse)
  deriving DecidableEq

namespace Dispatch

/-- The content of the envelope that reports an event. -/
def reportContent (event : UInt8) (info : List UInt8) : List UInt8 :=
  Envelope.eventContent event (Envelope.eventSource event).value Device.uicc.value info

/-- The request that carries a dispatch, or the fault that it has no bytes. -/
def request : Dispatch → Except EncodingFault Request
  | choice item help => Engine.deliver (Envelope.menuSelection item help)
  | report event info =>
    Engine.deliver (Frame.wrap EnvelopeTag.eventDownload.value (reportContent event info))
  | decision accept => .ok (.callSetup accept)
  | response r => Engine.respond r

/-- All in a dispatch that has a length has one that can be told. -/
def Fits : Dispatch → Prop
  | choice _ _ => True
  | report event info => (reportContent event info).length ≤ maxLength
  | decision _ => True
  | response r => r.Fits

/-- A dispatch has bytes just if it fits. -/
theorem exists_request_iff {d : Dispatch} : (∃ q, d.request = .ok q) ↔ d.Fits := by
  cases d with
  | choice item help =>
    obtain ⟨bs, hbs⟩ := Envelope.exists_menuSelection item help
    exact iff_of_true ⟨_, congrArg Engine.deliver hbs⟩ trivial
  | report event info =>
    exact exists_map_eq_ok.trans Frame.exists_wrap_iff
  | decision accept => exact iff_of_true ⟨_, rfl⟩ trivial
  | response r => exact exists_map_eq_ok.trans TerminalResponse.exists_encode_iff

end Dispatch

namespace Engine

/-! ## Which replies are carried, and as what -/

/-- The results that are passed on to the card: success, a wish for help, a page
    that did not open, and a user who did nothing, or went away. -/
def IsPassedOn (result : ResultCode) : Prop :=
  result.isSuccess = true ∨ result = .helpRequired ∨ result = .launchBrowserError ∨
    result = .noResponse ∨ result = .sessionEndedByUser ∨ result = .backwardMove

/-- The reply chooses from a menu, and there is none. -/
def LacksMenu (s : Slots) (r : Reply) : Prop :=
  isPositive r.result = true ∧ r.details.type? = some .setUpMenu ∧ s.menu = none

instance (s : Slots) (r : Reply) : Decidable (LacksMenu s r) :=
  inferInstanceAs (Decidable (_ ∧ _ ∧ _))

/-- A request is made of the reply, if it has bytes. -/
structure IsCarried (s : Slots) (r : Reply) : Prop where
  timely : isTimely s r = true
  passedOn : IsPassedOn r.result
  menu : ¬LacksMenu s r

/-- What the user chose or entered, as the type of the command asks. -/
def replyData (s : Slots) (r : Reply) : Option AnswerData :=
  if isPositive r.result then
    match r.details.type? with
    | some .selectItem => some (.item r.item)
    | some .getInput | some .getInkey => questionData ((question s).getD {}) r
    | _ => none
  else none

variable (language : String)

/-- The terminal response that a reply is carried in. -/
def replyResponse (s : Slots) (r : Reply) : TerminalResponse where
  details := replyDetails s r
  result := r.result
  info := r.info
  data := replyData s r
  input := question s
  language := some language

/-- What a reply is carried as. -/
def dispatch (s : Slots) (r : Reply) : Dispatch :=
  if isPositive r.result then
    match r.details.type? with
    | some .setUpMenu => .choice r.item (r.result == .helpRequired)
    | some .setUpEventList => .report r.event r.eventInfo
    | some .setUpCall => .decision r.accepted
    | _ => .response (replyResponse language s r)
  else .response (replyResponse language s r)

variable {language} {s : Slots} {r : Reply}

/-- The results that are passed on are those of the two kinds of reply. -/
theorem isPassedOn_iff {result : ResultCode} :
    IsPassedOn result ↔ isPositive result = true ∨ isNegative result = true := by
  simp only [IsPassedOn, isPositive, isNegative, Bool.or_eq_true, beq_iff_eq, or_assoc]

/-- The results of one who did nothing do not come with what the user did. -/
theorem not_isPositive_of_isNegative {result : ResultCode} (h : isNegative result = true) :
    ¬isPositive result = true := by
  revert h
  cases result <;> decide

/-- The details under which a reply goes to the card are of the type of those
    that it came with. -/
theorem type?_replyDetails : (replyDetails s r).type? = r.details.type? := by
  rw [replyDetails]
  cases s.outstanding with
  | none => rfl
  | some c =>
    dsimp only
    split
    · next hsame => exact Details.type?_congr (Details.same_iff.1 hsame)
    · rfl

/-- A timely reply with what the user did concludes with its dispatch. -/
theorem onPositiveReply_eq (hp : isPositive r.result = true) (hm : ¬LacksMenu s r) :
    onPositiveReply language s r = .conclude s (dispatch language s r).request := by
  rw [onPositiveReply, dispatch, type?_replyDetails, if_pos hp]
  cases ht : r.details.type? with
  | none => simp [Dispatch.request, respondTo, replyResponse, replyData, hp, ht]
  | some t =>
    cases t with
    | setUpMenu =>
      cases hmenu : s.menu with
      | none =>
        -- The only choice that is passed over.
        exact absurd ⟨hp, ht, hmenu⟩ hm
      | some m => simp [onMenuChoice, hmenu, Dispatch.request]
    | setUpEventList => rfl
    | setUpCall => rfl
    | _ => simp [Dispatch.request, respondTo, replyResponse, replyData, hp, ht]

/-- A reply that is carried concludes with its dispatch. -/
theorem onReply_of_isCarried (h : IsCarried s r) :
    onReply language s r = .conclude s (dispatch language s r).request := by
  rw [onReply, if_pos h.timely]
  by_cases hp : isPositive r.result = true
  · rw [if_pos hp, onPositiveReply_eq hp h.menu]
  · have hn : isNegative r.result = true := (isPassedOn_iff.1 h.passedOn).resolve_left hp
    rw [if_neg hp, if_pos hn]
    simp [respondTo, dispatch, Dispatch.request, replyResponse, replyData, hp]

/-- A reply that is not carried is passed over. -/
theorem onReply_of_not_isCarried (h : ¬IsCarried s r) : onReply language s r = .pass s := by
  rw [onReply]
  by_cases ht : isTimely s r = true
  · rw [if_pos ht]
    by_cases hp : isPositive r.result = true
    · -- Only a choice from a menu that is not there is left.
      have hm : LacksMenu s r :=
        Decidable.byContradiction fun hm => h ⟨ht, isPassedOn_iff.2 (.inl hp), hm⟩
      rw [if_pos hp]
      simp [onPositiveReply, type?_replyDetails, hm.2.1, onMenuChoice, hm.2.2]
    · have hn : ¬isNegative r.result = true := fun hn =>
        h ⟨ht, isPassedOn_iff.2 (.inr hn), fun hm => hp hm.1⟩
      rw [if_neg hp, if_neg hn]
  · rw [if_neg ht]

/-! ## The step of a reply -/

variable (language s r) in
/-- A reply is not carried, or has no bytes, or a request is made of it. -/
theorem reply_cases :
    ¬IsCarried s r ∨
      (∃ f, IsCarried s r ∧ (dispatch language s r).request = .error f) ∨
      ∃ q, IsCarried s r ∧ (dispatch language s r).request = .ok q := by
  by_cases hc : IsCarried s r
  · cases hd : (dispatch language s r).request with
    | error f => exact .inr (.inl ⟨f, hc, rfl⟩)
    | ok q => exact .inr (.inr ⟨q, hc, rfl⟩)
  · exact .inl hc

/-- A reply that is not carried leaves everything as it was. -/
theorem step_reply_of_not_isCarried (h : ¬IsCarried s r) (v : Verdict) :
    step language s (.reply r) v = { slots := s } := by
  show (onReply language s r).settle v = _
  rw [onReply_of_not_isCarried h]
  rfl

/-- A reply without bytes is reported, and leaves everything as it was. -/
theorem step_reply_of_error (h : IsCarried s r) {f : EncodingFault}
    (hf : (dispatch language s r).request = .error f) (v : Verdict) :
    step language s (.reply r) v = { slots := s, result := .error (.encoding f) } := by
  show (onReply language s r).settle v = _
  rw [onReply_of_isCarried h, hf]
  rfl

/-- A reply that the link takes ends the wait. -/
theorem step_reply_accepted (h : IsCarried s r) {q : Request}
    (hq : (dispatch language s r).request = .ok q) :
    step language s (.reply r) .accepted =
      { slots := s.answered, attempted := some q, sent := some q } := by
  show (onReply language s r).settle .accepted = _
  rw [onReply_of_isCarried h, hq]
  rfl

/-- A reply that the link refuses leaves everything as it was. -/
theorem step_reply_refused (h : IsCarried s r) {q : Request}
    (hq : (dispatch language s r).request = .ok q) (reason : String) :
    step language s (.reply r) (.refused reason) =
      { slots := s, attempted := some q, result := .error (.link reason) } := by
  show (onReply language s r).settle (.refused reason) = _
  rw [onReply_of_isCarried h, hq]
  rfl

/-! ## All or nothing -/

/-- A step by which a dispatch is delivered: the one request that carries it is
    taken, and nothing waits any more. -/
structure Delivered (d : Dispatch) (s : Slots) (st : Step) : Prop where
  result : st.result = .ok ()
  sent : ∃ q, d.request = .ok q ∧ st.sent = some q
  outstanding : st.slots.outstanding = none
  menu : st.slots.menu = s.menu

/-- A step of which neither the link nor the slots have a trace. -/
structure Untouched (s : Slots) (st : Step) : Prop where
  sent : st.sent = none
  slots : st.slots = s

/-- What is delivered leaves a trace. -/
theorem Delivered.not_untouched {d : Dispatch} {st : Step} (h : Delivered d s st) :
    ¬Untouched s st := fun h' => by
  obtain ⟨q, -, hq⟩ := h.sent
  rw [h'.sent] at hq
  cases hq

/-- A reply is delivered just if it is carried, fits, and the link takes it. -/
theorem delivered_iff {v : Verdict} :
    Delivered (dispatch language s r) s (step language s (.reply r) v) ↔
      IsCarried s r ∧ (dispatch language s r).Fits ∧ v = .accepted := by
  constructor
  · rintro ⟨-, ⟨q, -, hq⟩, -, -⟩
    rcases reply_cases language s r with hc | ⟨f, hc, hf⟩ | ⟨q', hc, hq'⟩
    · rw [step_reply_of_not_isCarried hc] at hq
      cases hq
    · rw [step_reply_of_error hc hf] at hq
      cases hq
    · cases v with
      | accepted => exact ⟨hc, Dispatch.exists_request_iff.1 ⟨q', hq'⟩, rfl⟩
      | refused reason =>
        rw [step_reply_refused hc hq'] at hq
        cases hq
  · rintro ⟨hc, hfits, rfl⟩
    obtain ⟨q, hq⟩ := Dispatch.exists_request_iff.2 hfits
    rw [step_reply_accepted hc hq]
    exact ⟨rfl, ⟨q, hq, rfl⟩, rfl, rfl⟩

/-- A reply that is not delivered leaves no trace. -/
theorem untouched_of_not_delivered {v : Verdict}
    (h : ¬Delivered (dispatch language s r) s (step language s (.reply r) v)) :
    Untouched s (step language s (.reply r) v) := by
  rcases reply_cases language s r with hc | ⟨f, hc, hf⟩ | ⟨q, hc, hq⟩
  · rw [step_reply_of_not_isCarried hc]
    exact ⟨rfl, rfl⟩
  · rw [step_reply_of_error hc hf]
    exact ⟨rfl, rfl⟩
  · cases v with
    | accepted =>
      exact absurd (delivered_iff.2 ⟨hc, Dispatch.exists_request_iff.1 ⟨q, hq⟩, rfl⟩) h
    | refused reason =>
      rw [step_reply_refused hc hq]
      exact ⟨rfl, rfl⟩

/-- A reply raises no event. -/
theorem events_step_reply {v : Verdict} : (step language s (.reply r) v).events = [] := by
  rw [step, Reaction.events_settle]
  by_cases hc : IsCarried s r
  · rw [react, onReply_of_isCarried hc]
    rfl
  · rw [react, onReply_of_not_isCarried hc]
    rfl

/-- The link is asked for the same request whether it takes it or not. -/
theorem attempted_of_refused (reason : String) :
    (step language s (.reply r) (.refused reason)).attempted =
      (step language s (.reply r) .accepted).sent := by
  rcases reply_cases language s r with hc | ⟨f, hc, hf⟩ | ⟨q, hc, hq⟩
  · rw [step_reply_of_not_isCarried hc, step_reply_of_not_isCarried hc]
  · rw [step_reply_of_error hc hf, step_reply_of_error hc hf]
  · rw [step_reply_refused hc hq, step_reply_accepted hc hq]

variable (language s r) in
/-- A reply is delivered or leaves no trace, and never raises an event. It is
    delivered just if it is timely, its result is passed on, the menu that it
    chooses from is there, its dispatch fits, and the link takes it. Repeated
    after a refusal, it comes to what it would have come to at first. -/
theorem reply_all_or_nothing (v : Verdict) :
    (Delivered (dispatch language s r) s (step language s (.reply r) v) ∨
        Untouched s (step language s (.reply r) v)) ∧
      ¬(Delivered (dispatch language s r) s (step language s (.reply r) v) ∧
        Untouched s (step language s (.reply r) v)) ∧
      (step language s (.reply r) v).events = [] ∧
      (Delivered (dispatch language s r) s (step language s (.reply r) v) ↔
        isTimely s r = true ∧ IsPassedOn r.result ∧ ¬LacksMenu s r ∧
          (dispatch language s r).Fits ∧ v = .accepted) ∧
      ∀ reason : String,
        (step language s (.reply r) (.refused reason)).attempted =
            (step language s (.reply r) .accepted).sent ∧
          step language (step language s (.reply r) (.refused reason)).slots (.reply r) .accepted =
            step language s (.reply r) .accepted := by
  refine ⟨?_, fun h => h.1.not_untouched h.2, events_step_reply, ?_, fun reason => ?_⟩
  · by_cases hd : Delivered (dispatch language s r) s (step language s (.reply r) v)
    · exact .inl hd
    · exact .inr (untouched_of_not_delivered hd)
  · rw [delivered_iff]
    constructor
    · rintro ⟨⟨ht, hp, hm⟩, hfits, hv⟩
      exact ⟨ht, hp, hm, hfits, hv⟩
    · rintro ⟨ht, hp, hm, hfits, hv⟩
      exact ⟨⟨ht, hp, hm⟩, hfits, hv⟩
  · refine ⟨attempted_of_refused reason, ?_⟩
    have hrefused : ¬Delivered (dispatch language s r) s
        (step language s (.reply r) (.refused reason)) := fun hd => by
      cases (delivered_iff.1 hd).2.2
    rw [(untouched_of_not_delivered hrefused).slots]

end Engine

end CardToolkit
