import CardToolkit.CommandLine.Run
import CardToolkit.Proofs.CommandLine.Lookup
import CardToolkit.Proofs.Engine.Answer
import CardToolkit.Proofs.Engine.Menu

/-!
# The command line and the engine

What the engine sends on a reply of the host can be asked for on the command line
as well. The two come to it by different ways. The engine finds the details, the
marks and the wishes for a text in the command that waits, and takes a reply only
when it is due; on the command line all of this is given, and nothing is due. Where
the options give what the engine finds, the text that is printed is the one that is
sent, and where one of them has no bytes to show, the other has none either.

* `Agrees`: an invocation prints what a step sends, and fails as the step fails;
* `ResponseOptions.Describes`: options that give what the engine finds in a command
  and the reply to it;
* `agrees_of_carried`: an invocation agrees with the step of a reply if it encodes
  what the reply is carried as;
* `encoders_agree_with_engine`: reports of events, choices from the menu, and
  terminal responses.
-/

namespace CardToolkit.CommandLine

open Engine

variable {language : String} {s : Slots} {c : Command} {r : Reply} {o : ResponseOptions}

/-! ## Agreement -/

/-- An invocation prints a text just if the step sends it, and fails for a fault of
    encoding just if the step does; one of the two it comes to. -/
structure Agrees (i : Invocation) (request : String → Request) (st : Step) : Prop where
  prints : ∀ text, i.run = .ok [text] ↔ st.sent = some (request text)
  fails : ∀ f, i.run = .error (.toolkit (.encoding f)) ↔ st.result = .error (.encoding f)
  total : (∃ text, i.run = .ok [text]) ∨ ∃ f, i.run = .error (.toolkit (.encoding f))

/-- An invocation that encodes what a reply is carried as agrees with its step. -/
theorem agrees_of_carried {i : Invocation} {request : String → Request}
    {encoded : Except EncodingFault (List UInt8)} (hi : i.run = (hexText encoded).map ([·]))
    (hinj : Function.Injective request) (hc : IsCarried s r)
    (hr : (dispatch language s r).request = encoded.map fun bs => request (Hex.encode bs)) :
    Agrees i request (step language s (.reply r) .accepted) := by
  cases encoded with
  | error f =>
    have hrun : i.run = .error (.toolkit (.encoding f)) := hi
    rw [step_reply_of_error hc hr]
    refine ⟨fun text => ?_, fun f' => ?_, .inr ⟨f, hrun⟩⟩
    · rw [hrun]
      exact iff_of_false nofun nofun
    · rw [hrun, Except.error.injEq, CommandFault.toolkit.injEq, Except.error.injEq]
  | ok bs =>
    have hrun : i.run = .ok [Hex.encode bs] := hi
    rw [step_reply_accepted hc hr]
    refine ⟨fun text => ?_, fun f => ?_, .inl ⟨_, hrun⟩⟩
    · rw [hrun, Except.ok.injEq, List.cons.injEq, and_iff_left rfl, Option.some.injEq,
        hinj.eq_iff]
    · rw [hrun]
      exact iff_of_false nofun nofun

/-! ## Envelopes -/

/-- The usual device is the one that the engine gives. -/
theorem usualSource_eq (e : EventCode) : usualSource e = Envelope.eventSource e.value :=
  if_congr ⟨congrArg EventCode.value, fun h => Vocabulary.value_injective h⟩ rfl rfl

/-- A report of an event by its name is that of the engine. -/
theorem run_eventDownload {e : EventCode} {info : String} {bs : List UInt8}
    (h : Hex.decode info = .ok bs) :
    (Invocation.eventDownload e.name none info).run =
      (hexText (Envelope.eventDownload e.value (Envelope.eventSource e.value).value
        Device.uicc.value bs)).map ([·]) := by
  have hencoded : eventDownload e.name none info =
      hexText (Envelope.eventDownload e.value (Envelope.eventSource e.value).value
        Device.uicc.value bs) := by
    rw [eventDownload, eventCode_name, h, ← usualSource_eq]
    rfl
  exact congrArg (Except.map ([·])) hencoded

/-! ## Terminal responses -/

/-- The options give what the user did, as the command asks for it and the reply
    tells. -/
inductive ResponseOptions.Answers (o : ResponseOptions) (c : Command) (r : Reply) : Prop
  /-- The user chose an entry. -/
  | item (type : c.type? = some .selectItem) (did : isPositive r.result = true)
    (item : o.item = some r.item)
  /-- The user entered a text, and does not ask for help. -/
  | text (type : c.type? = some .getInput ∨ c.type? = some .getInkey)
    (did : isPositive r.result = true) (question : c.question.yesNo = false)
    (result : r.result ≠ .helpRequired) (noItem : o.item = none)
    (text : o.text = some (r.text.getD "")) (ucs2 : o.ucs2 = c.question.ucs2)
    (packed : o.packed = c.question.packed)
  /-- The user said yes or no. -/
  | yesNo (type : c.type? = some .getInput ∨ c.type? = some .getInkey)
    (did : isPositive r.result = true) (question : c.question.yesNo = true)
    (noItem : o.item = none) (noText : o.text = none) (yesNo : o.yesNo = some r.yes)
  /-- The user did nothing, or went away. -/
  | nothing (didNot : isNegative r.result = true) (noItem : o.item = none) (noText : o.text = none)
    (noYesNo : o.yesNo = none) (duration : o.duration = c.question.duration.map Duration.interval)

/-- The options give what the engine finds in a command and the reply to it. -/
structure ResponseOptions.Describes (o : ResponseOptions) (c : Command) (r : Reply) : Prop where
  number : o.number = c.details.number
  type : ∃ t, c.type? = some t ∧ o.type = t.name
  qualifier : o.qualifier = c.details.qualifier
  mark : o.unmarked = !c.details.required
  result : o.result = r.result.name
  info : o.info = r.info
  answers : o.Answers c r

/-- The user did something about an entry or a question, or did nothing. -/
theorem ResponseOptions.Answers.did_or_not (h : o.Answers c r) :
    (isPositive r.result = true ∧
        (c.type? = some .selectItem ∨ c.type? = some .getInput ∨ c.type? = some .getInkey)) ∨
      isNegative r.result = true := by
  cases h with
  | item type did => exact .inl ⟨did, .inl type⟩
  | text type did | yesNo type did => exact .inl ⟨did, .inr type⟩
  | nothing didNot => exact .inr didNot

section

variable (language) (hc : s.outstanding = some c) (hsame : c.details.same r.details = true)
include hc hsame

/-- A reply that the options tell of goes to the card in a terminal response. -/
theorem carried_of_answers (h : o.Answers c r) :
    IsCarried s r ∧ dispatch language s r = .response (replyResponse language s r) := by
  have htimely := isTimely_of_same hc hsame
  rcases h.did_or_not with ⟨did, type⟩ | didNot
  · refine ⟨⟨htimely, isPassedOn_iff.2 (.inl did), fun hlacks => ?_⟩, ?_⟩
    · have hmenu : c.type? = some .setUpMenu := (type?_of_same hsame).symm.trans hlacks.2.1
      rcases type with type | type | type <;> cases type.symm.trans hmenu
    · rw [dispatch, if_pos did, type?_of_same hsame]
      rcases type with type | type | type <;> rw [type]
  · have hnot := not_isPositive_of_isNegative didNot
    exact ⟨⟨htimely, isPassedOn_iff.2 (.inr didNot), fun hlacks => hnot hlacks.1⟩, if_neg hnot⟩

/-- The details that are given are those of the command. -/
theorem details_of_describes (h : o.Describes c r) {t : CommandType} (ht : c.type? = some t) :
    (o.response t r.result).details = (replyResponse language s r).details := by
  have hbyte : t.value = c.details.typeByte := Command.type?_eq_some_iff.1 ht
  rw [replyResponse, replyDetails_of_same hc hsame, ResponseOptions.response, h.number, h.qualifier,
    h.mark, Bool.not_not, Details.ofType, hbyte]

/-- What closes the response that is given closes that of the engine. -/
theorem last_of_describes (h : o.Describes c r) {t : CommandType} (ht : c.type? = some t) :
    (o.response t r.result).last = (replyResponse language s r).last := by
  cases h.answers with
  | item type did item =>
    have hgiven : o.data = some (.item r.item) := by rw [ResponseOptions.data, item]
    have hfound : replyData s r = some (.item r.item) := by
      rw [replyData_eq hc hsame, if_pos did, type]
    exact TerminalResponse.last_of_data hgiven hfound
  | text type did question result noItem text ucs2 packed =>
    have hgiven : o.data = some (.text (r.text.getD "") (.ofFlags o.ucs2 o.packed)) := by
      rw [ResponseOptions.data, noItem, text]
    have hfound : replyData s r = some (.text (r.text.getD "") (.ofFlags o.ucs2 o.packed)) := by
      rw [replyData_of_question hc hsame did type, questionData,
        if_neg (Bool.eq_false_iff.1 question), if_neg result, ucs2, packed]
    exact TerminalResponse.last_of_data hgiven hfound
  | yesNo type did question noItem noText yesNo =>
    have hgiven : o.data = some (.yesNo r.yes) := by
      rw [ResponseOptions.data, noItem, noText, yesNo]
    have hfound : replyData s r = some (.yesNo r.yes) := by
      rw [replyData_of_question hc hsame did type, questionData, if_pos question]
    exact TerminalResponse.last_of_data hgiven hfound
  | nothing didNot noItem noText noYesNo duration =>
    have hgiven : o.data = none := by rw [ResponseOptions.data, noItem, noText, noYesNo]
    have hfound : replyData s r = none := by
      rw [replyData_eq hc hsame, if_neg (not_isPositive_of_isNegative didNot)]
    have hwaited : (question s).bind Input.duration = c.question.duration := by
      rw [question_of_outstanding hc, ← Command.getD_input?]
      cases c.payload.input? <;> rfl
    have hinterval :
        (o.duration.map fun n => ⟨.second, n⟩ : Option Duration).map Duration.interval =
          ((question s).bind Input.duration).map Duration.interval := by
      rw [hwaited, ← duration, Option.map_map]
      exact Option.map_id'
    have hresult : r.result ≠ .ok := by
      intro hok
      rw [hok] at didNot
      cases didNot
    -- Without an answer, the time to wait is told, of which the unit is lost on either side.
    exact TerminalResponse.last_of_derived hgiven hfound
      (TerminalResponse.derived_of_interval (details_of_describes language hc hsame h ht) rfl
        hresult hinterval)

/-- The bytes of the response that is given are those of the engine's. -/
theorem encode_of_describes (h : o.Describes c r) {t : CommandType} (ht : c.type? = some t) :
    (o.response t r.result).encode = (replyResponse language s r).encode :=
  TerminalResponse.encode_congr (details_of_describes language hc hsame h ht) rfl h.info
    (last_of_describes language hc hsame h ht)

end

/-- A response that describes the reply prints the response that is encoded. -/
theorem run_terminalResponse {t : CommandType} (h : o.Describes c r) (ht : c.type? = some t) :
    (Invocation.terminalResponse o).run = (hexText (o.response t r.result).encode).map ([·]) := by
  obtain ⟨t', ht', htype⟩ := h.type
  obtain rfl : t' = t := Option.some.inj (ht'.symm.trans ht)
  have hencoded : terminalResponse o = hexText (o.response t' r.result).encode := by
    rw [terminalResponse, htype, commandType_name, h.result, resultCode_name]
    rfl
  exact congrArg (Except.map ([·])) hencoded

/-! ## The engine and the command line -/

variable (language s r) in
/-- What the engine sends on a reply, over a link that takes it, is printed on the
    command line, and what has no bytes has none on either side: the report of an
    event, by the name of the event and further bytes in hexadecimal, with no device
    given; a choice from the menu, or a wish for help, while there is a menu; and the
    terminal response to the command that waits, with options that describe it. -/
theorem encoders_agree_with_engine :
    (∀ (e : EventCode) (info : String), r.details.type? = some .setUpEventList →
        isPositive r.result = true → r.event = e.value → Hex.decode info = .ok r.eventInfo →
        Agrees (.eventDownload e.name none info) .envelope
          (step language s (.reply r) .accepted)) ∧
      (∀ m, s.menu = some m → r.details.type? = some .setUpMenu → isPositive r.result = true →
        Agrees (.menuSelection r.item (r.result == .helpRequired)) .envelope
          (step language s (.reply r) .accepted)) ∧
      (∀ c o, s.outstanding = some c → c.details.same r.details = true → o.Describes c r →
        Agrees (.terminalResponse o) .terminalResponse
          (step language s (.reply r) .accepted)) := by
  refine ⟨fun e info type did event hinfo => ?_, fun m menu type did => ?_,
    fun c o hc hsame h => ?_⟩
  · have hdispatch : dispatch language s r = .report e.value r.eventInfo := by
      rw [dispatch, if_pos did, type, event]
    refine agrees_of_carried (run_eventDownload hinfo) (fun _ _ h => Request.envelope.inj h)
      (isCarried_report type did) ?_
    rw [hdispatch]
    rfl
  · have hdispatch : dispatch language s r = .choice r.item (r.result == .helpRequired) := by
      rw [dispatch, if_pos did, type]
    refine agrees_of_carried rfl (fun _ _ h => Request.envelope.inj h)
      (isCarried_choice type did menu) ?_
    rw [hdispatch]
    rfl
  · obtain ⟨t, ht, -⟩ := h.type
    obtain ⟨hcarried, hdispatch⟩ := carried_of_answers language hc hsame h.answers
    refine agrees_of_carried (run_terminalResponse h ht)
      (fun _ _ h => Request.terminalResponse.inj h) hcarried ?_
    rw [hdispatch, encode_of_describes language hc hsame h ht]
    rfl

/-- A text in packed septets, to a command that the card had not marked, and with a
    byte on the result: what is printed is what is sent. -/
theorem packed_text_printed_as_sent :
    let c : Command :=
      { details := { required := false, number := 7, typeByte := 0x23, qualifier := 0x08 }
        payload := .input { packed := true } }
    let r : Reply :=
      { details := .ofType 7 .getInput 0x08, result := .limitedService, text := some "hello"
        info := some 0x05 }
    let s : Slots := slotsAfter "en" {} [(.command c .ok, .accepted)]
    let o : ResponseOptions :=
      { number := 7, type := "GET_INPUT", qualifier := 0x08, result := r.result.name
        info := some 0x05, unmarked := true, text := some "hello", packed := true }
    let text := "010307230802028281830206058D0600E8329BFD06"
    (s.outstanding = some c ∧ c.details.same r.details = true ∧ o.Describes c r) ∧
      (Invocation.terminalResponse o).run = .ok [text] ∧
      (step "en" s (.reply r) .accepted).sent = some (.terminalResponse text) := by
  intro c r s o text
  have hc : s.outstanding = some c := rfl
  have hsame : c.details.same r.details = true := by decide
  have h : o.Describes c r :=
    { number := rfl, type := ⟨.getInput, by decide, rfl⟩, qualifier := rfl, mark := rfl
      result := rfl, info := rfl
      answers := .text (.inl (by decide)) (by decide) rfl (by decide) rfl rfl rfl rfl }
  have hagrees := (encoders_agree_with_engine "en" s r).2.2 c o hc hsame h
  have hsent : (step "en" s (.reply r) .accepted).sent = some (.terminalResponse text) := by
    decide +kernel
  exact ⟨⟨hc, hsame, h⟩, (hagrees.prints text).2 hsent, hsent⟩

end CardToolkit.CommandLine
