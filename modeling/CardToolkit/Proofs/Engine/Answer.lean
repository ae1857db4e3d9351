import CardToolkit.Proofs.Engine.Correlation
import CardToolkit.Proofs.Engine.Envelope
import CardToolkit.Proofs.TerminalResponse

/-!
# What answers a command

A direct reply to the command that waits is answered to the card in one request.
Two sources go into it: the command, which the engine has kept, and the reply.
The details are those of the command, marked as the card had marked them, and so
are the wishes how a text is coded and the time to wait for a key; the result and
what the user did are those of the reply.

* `Input.Wants`: the coding that a question wants for its answer;
* `Adds`: the object that a reply adds to the three of every terminal response;
* `closes_replyResponse_iff`: it is the one that closes the response;
* `correlated_reply_request`: the request on a reply to the command that waits.
-/

namespace CardToolkit

/-- The question of a command, or one without any wish if it has none. -/
def Command.question (c : Command) : Input :=
  match c.payload with
  | .input i => i
  | _ => {}

theorem Command.getD_input? (c : Command) : c.payload.input?.getD {} = c.question := by
  rw [Command.question]
  cases c.payload <;> rfl

/-- The question wants a text in the coding: UCS2 goes before packed septets, and where it
    wishes for neither, septets are not packed. -/
inductive Input.Wants (i : Input) : Coding → Prop
  | ucs2 (ucs2 : i.ucs2 = true) : Wants i .ucs2
  | packed (ucs2 : i.ucs2 = false) (packed : i.packed = true) : Wants i .packed
  | unpacked (ucs2 : i.ucs2 = false) (packed : i.packed = false) : Wants i .unpacked

theorem Input.wants_iff {i : Input} {coding : Coding} :
    i.Wants coding ↔ coding = .ofFlags i.ucs2 i.packed := by
  constructor
  · rintro (ucs2 | ⟨ucs2, packed⟩ | ⟨ucs2, packed⟩)
    · rw [ucs2]; rfl
    · rw [ucs2, packed]; rfl
    · rw [ucs2, packed]; rfl
  · rintro rfl
    cases hucs2 : i.ucs2 with
    | true => exact .ucs2 hucs2
    | false =>
      cases hpacked : i.packed with
      | true => exact .packed hucs2 hpacked
      | false => exact .unpacked hucs2 hpacked

/-- The reply to the command adds the object to its terminal response. -/
inductive Adds (c : Command) (r : Reply) : Object → Prop
  /-- The user chose an entry. -/
  | item (did : Engine.isPositive r.result = true) (type : c.type? = some .selectItem) :
    Adds c r ⟨0x90, [r.item]⟩
  /-- The user said yes or no. -/
  | yesNo (did : Engine.isPositive r.result = true)
    (type : c.type? = some .getInput ∨ c.type? = some .getInkey)
    (question : c.question.yesNo = true) : Adds c r ⟨0x8D, [0x04, if r.yes then 0x01 else 0x00]⟩
  /-- The user entered a text, and does not ask for help. -/
  | text {coding : Coding} (did : Engine.isPositive r.result = true)
    (type : c.type? = some .getInput ∨ c.type? = some .getInkey)
    (question : c.question.yesNo = false) (result : r.result ≠ .helpRequired)
    (wants : c.question.Wants coding) :
    Adds c r ⟨0x8D, coding.scheme :: coding.encode (r.text.getD "")⟩
  /-- The user did not press a key in time. -/
  | waited {i : Input} {d : Duration} (result : r.result = .noResponse)
    (type : c.type? = some .getInkey) (input : c.payload = .input i)
    (duration : i.duration = some d) : Adds c r ⟨0x04, [0x01, d.interval]⟩

namespace Engine

variable {language : String} {s : Slots} {c : Command} {r : Reply} {o : Object}

/-- A reply to a command is of its type. -/
theorem type?_of_same (hsame : c.details.same r.details = true) : r.details.type? = c.type? :=
  (Details.type?_congr (Details.same_iff.1 hsame)).symm

/-! ## What is taken from the command -/

theorem question_of_outstanding (hc : s.outstanding = some c) :
    question s = c.payload.input? := by
  rw [question, hc]
  rfl

section

variable (hc : s.outstanding = some c) (hsame : c.details.same r.details = true)
include hc hsame

/-- The details of a reply to the command that waits are those of the command. -/
theorem replyDetails_of_same : replyDetails s r = c.details := by
  rw [replyDetails, hc]
  exact if_pos hsame

/-- The data of a reply to the command that waits: by what the user did, and by
    the type and the question of the command. -/
theorem replyData_eq :
    replyData s r =
      if isPositive r.result then
        match c.type? with
        | some .selectItem => some (.item r.item)
        | some .getInput | some .getInkey => questionData c.question r
        | _ => none
      else none := by
  have hquestion : c.question = (question s).getD {} := by
    rw [question_of_outstanding hc, Command.getD_input?]
  rw [hquestion, ← type?_of_same hsame]
  rfl

/-- The data of a reply to a question are that question's. -/
theorem replyData_of_question (did : isPositive r.result = true)
    (type : c.type? = some .getInput ∨ c.type? = some .getInkey) :
    replyData s r = questionData c.question r := by
  rw [replyData_eq hc hsame, if_pos did]
  rcases type with type | type <;> rw [type]

end

/-! ## What the reply adds -/

/-- What answers a question is added. -/
theorem adds_of_questionData {data : AnswerData} (did : isPositive r.result = true)
    (type : c.type? = some .getInput ∨ c.type? = some .getInkey)
    (h : questionData c.question r = some data) : Adds c r data.object := by
  rw [questionData] at h
  split at h
  · next hyesNo =>
    cases h
    exact .yesNo did type hyesNo
  · next htext =>
    split at h
    · cases h
    · next hhelp =>
      cases h
      exact .text did type (Bool.eq_false_iff.2 htext) hhelp (Input.wants_iff.2 rfl)

section

variable (hc : s.outstanding = some c) (hsame : c.details.same r.details = true)
include hc hsame

/-- The data of a reply are added. -/
theorem adds_of_replyData {data : AnswerData} (h : replyData s r = some data) :
    Adds c r data.object := by
  rw [replyData_eq hc hsame] at h
  split at h
  · next did =>
    split at h
    · next type =>
      cases h
      exact .item did type
    · next type => exact adds_of_questionData did (.inl type) h
    · next type => exact adds_of_questionData did (.inr type) h
    · cases h
  · cases h

/-- What closes the response to the command that waits is what the reply adds. -/
theorem closes_replyResponse_iff (hs : Sound s) :
    (replyResponse language s r).Closes o ↔ Adds c r o := by
  have hdetails : (replyResponse language s r).details = c.details := replyDetails_of_same hc hsame
  have hinput : (replyResponse language s r).input = c.payload.input? :=
    question_of_outstanding hc
  constructor
  · intro h
    cases h with
    | item h | text h | yesNo h | language h => exact adds_of_replyData hc hsame h
    | waited _ type result input duration =>
      rw [hdetails] at type
      rw [hinput] at input
      exact .waited result type (Payload.input?_eq_some_iff.1 input) duration
    | asked _ type =>
      -- A command that asks for the language never waits.
      rw [hdetails] at type
      obtain ⟨t, ht, hwaits⟩ := hs.outstanding_type c hc
      obtain rfl := Option.some.inj (type.symm.trans hwaits)
      exact absurd ht (by decide)
  · intro h
    cases h with
    | item did type =>
      have hdata : replyData s r = some (.item r.item) := by
        rw [replyData_eq hc hsame, if_pos did, type]
      exact .item hdata
    | yesNo did type question =>
      have hdata : replyData s r = some (.yesNo r.yes) := by
        rw [replyData_of_question hc hsame did type, questionData, if_pos question]
      exact .yesNo hdata
    | @text coding did type question result wants =>
      have hdata : replyData s r = some (.text (r.text.getD "") coding) := by
        rw [replyData_of_question hc hsame did type, questionData,
          if_neg (Bool.eq_false_iff.1 question), if_neg result, Input.wants_iff.1 wants]
      exact .text hdata
    | waited result type input duration =>
      have hnot : ¬isPositive r.result = true := by
        rw [result]
        decide
      have hdata : replyData s r = none := by rw [replyData_eq hc hsame, if_neg hnot]
      exact .waited hdata (hdetails ▸ type) result
        (hinput.trans (Payload.input?_eq_some_iff.2 input)) duration

end

/-! ## The request -/

/-- A response that is not too long is asked for, and read back from its text. -/
theorem toOption_respond_of_short {t : TerminalResponse}
    (h : ∀ o, t.Closes o → o.value.length ≤ maxLength) :
    ∃ bs, (respond t).toOption = some (.terminalResponse (Hex.encode bs)) ∧
      Object.readAll bs =
        some (TerminalResponse.opening t.details t.result t.info ++ t.last.toList) := by
  obtain ⟨bs, hbs⟩ := TerminalResponse.exists_encode_iff.2 (TerminalResponse.fits_iff.2 h)
  refine ⟨bs, ?_, ?_⟩
  · rw [respond, hbs]
    rfl
  · rw [TerminalResponse.encode_eq_ok_iff.1 hbs, TerminalResponse.objects_eq]

/-- A response that is too long is not asked for. -/
theorem toOption_respond_of_long {t : TerminalResponse} (ho : t.Closes o)
    (hlong : maxLength < o.value.length) : (respond t).toOption = none := by
  rw [respond, TerminalResponse.encode_of_last (TerminalResponse.last_eq_some_iff.2 ho) hlong]
  rfl

/-- A reply to the command that waits is direct if the command is not about a menu
    or a list of events. -/
theorem isDirect_of_same (hmenu : c.type? ≠ some .setUpMenu)
    (hevents : c.type? ≠ some .setUpEventList) (hsame : c.details.same r.details = true) :
    r.IsDirect := by
  rw [Reply.IsDirect, type?_of_same hsame]
  exact ⟨hmenu, hevents⟩

/-- A reply to the command that waits is timely. -/
theorem isTimely_of_same (hc : s.outstanding = some c)
    (hsame : c.details.same r.details = true) : isTimely s r = true := by
  rw [isTimely]
  split
  · rfl
  · rfl
  · rw [Slots.awaits, hc]
    exact hsame

/-- A direct reply to the command that waits is carried if its result is passed
    on. -/
theorem isCarried_of_isDirect (hc : s.outstanding = some c)
    (hsame : c.details.same r.details = true) (hr : r.IsDirect) (hp : IsPassedOn r.result) :
    IsCarried s r where
  timely := isTimely_of_same hc hsame
  passedOn := hp
  menu hlacks := hr.1 hlacks.2.1

/-- A direct reply is carried as a decision if it accepts or declines a call, and
    else as a terminal response. -/
theorem dispatch_of_isDirect (hr : r.IsDirect) :
    dispatch language s r =
      if isPositive r.result = true ∧ r.details.type? = some .setUpCall then .decision r.accepted
      else .response (replyResponse language s r) := by
  rw [dispatch]
  split
  · next hp =>
    split
    · next ht => exact absurd ht hr.1
    · next ht => exact absurd ht hr.2
    · next ht => rw [if_pos ⟨hp, ht⟩]
    · next hcall => rw [if_neg fun h => hcall h.2]
  · next hp => rw [if_neg fun h => hp h.1]

/-- A reply to the command that waits is carried in one request: the decision on a
    call, if the user made it, and else a terminal response. The response opens
    with the details of the command, and with the result of the reply and the byte
    on it; what the reply adds closes it. It is not sent just if that is too
    long. -/
theorem correlated_reply_request (hs : Reachable language s) (hc : s.outstanding = some c)
    (hmenu : c.type? ≠ some .setUpMenu) (hevents : c.type? ≠ some .setUpEventList)
    (hsame : c.details.same r.details = true) (hp : IsPassedOn r.result) (v : Verdict) :
    (isPositive r.result = true ∧ c.type? = some .setUpCall →
      (step language s (.reply r) v).attempted = some (.callSetup r.accepted)) ∧
    (¬(isPositive r.result = true ∧ c.type? = some .setUpCall) →
      ∃ last : Option Object, (∀ o, last = some o ↔ Adds c r o) ∧
        ((∀ o, Adds c r o → o.value.length ≤ 255) → ∃ bs,
          (step language s (.reply r) v).attempted = some (.terminalResponse (Hex.encode bs)) ∧
            Object.readAll bs =
              some (TerminalResponse.opening c.details r.result r.info ++ last.toList)) ∧
        ∀ o, Adds c r o → 255 < o.value.length →
          (step language s (.reply r) v).attempted = none) := by
  have hr : r.IsDirect := isDirect_of_same hmenu hevents hsame
  have hattempted : (step language s (.reply r) v).attempted =
      (dispatch language s r).request.toOption :=
    attempted_reply (isCarried_of_isDirect hc hsame hr hp) v
  rw [hattempted, dispatch_of_isDirect hr, type?_of_same hsame]
  refine ⟨fun h => by rw [if_pos h]; rfl, fun h => ?_⟩
  rw [if_neg h]
  have hcloses (o : Object) : (replyResponse language s r).Closes o ↔ Adds c r o :=
    closes_replyResponse_iff hc hsame (reachable_sound hs)
  refine ⟨(replyResponse language s r).last,
    fun o => TerminalResponse.last_eq_some_iff.trans (hcloses o), fun hshort => ?_,
    fun o ho hlong => ?_⟩
  · rw [← replyDetails_of_same hc hsame]
    exact toOption_respond_of_short fun o ho => hshort o ((hcloses o).1 ho)
  · exact toOption_respond_of_long ((hcloses o).2 ho) hlong

/-- A user who did not press a key: the mark and the time are those of the command,
    the byte on the result is that of the reply. -/
theorem correlated_reply_of_noResponse :
    let c : Command :=
      { details := { required := false, number := 1, typeByte := 0x22, qualifier := 0 }
        payload := .input { duration := some ⟨.second, 30⟩ } }
    let r : Reply :=
      { details := { c.details with required := true }, result := .noResponse, info := some 0x05
        text := some "a" }
    let s : Slots := slotsAfter "en" {} [(.command c .ok, .accepted)]
    (Reachable "en" s ∧ s.outstanding = some c ∧ c.type? ≠ some .setUpMenu ∧
        c.type? ≠ some .setUpEventList ∧ c.details.same r.details = true ∧
        IsPassedOn r.result) ∧
      ∃ bs, (step "en" s (.reply r) .accepted).attempted =
          some (.terminalResponse (Hex.encode bs)) ∧
        Object.readAll bs =
          some [⟨0x01, [1, 0x22, 0]⟩, ⟨0x02, [0x82, 0x81]⟩, ⟨0x83, [0x12, 0x05]⟩,
            ⟨0x04, [0x01, 30]⟩] := by
  intro c r s
  have hs : Reachable "en" s := reachable_slotsAfter "en" .start _
  have hc : s.outstanding = some c := rfl
  have hmenu : c.type? ≠ some .setUpMenu := by decide
  have hevents : c.type? ≠ some .setUpEventList := by decide
  have hsame : c.details.same r.details = true := by decide
  have hadds : Adds c r ⟨0x04, [0x01, 30]⟩ := .waited (d := ⟨.second, 30⟩) rfl rfl rfl rfl
  have hp : IsPassedOn r.result := isPassedOn_iff.2 (.inr rfl)
  obtain ⟨last, hlast, hshort, -⟩ :=
    (correlated_reply_request hs hc hmenu hevents hsame hp .accepted).2 (by decide)
  obtain rfl := (hlast _).2 hadds
  obtain ⟨bs, hattempted, hread⟩ := hshort fun o ho => by
    obtain rfl := Option.some.inj ((hlast o).2 ho)
    decide
  exact ⟨⟨hs, hc, hmenu, hevents, hsame, hp⟩, bs, hattempted, hread⟩

end Engine

end CardToolkit
