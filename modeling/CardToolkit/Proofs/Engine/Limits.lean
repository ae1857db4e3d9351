import CardToolkit.Proofs.Engine.Answer
import CardToolkit.Proofs.Engine.Course
import CardToolkit.Proofs.Engine.Language
import CardToolkit.Proofs.Engine.Menu
import CardToolkit.Proofs.Text.Septets
import CardToolkit.Proofs.Text.Ucs2

/-!
# What is too long to be sent

Of the messages that the engine handles, few can lead to a request that has no
bytes. Everything in a request has a fixed length but for three parts of it: the
language that the card asks for, the text that the user entered, and the bytes of
the host on an event. Each has its own limit (`TooLong`), and where it is passed,
the step leaves no trace but the fault.

* `Input.IsTooLong`: the limits of a text, by the coding that a question asks for;
* `Responds.encoding_iff`, `isCarried_of_encoding_reply`: on a command the fault is there
  just if an object is too long, and on a reply only if the dispatch is;
* `encoding_fault_iff_tooLong`: the fault comes of the messages that are too long and
  of no others, after any run and whatever the link does.
-/

namespace CardToolkit

open Text

/-- The text has no room in an object, in the coding that the question asks for. -/
def Input.IsTooLong (i : Input) (text : String) : Prop :=
  if i.ucs2 then 127 < (Ucs2.unitsOf text).length
  else if i.packed then 290 < (Alphabet.encode text).length
  else 254 < (Alphabet.encode text).length

/-- The message is about something that has no room in a request. -/
inductive TooLong (language : String) (s : Slots) : Message → Prop
  /-- The card asks for the language. -/
  | language {c : Command} (type : c.type? = some .provideLocalInformation)
    (qualifier : c.details.qualifier = 0x04) (long : 255 < (utf8 language).length) :
    TooLong language s (.command c .ok)
  /-- The user entered a text for the command that waits, and does not ask for
      help. -/
  | text {c : Command} {r : Reply} (waits : s.outstanding = some c)
    (same : c.details.SameCommand r.details)
    (type : c.type? = some .getInput ∨ c.type? = some .getInkey)
    (question : c.question.yesNo = false)
    (result : r.result.isSuccess = true ∨ r.result = .launchBrowserError)
    (long : c.question.IsTooLong (r.text.getD "")) : TooLong language s (.reply r)
  /-- The host reports an event, which may have an object of its own. -/
  | report {r : Reply} (type : r.details.type? = some .setUpEventList)
    (result : r.result.isSuccess = true ∨ r.result = .helpRequired ∨
      r.result = .launchBrowserError)
    (long : (if r.event = 0x07 ∨ r.event = 0x08 then 246 else 248) < r.eventInfo.length) :
    TooLong language s (.reply r)

/-- The step has failed as a request has no bytes, and left no other trace. -/
structure Step.IsUnencoded (st : Step) (s : Slots) : Prop where
  fault : ∃ f, st.result = .error (.encoding f)
  attempted : st.attempted = none
  sent : st.sent = none
  events : st.events = []
  slots : st.slots = s

/-! ## Lengths -/

/-- A text is too long just if the value of its object is. -/
theorem Input.isTooLong_iff {i : Input} {text : String} {coding : Coding} (h : i.Wants coding) :
    i.IsTooLong text ↔ 255 < (coding.scheme :: coding.encode text).length := by
  rw [IsTooLong, List.length_cons]
  cases h with
  | ucs2 ucs2 =>
    rw [if_pos ucs2, Coding.encode, Ucs2.length_encode]
    omega
  | packed ucs2 packed =>
    rw [if_neg (Bool.eq_false_iff.1 ucs2), if_pos packed, Coding.encode, Septets.length_pack]
    omega
  | unpacked ucs2 packed =>
    rw [if_neg (Bool.eq_false_iff.1 ucs2), if_neg (Bool.eq_false_iff.1 packed), Coding.encode]
    omega

/-- The report of an event is too long just if the bytes of the host are. -/
theorem Dispatch.not_fits_report_iff {event : UInt8} {info : List UInt8} :
    ¬(Dispatch.report event info).Fits ↔
      (if event = 0x07 ∨ event = 0x08 then 246 else 248) < info.length := by
  have hfits : (Dispatch.report event info).Fits ↔ Envelope.reportLength event info ≤ 255 := by
    rw [← Envelope.length_eventContent]
    rfl
  rw [hfits, Envelope.reportLength]
  split <;> omega

/-- The objects that open a response are short. -/
theorem TerminalResponse.length_of_mem_opening {d : Details} {result : ResultCode}
    {info : Option UInt8} {o : Object} (h : o ∈ opening d result info) : o.value.length ≤ 255 := by
  let r : TerminalResponse := { details := d, result, info }
  have hfixed : r.fixedObjects = opening d result info := fixedObjects_eq_opening
  exact length_of_mem_fixedObjects (r := r) (hfixed ▸ h)

/-! ## Commands -/

/-- A step that responds fails for want of bytes just if an object is too long. -/
theorem Responds.encoding_iff {os : List Object} {v : Verdict} {st : Step}
    (h : Responds os v st) :
    (∃ f, st.result = .error (.encoding f)) ↔ ∃ o ∈ os, 255 < o.value.length := by
  constructor
  · rintro ⟨f, hf⟩
    by_contra hshort
    simp only [not_exists, not_and, Nat.not_lt] at hshort
    have hresult := (h.short hshort).2.2
    rw [hf] at hresult
    cases v <;> cases hresult
  · rintro ⟨o, ho, hlong⟩
    exact ⟨_, (h.long o ho hlong).2.2⟩

/-- The three objects that open a response are not too long. -/
theorem Responds.result_ne_encoding {d : Details} {result : ResultCode} {v : Verdict}
    {st : Step}
    (h : Responds (TerminalResponse.opening d result none) v st) :
    ¬∃ f, st.result = .error (.encoding f) := by
  rw [h.encoding_iff]
  rintro ⟨o, ho, hlong⟩
  exact absurd (TerminalResponse.length_of_mem_opening ho) (Nat.not_le.2 hlong)

namespace Engine

open Command

variable {language : String} {s : Slots} {c : Command} {r : Reply} {v : Verdict}

/-- Of the objects of an answer, only the language may be too long. -/
theorem exists_long_answer_iff {result : ResultCode} :
    (∃ o ∈ TerminalResponse.opening c.details result none ++ languageObjects language c,
        255 < o.value.length) ↔
      c.type? = some .provideLocalInformation ∧ c.details.qualifier = 0x04 ∧
        255 < (utf8 language).length := by
  rw [languageObjects]
  constructor
  · rintro ⟨o, ho, hlong⟩
    rcases List.mem_append.1 ho with hopening | hlanguage
    · exact absurd (TerminalResponse.length_of_mem_opening hopening) (Nat.not_le.2 hlong)
    · split at hlanguage
      · next hasked =>
        rw [List.mem_singleton.1 hlanguage] at hlong
        exact ⟨hasked.1, hasked.2, hlong⟩
      · cases hlanguage
  · rintro ⟨type, qualifier, hlong⟩
    rw [if_pos ⟨type, qualifier⟩]
    exact ⟨_, List.mem_append_right _ List.mem_cons_self, hlong⟩

/-- On a command, the fault is there only if the card asks for a language that is too
    long. -/
theorem tooLong_of_encoding_command {reading : ResultCode} {f : EncodingFault}
    (h : (step language s (.command c reading) v).result = .error (.encoding f)) :
    TooLong language s (.command c reading) := by
  obtain ⟨course, hcourse⟩ := exists_takes c reading
  have hcomes : course.Comes language s c v (step language s (.command c reading) v) :=
    comes_of_takes hcourse
  cases hcourse with
  | refused => exact absurd ⟨f, h⟩ hcomes.1.result_ne_encoding
  | unknown | unused =>
    rw [show step language s (.command c .ok) v = _ from hcomes] at h
    cases h
  | answered | beyond =>
    obtain ⟨type, qualifier, long⟩ := exists_long_answer_iff.1 (hcomes.1.encoding_iff.1 ⟨f, h⟩)
    exact .language type qualifier long
  | acknowledged => exact absurd ⟨f, h⟩ hcomes.2.2.2.result_ne_encoding
  | awaiting =>
    rw [hcomes.2.2.2.2.2] at h
    cases h

/-- A language that is too long leaves no trace. -/
theorem isUnencoded_command (type : c.type? = some .provideLocalInformation)
    (qualifier : c.details.qualifier = 0x04) (long : 255 < (utf8 language).length) :
    (step language s (.command c .ok) v).IsUnencoded s := by
  obtain ⟨hresponds, hevents, hslots⟩ := comes_of_asksLanguage language s v ⟨type, qualifier⟩
  obtain ⟨hattempted, hsent, hresult⟩ :=
    hresponds.long _ (List.mem_append_right _ List.mem_cons_self) long
  exact ⟨⟨_, hresult⟩, hattempted, hsent, hevents, hslots⟩

/-! ## Replies -/

/-- A reply that is carried and does not fit leaves no trace. -/
theorem isUnencoded_reply (hc : IsCarried s r) (hfits : ¬(dispatch language s r).Fits) :
    (step language s (.reply r) v).IsUnencoded s := by
  cases hd : (dispatch language s r).request with
  | error f =>
    rw [step_reply_of_error hc hd]
    exact ⟨⟨f, rfl⟩, rfl, rfl, rfl, rfl⟩
  | ok q => exact absurd (Dispatch.exists_request_iff.1 ⟨q, hd⟩) hfits

/-- On a reply, the fault is there only if it is carried and does not fit. -/
theorem isCarried_of_encoding_reply {f : EncodingFault}
    (h : (step language s (.reply r) v).result = .error (.encoding f)) :
    IsCarried s r ∧ ¬(dispatch language s r).Fits := by
  rcases reply_cases language s r with hc | ⟨f', hc, hf'⟩ | ⟨q, hc, hq⟩
  · rw [step_reply_of_not_isCarried hc] at h
    cases h
  · refine ⟨hc, fun hfits => ?_⟩
    obtain ⟨q, hq⟩ := Dispatch.exists_request_iff.2 hfits
    cases hq.symm.trans hf'
  · cases v with
    | accepted =>
      rw [step_reply_accepted hc hq] at h
      cases h
    | refused reason =>
      rw [step_reply_refused hc hq] at h
      cases h

/-- Of what a reply adds to a response, only a text may be too long. -/
theorem tooLong_of_adds {o : Object} (waits : s.outstanding = some c)
    (same : c.details.same r.details = true) (h : Adds c r o) (hlong : 255 < o.value.length) :
    TooLong language s (.reply r) := by
  cases h with
  | item | yesNo | waited => exact absurd hlong (by simp)
  | text did type question result wants =>
    have hresult : r.result.isSuccess = true ∨ r.result = .launchBrowserError := by
      rcases isPositive_iff.1 did with hsuccess | hhelp | hbrowser
      · exact .inl hsuccess
      · exact absurd hhelp result
      · exact .inr hbrowser
    exact .text waits (Details.same_iff.1 same) type question hresult
      ((Input.isTooLong_iff wants).2 hlong)

/-- A reply without what the user did, to a menu or a list of events, adds nothing to
    its response. -/
theorem fits_replyResponse (hp : ¬isPositive r.result = true) (hr : ¬r.IsDirect) :
    (replyResponse language s r).Fits := by
  have htype : (replyResponse language s r).details.type? = r.details.type? := type?_replyDetails
  have hdata : (replyResponse language s r).data = none := if_neg hp
  refine TerminalResponse.fits_iff.2 fun o ho => ?_
  cases ho with
  | item h | text h | yesNo h | language h => cases hdata.symm.trans h
  | waited _ type | asked _ type =>
    rw [htype] at type
    exact absurd (by simp [Reply.IsDirect, type]) hr

/-- A reply that is carried and does not fit is about something too long. -/
theorem tooLong_of_not_fits (hs : Sound s) (hc : IsCarried s r)
    (hfits : ¬(dispatch language s r).Fits) : TooLong language s (.reply r) := by
  by_cases hr : r.IsDirect
  · have hawaits := hc.timely
    rw [isTimely_of_isDirect hr] at hawaits
    obtain ⟨c, waits, hsame⟩ := awaits_iff.1 hawaits
    have same : c.details.same r.details = true := Details.same_iff.2 hsame
    rw [dispatch_of_isDirect hr] at hfits
    split at hfits
    · exact absurd trivial hfits
    · -- The wait is for no command that asks for the language, so that a text is left.
      obtain ⟨o, ho, hlong⟩ : ∃ o, (replyResponse language s r).Closes o ∧ 255 < o.value.length := by
        by_contra hshort
        simp only [not_exists, not_and, Nat.not_lt] at hshort
        exact hfits (TerminalResponse.fits_iff.2 hshort)
      exact tooLong_of_adds waits same ((closes_replyResponse_iff waits same hs).1 ho) hlong
  · rw [dispatch] at hfits
    split at hfits
    · next hp =>
      split at hfits
      · exact absurd trivial hfits
      · next type =>
        exact .report type (isPositive_iff.1 hp) (Dispatch.not_fits_report_iff.1 hfits)
      · exact absurd trivial hfits
      · next hmenu hevents _ => exact absurd ⟨hmenu, hevents⟩ hr
    · next hp => exact absurd (fits_replyResponse hp hr) hfits

/-- What is too long in a reply leaves no trace. -/
theorem isUnencoded_of_tooLong (hs : Sound s) {m : Message} (h : TooLong language s m) :
    (step language s m v).IsUnencoded s := by
  cases h with
  | language type qualifier long => exact isUnencoded_command type qualifier long
  | @text c r waits same type question result long =>
    have hsame : c.details.same r.details = true := Details.same_iff.2 same
    have hp : isPositive r.result = true :=
      isPositive_iff.2 (result.imp_right .inr)
    have hhelp : r.result ≠ .helpRequired := by
      rintro h
      rw [h] at result
      revert result
      decide
    have hr : r.IsDirect := by
      rcases type with type | type <;> exact isDirect_of_same (by simp [type]) (by simp [type]) hsame
    have hc : IsCarried s r := isCarried_of_isDirect waits hsame hr (isPassedOn_iff.2 (.inl hp))
    refine isUnencoded_reply hc fun hfits => ?_
    have hcall : ¬(isPositive r.result = true ∧ r.details.type? = some .setUpCall) := by
      rw [type?_of_same hsame]
      rcases type with type | type <;> simp [type]
    rw [dispatch_of_isDirect hr, if_neg hcall] at hfits
    obtain ⟨coding, wants⟩ : ∃ coding, c.question.Wants coding := ⟨_, Input.wants_iff.2 rfl⟩
    have hcloses : (replyResponse language s r).Closes _ :=
      (closes_replyResponse_iff waits hsame hs).2 (.text hp type question hhelp wants)
    exact absurd (TerminalResponse.fits_iff.1 hfits _ hcloses)
      (Nat.not_le.2 ((Input.isTooLong_iff wants).1 long))
  | @report r type result long =>
    have hp : isPositive r.result = true := isPositive_iff.2 result
    have hc : IsCarried s r :=
      { timely := by rw [isTimely, type]
        passedOn := isPassedOn_iff.2 (.inl hp)
        menu := fun hlacks => by cases type.symm.trans hlacks.2.1 }
    refine isUnencoded_reply hc ?_
    rw [dispatch, if_pos hp, type]
    exact Dispatch.not_fits_report_iff.2 long

/-! ## Runs -/

/-- After any run, and whatever the link does, a step fails for want of bytes just if
    its message is about a language, a text or the report of an event that is too long;
    then it leaves no other trace. -/
theorem encoding_fault_iff_tooLong (language : String) (l : List (Message × Verdict)) (m : Message)
    (v : Verdict) :
    let s := slotsAfter language {} l
    ((∃ f, (step language s m v).result = .error (.encoding f)) ↔ TooLong language s m) ∧
      (TooLong language s m → (step language s m v).IsUnencoded s) := by
  intro s
  have hs : Sound s := sound_slotsAfter l
  refine ⟨⟨?_, fun h => (isUnencoded_of_tooLong hs h).fault⟩, isUnencoded_of_tooLong hs⟩
  rintro ⟨f, hf⟩
  cases m with
  | command c reading => exact tooLong_of_encoding_command hf
  | unreadable reading =>
    rw [step, react, acknowledge_unreadable] at hf
    cases v <;> cases hf
  | reply r =>
    obtain ⟨hc, hfits⟩ := isCarried_of_encoding_reply hf
    exact tooLong_of_not_fits hs hc hfits
  | sessionEnd => cases hf
  | refreshed outcome => cases hf
  | cardAbsent => cases hf

end Engine

end CardToolkit
