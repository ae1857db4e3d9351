import CardToolkit.Proofs.Engine.Correlation
import CardToolkit.Proofs.Engine.Course

/-!
# Where the language shows

The language of the terminal is at hand for every response that the engine sends,
and only one of them tells it: the answer to the question for it, which the card
puts in a command that could be read (`Command.AsksLanguage`). No reply of the host
has that answer, as a command that waits is never this question, and neither has the
answer to a command that could not be read, which has another qualifier.

Two engines that differ in the language alone, and get the same messages over links
that do the same, are thus told apart by the answers to this question, and by nothing
else: in these, all is the same but the object of the language (`SameButLanguage`).

* `TerminalResponse.respond_congr`: a response that does not tell the language is
  sent in the same bytes;
* `react_congr`: the reaction to any message but the question is the same;
* `slotsAfter_congr`: so are the slots after any run;
* `language_shows_when_asked_for`: each step of two runs.
-/

namespace CardToolkit

/-- The card asks for the language. -/
structure Command.AsksLanguage (c : Command) : Prop where
  type : c.type? = some .provideLocalInformation
  qualifier : c.details.qualifier = 0x04

/-- In this message the card asks for the language, and can be read. -/
def Message.AsksLanguage (m : Message) : Prop := ∃ c, m = .command c .ok ∧ c.AsksLanguage

/-- The requests are terminal responses with the same objects, up to the last one,
    which is the language: there they have each their own. -/
inductive SameButLanguage (language₁ language₂ : String) : Request → Request → Prop
  | mk {front : List Object} {bs₁ bs₂ : List UInt8}
    (read₁ : Object.readAll bs₁ = some (front ++ [⟨0x2D, Text.utf8 language₁⟩]))
    (read₂ : Object.readAll bs₂ = some (front ++ [⟨0x2D, Text.utf8 language₂⟩])) :
    SameButLanguage language₁ language₂ (.terminalResponse (Hex.encode bs₁))
      (.terminalResponse (Hex.encode bs₂))

/-- The steps of one message and one verdict of the link, by engines that differ in
    the language: this is all that the language makes of it. -/
structure AgreeUpToLanguage (language₁ language₂ : String) (m : Message) (v : Verdict)
    (st₁ st₂ : Step) : Prop where
  slots : st₁.slots = st₂.slots
  events : st₁.events = st₂.events
  /-- On all messages but the question, the requests and the result are the same
      as well. -/
  same : ¬m.AsksLanguage → st₁ = st₂
  /-- On the question, each step responds with its own language behind the same
      objects. -/
  responds : ∀ c, m = .command c .ok → c.AsksLanguage →
    Responds (TerminalResponse.opening c.details .ok none ++ [⟨0x2D, Text.utf8 language₁⟩]) v st₁ ∧
      Responds (TerminalResponse.opening c.details .ok none ++ [⟨0x2D, Text.utf8 language₂⟩]) v st₂
  /-- If the links take both responses, all of them is the same but the language. -/
  sent : m.AsksLanguage → ∀ q₁ q₂, st₁.sent = some q₁ → st₂.sent = some q₂ →
    SameButLanguage language₁ language₂ q₁ q₂

/-- What a step that responds has sent are the bytes of its objects. -/
theorem Responds.exists_readAll {os : List Object} {v : Verdict} {st : Step} {q : Request}
    (h : Responds os v st) (hq : st.sent = some q) :
    ∃ bs, Object.readAll bs = some os ∧ q = .terminalResponse (Hex.encode bs) := by
  by_cases hshort : ∀ o ∈ os, o.value.length ≤ 255
  · obtain ⟨⟨bs, hread, hattempted⟩, hsent, -⟩ := h.short hshort
    rw [hq, hattempted] at hsent
    split at hsent
    · exact ⟨bs, hread, Option.some.inj hsent⟩
    · cases hsent
  · simp only [not_forall, Nat.not_le] at hshort
    obtain ⟨o, ho, hlong⟩ := hshort
    rw [(h.long o ho hlong).2.1] at hq
    cases hq

/-! ## Responses -/

namespace TerminalResponse

/-- The response is a good answer to the question for the language. -/
structure TellsLanguage (r : TerminalResponse) : Prop where
  type : r.details.type? = some .provideLocalInformation
  qualifier : r.details.qualifier = 0x04
  result : r.result = .ok

variable {r : TerminalResponse}

/-- What follows from a command without an answer of the host is the same in every
    language, unless it is the language. -/
theorem derived_congr (h : ¬r.TellsLanguage) (language₁ language₂ : Option String) :
    derived { r with language := language₁ } = derived { r with language := language₂ } := by
  rw [derived, derived]
  dsimp only
  split
  · rfl
  · next type =>
    have hnot : ¬(r.details.qualifier = languageSetting ∧ r.result = .ok) :=
      fun h' => h ⟨type, h'.1, h'.2⟩
    rw [if_neg hnot, if_neg hnot]
  · rfl

/-- A response that does not tell the language is sent in the same bytes, or has the
    same fault, in every language. -/
theorem respond_congr (h : ¬r.TellsLanguage) (language₁ language₂ : Option String) :
    Engine.respond { r with language := language₁ } =
      Engine.respond { r with language := language₂ } := by
  have hlast : last { r with language := language₁ } = last { r with language := language₂ } := by
    rw [last, last]
    cases r.data with
    | some data => rfl
    | none => exact derived_congr h language₁ language₂
  rw [Engine.respond, Engine.respond, encode, encode, objects, objects, hlast]

end TerminalResponse

namespace Engine

open Command

variable {language₁ language₂ : String} {s : Slots} {c : Command} {r : Reply} {m : Message}

/-! ## Reactions -/

/-- An acknowledgement that does not tell the language is the same in every language. -/
theorem acknowledge_congr {d : Details} {result : ResultCode}
    (h : ¬(d.type? = some .provideLocalInformation ∧ d.qualifier = 0x04 ∧ result = .ok)) :
    acknowledge language₁ d result = acknowledge language₂ d result :=
  TerminalResponse.respond_congr (r := { details := d, result }) (fun h' => h ⟨h'.1, h'.2, h'.3⟩)
    (some language₁) (some language₂)

/-- A command of a type that may wait does not ask for anything about the terminal. -/
theorem type?_ne_of_waiting (h : ∃ t ∈ waitingTypes, c.type? = some t) :
    c.type? ≠ some .provideLocalInformation := by
  obtain ⟨t, ht, hc⟩ := h
  rw [hc]
  rintro ⟨⟩
  exact absurd ht (by decide)

/-- The reaction to a command that could be read and is not the question. -/
theorem onCommand_congr (h : ¬c.AsksLanguage) :
    onCommand language₁ s c = onCommand language₂ s c := by
  by_cases hc : c.IsShown
  · obtain ⟨ack, hack⟩ := handling_of_isShown hc
    have hshown : c.shown.type? ≠ some .provideLocalInformation :=
      type?_ne_of_waiting hc.type?_shown
    have hsame (result : ResultCode) : acknowledge language₁ c.shown.details result =
        acknowledge language₂ c.shown.details result := acknowledge_congr fun h' => hshown h'.1
    rw [onCommand, onCommand, hack]
    cases ack with
    | none => rfl
    | some result =>
      dsimp only
      rw [Option.map_some, Option.map_some, hsame]
  · rw [onCommand, onCommand]
    rcases handling_of_not_isShown hc with hdrop | ⟨result, hanswer⟩
    · rw [hdrop]
    · rw [hanswer]
      dsimp only
      rw [acknowledge_congr fun h' => h ⟨h'.1, h'.2.1⟩]

/-- No timely reply is about the terminal: it is about the menu or events, or to the
    command that waits. -/
theorem type?_ne_of_isTimely (hs : Sound s) (h : isTimely s r = true) :
    r.details.type? ≠ some .provideLocalInformation := by
  rw [isTimely] at h
  split at h
  · next type => rw [type]; decide
  · next type => rw [type]; decide
  · obtain ⟨c, hc, hsame⟩ := awaits_iff.1 h
    rw [← Details.type?_congr hsame]
    exact type?_ne_of_waiting (hs.outstanding_type c hc)

/-- A timely reply is carried in the same request. -/
theorem request_dispatch_congr (hs : Sound s) (h : isTimely s r = true) :
    (dispatch language₁ s r).request = (dispatch language₂ s r).request := by
  have hnot : ¬(replyResponse language₁ s r).TellsLanguage := fun h' =>
    type?_ne_of_isTimely hs h (type?_replyDetails.symm.trans h'.type)
  have hresponse : (Dispatch.response (replyResponse language₁ s r)).request =
      (Dispatch.response (replyResponse language₂ s r)).request :=
    TerminalResponse.respond_congr hnot (some language₁) (some language₂)
  rw [dispatch, dispatch]
  split
  · split
    · rfl
    · rfl
    · rfl
    · exact hresponse
  · exact hresponse

/-- The reaction to a reply. -/
theorem onReply_congr (hs : Sound s) : onReply language₁ s r = onReply language₂ s r := by
  by_cases hc : IsCarried s r
  · rw [onReply_of_isCarried hc, onReply_of_isCarried hc, request_dispatch_congr hs hc.timely]
  · rw [onReply_of_not_isCarried hc, onReply_of_not_isCarried hc]

/-- The reaction to a message that is not the question is the same in every language. -/
theorem react_congr (hs : Sound s) (h : ¬m.AsksLanguage) :
    react language₁ s m = react language₂ s m := by
  cases m with
  | command c reading =>
    rw [react, react]
    by_cases hr : reading = .ok
    · subst hr
      rw [if_pos rfl, if_pos rfl]
      exact onCommand_congr fun hasks => h ⟨c, rfl, hasks⟩
    · rw [if_neg hr, if_neg hr, acknowledge_congr fun h' => hr h'.2.2]
  | unreadable reading =>
    -- The qualifier under which this is answered is not that of the question.
    rw [react, react, acknowledge_unreadable, acknowledge_unreadable]
  | reply r => exact onReply_congr hs
  | _ => rfl

/-! ## Steps and runs -/

/-- On the question, a step responds with the language, and nothing else comes of it. -/
theorem comes_of_asksLanguage (language : String) (s : Slots) (v : Verdict) (h : c.AsksLanguage) :
    Responds (TerminalResponse.opening c.details .ok none ++ [⟨0x2D, Text.utf8 language⟩]) v
        (step language s (.command c .ok) v) ∧
      (step language s (.command c .ok) v).events = [] ∧
      (step language s (.command c .ok) v).slots = s := by
  have hcomes : (Course.answered .ok).Comes language s c v (step language s (.command c .ok) v) :=
    comes_of_takes (.answered h.type (by decide))
  rwa [Course.Comes, languageObjects, if_pos ⟨h.type, h.qualifier⟩] at hcomes

/-- A step leaves the same slots in every language. -/
theorem slots_step_congr (hs : Sound s) (m : Message) (v : Verdict) :
    (step language₁ s m v).slots = (step language₂ s m v).slots := by
  by_cases hasks : m.AsksLanguage
  · obtain ⟨c, rfl, hc⟩ := hasks
    rw [(comes_of_asksLanguage _ _ v hc).2.2, (comes_of_asksLanguage _ _ v hc).2.2]
  · rw [step, step, react_congr hs hasks]

/-- A run leaves the same slots in every language. -/
theorem slotsAfter_congr (hs : Sound s) (l : List (Message × Verdict)) :
    slotsAfter language₁ s l = slotsAfter language₂ s l := by
  induction l generalizing s with
  | nil => rfl
  | cons p l ih =>
    obtain ⟨m, v⟩ := p
    have hslots : (step language₁ s m v).slots = (step language₂ s m v).slots :=
      slots_step_congr hs m v
    rw [slotsAfter, slotsAfter, ← hslots]
    exact ih (hs.step m v)

/-- Two engines that were started with languages of any kind, and then got the same
    messages over links that did the same, remember the same, and the next message
    makes the same of both, the question for the language apart: to this each answers
    with its own language, and in all else they answer alike. -/
theorem language_shows_when_asked_for (language₁ language₂ : String)
    (l : List (Message × Verdict)) (m : Message) (v : Verdict) :
    slotsAfter language₁ {} l = slotsAfter language₂ {} l ∧
      AgreeUpToLanguage language₁ language₂ m v (step language₁ (slotsAfter language₁ {} l) m v)
        (step language₂ (slotsAfter language₂ {} l) m v) := by
  have hslots : slotsAfter language₁ {} l = slotsAfter language₂ {} l :=
    slotsAfter_congr sound_empty l
  have hs : Sound (slotsAfter language₂ {} l) := sound_slotsAfter l
  rw [hslots]
  refine ⟨rfl, slots_step_congr hs m v, ?_, ?_, ?_, ?_⟩
  · rw [events_step, events_step]
  · intro hnot
    rw [step, step, react_congr hs hnot]
  · intro c hm hc
    subst hm
    exact ⟨(comes_of_asksLanguage _ _ v hc).1, (comes_of_asksLanguage _ _ v hc).1⟩
  · rintro ⟨c, rfl, hc⟩ q₁ q₂ hq₁ hq₂
    obtain ⟨bs₁, hread₁, rfl⟩ := (comes_of_asksLanguage _ _ v hc).1.exists_readAll hq₁
    obtain ⟨bs₂, hread₂, rfl⟩ := (comes_of_asksLanguage _ _ v hc).1.exists_readAll hq₂
    exact .mk hread₁ hread₂

end Engine

end CardToolkit
