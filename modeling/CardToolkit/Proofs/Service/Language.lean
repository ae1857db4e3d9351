import CardToolkit.Proofs.Engine.Language
import CardToolkit.Proofs.Engine.Limits
import CardToolkit.Proofs.Service.Refinement

/-!
# Telling the card the language

The card may ask for the language of the terminal, and is told the one that the
service was started with, whatever was done to the service before. What is wrong with
a configuration is told when a service is started (`Config.refusal`), but there nobody
looks at how long the language is. One that has no room in an object is taken as well,
and is never told: the engine finds the fault, nothing is sent, and no caller hears of
it.

* `LanguageReport`: what is sent for the question;
* `Engine.handle_asksLanguage`: the engine sends this, and nothing else comes of it;
* `Service.language_reported_unless_long`: so does a service, under any schedule;
* `Service.long_language_unreported`: a service that was started, and tells nothing.
-/

namespace CardToolkit

/-- What is sent when the card asks for the language: a terminal response that closes with
    it, or nothing if it is too long. -/
inductive LanguageReport (language : String) (d : Details) : List Request → Prop
  | told {bs : List UInt8} (short : (Text.utf8 language).length ≤ 255)
    (read : Object.readAll bs =
      some (TerminalResponse.opening d .ok none ++ [⟨0x2D, Text.utf8 language⟩])) :
    LanguageReport language d [.terminalResponse (Hex.encode bs)]
  | untold (long : 255 < (Text.utf8 language).length) : LanguageReport language d []

/-- The engine with more in the log of its link. -/
def Engine.logged (e : Engine) (sent : List Request) : Engine :=
  { e with link := { e.link with log := e.link.log ++ sent } }

/-! ## The engine -/

/-- An engine whose link is up answers the question for the language, and nothing else
    comes of it. -/
theorem Engine.handle_asksLanguage {e : Engine} {c : Command} (h : c.AsksLanguage)
    (hup : e.link.up = true) :
    ∃ sent, LanguageReport e.language c.details sent ∧
      (e.handle (.command c .ok)).1 = e.logged sent ∧ (e.handle (.command c .ok)).2.events = [] := by
  have hverdict : e.link.verdict = .accepted := if_pos hup
  have hstep : (e.handle (.command c .ok)).2 =
      step e.language e.slots (.command c .ok) .accepted := by rw [handle, hverdict]
  obtain ⟨hresponds, hevents, hslots⟩ :=
    comes_of_asksLanguage e.language e.slots .accepted h
  rw [← hstep] at hresponds hevents hslots
  have hengine : (e.handle (.command c .ok)).1 =
      { e.logged (e.handle (.command c .ok)).2.sent.toList with
        slots := (e.handle (.command c .ok)).2.slots } := rfl
  rw [hengine, hslots]
  -- Of the four objects only the language may have no room.
  rcases Nat.lt_or_ge 255 (Text.utf8 e.language).length with hlong | hshort
  · have hsent := (hresponds.long _ (List.mem_append_right _ List.mem_cons_self) hlong).2.1
    rw [hsent]
    exact ⟨[], .untold hlong, rfl, hevents⟩
  · have hobjects : ∀ o ∈ TerminalResponse.opening c.details .ok none ++
        [⟨0x2D, Text.utf8 e.language⟩], o.value.length ≤ 255 := by
      intro o ho
      rcases List.mem_append.1 ho with hopening | hlanguage
      · exact TerminalResponse.length_of_mem_opening hopening
      · rw [List.mem_singleton.1 hlanguage]
        exact hshort
    obtain ⟨⟨bs, hread, hattempted⟩, hsent, -⟩ := hresponds.short hobjects
    rw [if_pos rfl, hattempted] at hsent
    rw [hsent]
    exact ⟨_, .told hshort hread, rfl, hevents⟩

namespace Record

/-- A call changes neither the language of an engine nor whether its link is up. -/
theorem call_frame (b : Record) (c : Call) :
    (b.call c).engine.language = b.engine.language ∧
      (b.call c).engine.link.up = b.engine.link.up := by
  rcases c.letter_cases with ⟨m, hm⟩ | ⟨caller, hq⟩
  · rw [call_of_message hm]
    exact ⟨rfl, rfl⟩
  · rw [call_of_question hq]
    exact ⟨rfl, rfl⟩

/-- The language of an engine stays. -/
theorem language_after (b : Record) (acts : List Act) :
    (b.after acts).engine.language = b.engine.language := by
  induction acts generalizing b with
  | nil => rfl
  | cons a acts ih =>
    refine (ih (b.act a)).trans ?_
    cases a with
    | call c => exact (b.call_frame c).1
    | link up => rfl

/-- Calls do not put the link up or down. -/
theorem up_after_calls (b : Record) (calls : List Call) :
    (b.after (calls.map .call)).engine.link.up = b.engine.link.up := by
  induction calls generalizing b with
  | nil => rfl
  | cons c calls ih => exact (ih (b.call c)).trans (b.call_frame c).2

/-- The question for the language, put to an engine on its own. -/
theorem call_asksLanguage {b : Record} {c : Command} {reading : Option ResultCode}
    (h : c.AsksLanguage) (hreading : reading.getD .ok = .ok) (hup : b.engine.link.up = true) :
    ∃ sent, LanguageReport b.engine.language c.details sent ∧
      b.call (.command c reading) = { b with engine := b.engine.logged sent } := by
  obtain ⟨sent, hreport, hengine, hevents⟩ := Engine.handle_asksLanguage h hup
  have hletter : (Call.command c reading).letter = .message (.command c .ok) := by
    rw [Call.letter, hreading]
  refine ⟨sent, hreport, ?_⟩
  rw [call_of_message hletter, handle, hengine, hevents, List.append_nil]

end Record

/-! ## The service -/

theorem Config.language_alone (c : Config) (link : Link) :
    (c.alone link).engine.language = c.language := by
  rw [alone]
  cases c.reportRunning <;> rfl

namespace Service

variable {c : Config} {link : Link} {s₀ s : Service} {acts : List Act} {raised : List Event}

/-- The link is up just if it will be once the calls that wait are done. -/
theorem up_after (hs : start c link = .ok s₀) (h : Reaches s₀ acts raised s) :
    ((c.alone link).after acts).engine.link.up = s.engine.link.up := by
  obtain ⟨done, waiting, hrefines⟩ := exists_refines hs h
  have hready : s.readyEngine.link.up = s.engine.link.up := by
    rw [readyEngine]
    cases s.reportDue <;> rfl
  rw [hrefines.acts, Record.after, List.foldl_append, ← hready, hrefines.engine]
  exact Record.up_after_calls _ waiting

/-- Under any schedule, what is sent for the question for the language enters the log, and
    nothing else comes of it. -/
theorem exists_languageReport (hs : start c link = .ok s₀) (h : Reaches s₀ acts raised s)
    (hup : s.engine.link.up = true) {command : Command} {reading : Option ResultCode}
    (hasks : command.AsksLanguage) (hreading : reading.getD .ok = .ok) :
    let before := (c.alone link).after acts
    ∃ sent, LanguageReport c.language command.details sent ∧
      ∀ raised' t, Reaches s₀ (acts ++ [.call (.command command reading)]) raised' t → t.Calm →
        HasDone t { before with engine := before.engine.logged sent } raised' := by
  intro before
  obtain ⟨sent, hreport, hcall⟩ :=
    Record.call_asksLanguage hasks hreading ((up_after hs h).trans hup)
  rw [Record.language_after, Config.language_alone] at hreport
  refine ⟨sent, hreport, fun raised' t ht hcalm => ?_⟩
  have hdone := hasDone_of_calm hs ht hcalm
  rw [Record.after_append_singleton, Record.act, hcall] at hdone
  exact hdone

/-- A card that asks a service for the language, which may be in any state while its link
    is up, is told the one that the service was started with, in one terminal response;
    but if this language is longer than an object has room for, nothing is sent. The
    call is accepted in either case, and nothing else comes of it. -/
theorem language_reported_unless_long (hs : start c link = .ok s₀) (h : Reaches s₀ acts raised s)
    (hup : s.engine.link.up = true) {command : Command} {reading : Option ResultCode}
    (hasks : command.AsksLanguage) (hreading : reading.getD .ok = .ok) :
    let asked := acts ++ [.call (.command command reading)]
    let before := (c.alone link).after acts
    (s.call (.command command reading)).2 = .ok () ∧
      (∃ raised', Reaches s₀ asked raised' (s.call (.command command reading)).1.settle ∧
        (s.call (.command command reading)).1.settle.Calm) ∧
      ∃ sent, LanguageReport c.language command.details sent ∧
        ∀ raised' t, Reaches s₀ asked raised' t → t.Calm →
          HasDone t { before with engine := before.engine.logged sent } raised' := by
  intro asked before
  obtain ⟨raised', hcalled, haccepted⟩ := exists_reaches_call hs h (.command command reading)
  obtain ⟨raised'', hsettled, hcalm, -⟩ := exists_reaches_settle hs hcalled
  exact ⟨haccepted, ⟨_, hsettled, hcalm⟩, exists_languageReport hs h hup hasks hreading⟩

/-- A service in German, which is asked for the language while the end of a session still
    waits. -/
theorem language_reported_of_german :
    let command : Command := { details := .ofType 1 .provideLocalInformation 0x04 }
    ∃ s₀ s raised, start { language := "de" } {} = .ok s₀ ∧
      Reaches s₀ [.call .sessionEnd] raised s ∧ s.engine.link.up = true ∧ command.AsksLanguage ∧
      (s.call (.command command none)).1.settle.engine.link.log =
        [.serviceRunning, .terminalResponse "8103012604020282818301002D026465"] := by
  intro command
  let s₀ : Service :=
    { engine := { language := "de" }, feed := .withRoom 64, mailboxCapacity := 32
      reportDue := true }
  have hs : start { language := "de" } {} = .ok s₀ := start_eq_ok_iff.2 ⟨by decide, rfl⟩
  have hstarted : Reaches s₀ [] [] s₀ := .start
  have hwaits := hstarted.call .service rfl rfl .sessionEnd
  have hasks : command.AsksLanguage := ⟨by decide, rfl⟩
  have hreading : (none : Option ResultCode).getD .ok = .ok := rfl
  obtain ⟨-, ⟨raised, hsettled, hcalm⟩, sent, hreport, hdone⟩ :=
    language_reported_unless_long hs hwaits rfl hasks hreading
  refine ⟨s₀, _, _, hs, hwaits, rfl, hasks, ?_⟩
  rw [(hdone raised _ hsettled hcalm).engine]
  cases hreport with
  | told short read =>
    rw [(Object.readAll_eq_some_iff.1 read).2]
    decide
  | untold long => exact absurd long (by decide)

/-- A service that was started with a language of 256 letters is asked for it, and sends
    nothing. -/
theorem long_language_unreported :
    let c : Config := { language := String.ofList (List.replicate 256 'a') }
    let command : Command := { details := .ofType 1 .provideLocalInformation 0x04 }
    ∃ s₀, start c {} = .ok s₀ ∧ s₀.engine.link.up = true ∧ command.AsksLanguage ∧
      (s₀.call (.command command none)).2 = .ok () ∧
      (s₀.call (.command command none)).1.settle.Calm ∧
      (s₀.call (.command command none)).1.settle.engine.link.log = [.serviceRunning] := by
  intro c command
  -- The language is some text in ASCII, so that the configuration is not refused.
  have hletters : c.language.toList = List.replicate 256 'a' := String.toList_ofList
  have hempty : c.language ≠ "" := by
    intro h
    rw [h] at hletters
    cases hletters
  have hascii : Text.isAscii c.language = true := by
    rw [Text.isAscii, hletters, List.all_replicate]
    rfl
  have hlength : (Text.utf8 c.language).length = 256 := by
    rw [Text.length_utf8_of_isAscii hascii, hletters, List.length_replicate]
  have hrefusal : c.refusal = none := by
    rw [Config.refusal, if_neg (not_or.2 ⟨hempty, not_not_intro hascii⟩)]
    rfl
  have hs : start c {} = .ok _ := start_eq_ok_iff.2 ⟨hrefusal, rfl⟩
  have hasks : command.AsksLanguage := ⟨by decide, rfl⟩
  have hreading : (none : Option ResultCode).getD .ok = .ok := rfl
  obtain ⟨raised, hcalled, haccepted⟩ := exists_reaches_call hs .start (.command command none)
  obtain ⟨raised', hsettled, hcalm, -⟩ := exists_reaches_settle hs hcalled
  obtain ⟨sent, hreport, hdone⟩ := exists_languageReport hs .start rfl hasks hreading
  refine ⟨_, hs, rfl, hasks, haccepted, hcalm, ?_⟩
  rw [(hdone _ _ hsettled hcalm).engine]
  cases hreport with
  | told short => exact absurd short (by rw [hlength]; decide)
  | untold long => rfl

end Service

end CardToolkit
