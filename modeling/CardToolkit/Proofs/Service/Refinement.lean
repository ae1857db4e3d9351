import CardToolkit.Proofs.Service.Turns

/-!
# What a service does, its engine alone would do

Between a call and the turn in which the engine gets to it there may be any
number of other calls and turns, by whatever holder, and the mailbox may be full
or empty. None of this makes a difference: a service has done what an engine on
its own does to which the same calls are made at once (`Record`), but for the
calls that still wait, the last ones, whose letters are in the mailbox in order.

* `Record`: an engine on its own, with all that it has raised and answered;
* `Service.Reaches`: what a service may come to, under any schedule of calls and
  turns;
* `Service.Refines`: the service has done some of the calls, and the others wait;
* `Service.service_refines_engine`: this is so of all that a service may come to;
  once the engine has run, all calls are done.
-/

namespace CardToolkit

/-! ## An engine on its own -/

/-- What is done to a service from outside: it is called, or its link is put up or
    down. -/
inductive Act
  | call (call : Call)
  | link (up : Bool)

/-- An engine on its own, with all events that it has raised and all that callers
    were told. -/
structure Record where
  engine : Engine
  events : List Event := []
  answers : List (Nat × Correlation) := []

/-- The engine of a configuration on its own, which has told the modem that it is
    ready if it is to, whether or not the link took that. -/
def Config.alone (c : Config) (link : Link) : Record where
  engine :=
    let e : Engine := { language := c.language, link }
    if c.reportRunning then e.reportRunning.1 else e

/-- The capacities make no difference to the engine. -/
theorem Config.alone_congr {c c' : Config} (hlanguage : c'.language = c.language)
    (hreport : c'.reportRunning = c.reportRunning) (link : Link) :
    c'.alone link = c.alone link := by
  rw [alone, alone, hlanguage, hreport]

namespace Record

/-- The engine handles a message, whatever the result. -/
def handle (b : Record) (m : Message) : Record :=
  { b with engine := (b.engine.handle m).1, events := b.events ++ (b.engine.handle m).2.events }

/-- What one is told who asks what the engine remembers. -/
def told (b : Record) : Correlation where
  outstanding := b.engine.slots.outstanding.map Command.details
  menu := b.engine.slots.menu.map Command.details

/-- The engine is called. A command without a verdict could be read, and one that could
    not be read for no reason given was not understood. -/
def call (b : Record) : Call → Record
  | .command c reading => b.handle (.command c (reading.getD .ok))
  | .unreadable reading => b.handle (.unreadable (reading.getD .dataNotUnderstood))
  | .reply r => b.handle (.reply r)
  | .sessionEnd => b.handle .sessionEnd
  | .refreshed outcome => b.handle (.refreshed outcome)
  | .cardAbsent => b.handle .cardAbsent
  | .state caller => { b with answers := b.answers ++ [(caller, b.told)] }

/-- Something is done to the engine. -/
def act (b : Record) : Act → Record
  | .call c => b.call c
  | .link up => { b with engine := { b.engine with link := { b.engine.link with up } } }

/-- Several things are done to the engine, in order. -/
def after (b : Record) (acts : List Act) : Record := acts.foldl act b

theorem after_append_singleton (b : Record) (acts : List Act) (a : Act) :
    b.after (acts ++ [a]) = (b.after acts).act a := by
  rw [after, List.foldl_append]
  rfl

/-- The message of a letter is handled when the engine is called. -/
theorem call_of_message {c : Call} {m : Message} (h : c.letter = .message m) (b : Record) :
    b.call c = b.handle m := by
  cases c <;> cases h <;> rfl

/-- The question of a letter is answered when the engine is called. -/
theorem call_of_question {c : Call} {caller : Nat} (h : c.letter = .question caller) (b : Record) :
    b.call c = { b with answers := b.answers ++ [(caller, b.told)] } := by
  cases c <;> cases h
  rfl

end Record

/-- Who calls a service. -/
inductive Holder
  /-- The one who holds the service. -/
  | service
  /-- The one who holds a handle of this number. -/
  | handle (number : Nat)

namespace Service

/-- The holder may call the service. -/
def IsHeldBy (s : Service) : Holder → Prop
  | .service => s.held = true
  | .handle n => n < s.handles

/-- The first service may come to the second, when this is done to it and these
    events are raised, under any schedule: whoever calls needs room in the mailbox,
    and the link changes while the service is calm; the engine takes its turns at
    any time, handles are taken and dropped, and readers come and read. -/
inductive Reaches (s₀ : Service) : List Act → List Event → Service → Prop
  | start : Reaches s₀ [] [] s₀
  | call {acts raised s} (h : Reaches s₀ acts raised s) (holder : Holder) (held : s.IsHeldBy holder)
    (room : s.hasRoom = true) (c : Call) : Reaches s₀ (acts ++ [.call c]) raised (s.post c.letter)
  | link {acts raised s} (h : Reaches s₀ acts raised s) (calm : s.Calm) (up : Bool) :
    Reaches s₀ (acts ++ [.link up]) raised (s.setLink up)
  | turn {acts raised s} (h : Reaches s₀ acts raised s) :
    Reaches s₀ acts (raised ++ s.raising) s.turn
  | takeHandle {acts raised s} (h : Reaches s₀ acts raised s) : Reaches s₀ acts raised s.takeHandle
  | dropHandle {acts raised s} (h : Reaches s₀ acts raised s) : Reaches s₀ acts raised s.dropHandle
  | subscribe {acts raised s} (h : Reaches s₀ acts raised s) :
    Reaches s₀ acts raised s.subscribe.1
  | receive {acts raised s s'} (h : Reaches s₀ acts raised s) (reader : Nat) (told : Received)
    (read : s.receive reader = some (s', told)) : Reaches s₀ acts raised s'

/-- The service has done all that the engine has done on its own, and these events
    were raised. -/
structure HasDone (s : Service) (b : Record) (raised : List Event) : Prop where
  engine : s.engine = b.engine
  events : raised = b.events
  answers : s.answers = b.answers

/-- The engine once the report is made. -/
def readyEngine (s : Service) : Engine :=
  if s.reportDue then s.engine.reportRunning.1 else s.engine

theorem readyEngine_of_reported {s : Service} (hd : s.reportDue = false) :
    s.readyEngine = s.engine := by
  rw [readyEngine, hd]
  rfl

theorem readyEngine_of_due {s : Service} (hd : s.reportDue = true) :
    s.readyEngine = s.engine.reportRunning.1 :=
  if_pos hd

/-- Who reads the feed leaves all as it is but the readers. -/
theorem exists_readers_of_receive {s s' : Service} {reader : Nat} {told : Received}
    (h : s.receive reader = some (s', told)) : ∃ readers, s' = { s with readers } := by
  obtain ⟨place, -, ⟨⟩⟩ := Option.map_eq_some_iff.1 h
  exact ⟨_, rfl⟩

/-- Of what was done to the service, the engine has done a first part, as it would
    on its own, and the rest are calls that wait. -/
structure Refines (c : Config) (link : Link) (acts : List Act) (raised : List Event) (s : Service)
    (done : List Act) (waiting : List Call) : Prop where
  acts : acts = done ++ waiting.map .call
  mailbox : s.mailbox = waiting.map Call.letter
  engine : s.readyEngine = ((c.alone link).after done).engine
  events : raised = ((c.alone link).after done).events
  answers : s.answers = ((c.alone link).after done).answers
  /-- The report comes first. -/
  due : s.reportDue = true → done = []
  feed : s.feed = (Feed.withRoom c.eventCapacity).pushAll raised
  capacity : s.mailboxCapacity = c.mailboxCapacity
  room : s.mailbox.length ≤ c.mailboxCapacity
  running : s.running = true
  held : s.held = true

section

variable {c : Config} {link : Link} {s₀ s : Service} {acts done : List Act} {waiting : List Call}
  {raised : List Event}

/-! ## The start -/

/-- A service is started just if nothing is wrong with the configuration. -/
theorem start_eq_ok_iff :
    start c link = .ok s ↔
      c.refusal = none ∧
        s = { engine := { language := c.language, link }
              feed := .withRoom c.eventCapacity
              mailboxCapacity := c.mailboxCapacity
              reportDue := c.reportRunning } := by
  rw [start]
  cases c.refusal with
  | none =>
    constructor
    · rintro ⟨⟩
      exact ⟨rfl, rfl⟩
    · rintro ⟨-, rfl⟩
      rfl
  | some cause =>
    refine iff_of_false nofun ?_
    rintro ⟨⟨⟩, -⟩

/-- A configuration with which nothing is wrong has room for a letter. -/
theorem mailboxCapacity_pos (h : c.refusal = none) : 0 < c.mailboxCapacity := by
  rw [Config.refusal] at h
  refine Nat.pos_of_ne_zero fun hzero => ?_
  rw [if_pos hzero] at h
  split at h
  · cases h
  · split at h <;> cases h

/-- At first nothing was done, and nothing waits. -/
theorem refines_start (h : start c link = .ok s) : Refines c link [] [] s [] [] := by
  obtain ⟨-, rfl⟩ := start_eq_ok_iff.1 h
  exact {
    acts := rfl, mailbox := rfl, engine := rfl, events := rfl, answers := rfl
    due := fun _ => rfl
    feed := rfl, capacity := rfl
    room := Nat.zero_le _
    running := rfl, held := rfl }

/-! ## Each thing that may happen -/

/-- A call waits behind the others. -/
theorem Refines.call (h : Refines c link acts raised s done waiting) (hroom : s.hasRoom = true)
    (call : Call) :
    Refines c link (acts ++ [.call call]) raised (s.post call.letter) done (waiting ++ [call]) where
  acts := by rw [h.acts, List.map_append, List.append_assoc]; rfl
  mailbox := by rw [post, h.mailbox, List.map_append]; rfl
  engine := h.engine
  events := h.events
  answers := h.answers
  due := h.due
  feed := h.feed
  capacity := h.capacity
  room := by
    have hlt : s.mailbox.length < s.mailboxCapacity := of_decide_eq_true hroom
    rw [post, List.length_append, List.length_singleton, ← h.capacity]
    exact hlt
  running := h.running
  held := h.held

/-- Where nothing is left to do, no call waits. -/
theorem Refines.done_eq (h : Refines c link acts raised s done waiting) (hcalm : s.Calm) :
    waiting = [] ∧ done = acts := by
  obtain rfl : waiting = [] := by
    rw [← List.map_eq_nil_iff, ← h.mailbox]
    exact hcalm.empty
  exact ⟨rfl, by rw [h.acts, List.map_nil, List.append_nil]⟩

/-- Once the report was made, what the engine has done it has done as it would on
    its own. -/
theorem Refines.hasDone (h : Refines c link acts raised s done waiting) (hd : s.reportDue = false) :
    HasDone s ((c.alone link).after done) raised where
  engine := by rw [← h.engine, readyEngine_of_reported hd]
  events := h.events
  answers := h.answers

/-- A change of the link is done at once, as nothing waits. -/
theorem Refines.setLink (h : Refines c link acts raised s done waiting) (hcalm : s.Calm)
    (up : Bool) :
    Refines c link (acts ++ [.link up]) raised (s.setLink up) (acts ++ [.link up]) [] := by
  obtain ⟨rfl, rfl⟩ := h.done_eq hcalm
  have hready := (h.hasDone hcalm.reported).engine
  have hdue : (s.setLink up).reportDue = false := hcalm.reported
  have hafter := Record.after_append_singleton (c.alone link) done (.link up)
  exact {
    acts := (List.append_nil _).symm
    mailbox := h.mailbox
    engine := by
      rw [hafter, readyEngine_of_reported hdue, Record.act, ← hready]
      rfl
    events := by rw [hafter]; exact h.events
    answers := by rw [hafter]; exact h.answers
    due := fun hd => absurd (hd.symm.trans hdue) Bool.noConfusion
    feed := h.feed
    capacity := h.capacity
    room := h.room
    running := h.running
    held := h.held }

/-- The report is made. -/
theorem Refines.report (h : Refines c link acts raised s done waiting) (hd : s.reportDue = true) :
    Refines c link acts raised s.report done waiting := by
  rw [report_of_due hd]
  exact { h with
    engine := (readyEngine_of_due hd).symm.trans h.engine
    due := fun hdue => Bool.noConfusion hdue }

/-- The letter of a call is opened as the engine would be called on its own. -/
theorem HasDone.serve {b : Record} (h : HasDone s b raised) (call : Call) :
    HasDone (s.serve call.letter) (b.call call) (raised ++ call.letter.raises s.engine) := by
  rcases call.letter_cases with ⟨m, hm⟩ | ⟨caller, hq⟩
  · rw [hm, Record.call_of_message hm, Record.handle, ← h.engine, ← h.events]
    exact ⟨rfl, rfl, h.answers⟩
  · rw [hq, Record.call_of_question hq, Record.told, ← h.engine, ← h.answers]
    exact ⟨rfl, (List.append_nil raised).trans h.events, rfl⟩

/-- The letter of a call does not end the service: what it raises enters the feed, and
    all else is left alone. -/
theorem serve_frame (s : Service) (call : Call) :
    (s.serve call.letter).mailbox = s.mailbox ∧
      (s.serve call.letter).mailboxCapacity = s.mailboxCapacity ∧
      (s.serve call.letter).reportDue = s.reportDue ∧
      (s.serve call.letter).feed = s.feed.pushAll (call.letter.raises s.engine) ∧
      (s.serve call.letter).running = s.running ∧ (s.serve call.letter).held = s.held := by
  rcases call.letter_cases with ⟨m, hm⟩ | ⟨caller, hq⟩
  · rw [hm]
    exact ⟨rfl, rfl, rfl, rfl, rfl, rfl⟩
  · rw [hq]
    exact ⟨rfl, rfl, rfl, rfl, rfl, rfl⟩

/-- The first call that waits is done. -/
theorem Refines.serve {call : Call} (h : Refines c link acts raised s done (call :: waiting))
    (hd : s.reportDue = false) :
    Refines c link acts (raised ++ call.letter.raises s.engine)
      ({ s with mailbox := waiting.map Call.letter }.serve call.letter) (done ++ [.call call])
      waiting := by
  have hnow : HasDone { s with mailbox := waiting.map Call.letter } ((c.alone link).after done)
      raised := { h.hasDone hd with }
  have hdone := hnow.serve call
  rw [← show _ = ((c.alone link).after done).call call from
    Record.after_append_singleton (c.alone link) done (.call call)] at hdone
  obtain ⟨hmailbox, hcapacity, hdue, hfeed, hrunning, hheld⟩ :=
    serve_frame { s with mailbox := waiting.map Call.letter } call
  have hroom : waiting.length < c.mailboxCapacity := by
    have hle := h.room
    rwa [h.mailbox, List.length_map, List.length_cons] at hle
  exact {
    acts := by rw [h.acts, List.append_assoc]; rfl
    mailbox := hmailbox
    engine := (readyEngine_of_reported (hdue.trans hd)).trans hdone.engine
    events := hdone.events
    answers := hdone.answers
    due := fun hdue' => absurd (hdue'.symm.trans (hdue.trans hd)) Bool.noConfusion
    feed := by rw [hfeed, Feed.pushAll_append, ← h.feed]
    capacity := hcapacity.trans h.capacity
    room := by rw [hmailbox, List.length_map]; exact Nat.le_of_lt hroom
    running := hrunning.trans h.running
    held := hheld.trans h.held }

/-- Handles and readers make no difference. -/
theorem Refines.frame (h : Refines c link acts raised s done waiting) (handles : Nat)
    (readers : List Nat) : Refines c link acts raised { s with handles, readers } done waiting :=
  { h with }

/-- In its turn the engine does what waits first, if anything does. -/
theorem Refines.turn (h : Refines c link acts raised s done waiting) :
    ∃ done' waiting', Refines c link acts (raised ++ s.raising) s.turn done' waiting' := by
  obtain ⟨hd, hturn, hraising⟩ | ⟨l, rest, hd, hm, hturn, hraising⟩ | ⟨-, hturn, hraising⟩ :=
    turn_cases h.running
  · rw [hturn, hraising, List.append_nil]
    exact ⟨done, waiting, h.report hd⟩
  · obtain ⟨call, waiting', rfl, rfl, rfl⟩ := List.map_eq_cons_iff.1 (h.mailbox.symm.trans hm)
    rw [hturn, hraising]
    exact ⟨_, waiting', h.serve hd⟩
  · rw [hturn, hraising, List.append_nil]
    exact ⟨done, waiting, h⟩

/-- Whatever a service comes to, it has done some of what was done to it, and the
    rest waits. -/
theorem exists_refines (hs : start c link = .ok s₀) (h : Reaches s₀ acts raised s) :
    ∃ done waiting, Refines c link acts raised s done waiting := by
  induction h with
  | start => exact ⟨[], [], refines_start hs⟩
  | call _ holder held room call ih =>
    obtain ⟨done, waiting, hrefines⟩ := ih
    exact ⟨done, _, hrefines.call room call⟩
  | link _ calm up ih =>
    obtain ⟨done, waiting, hrefines⟩ := ih
    exact ⟨_, [], hrefines.setLink calm up⟩
  | turn _ ih =>
    obtain ⟨done, waiting, hrefines⟩ := ih
    exact hrefines.turn
  | takeHandle _ ih | dropHandle _ ih | subscribe _ ih =>
    obtain ⟨done, waiting, hrefines⟩ := ih
    exact ⟨done, waiting, hrefines.frame _ _⟩
  | receive _ reader told read ih =>
    obtain ⟨done, waiting, hrefines⟩ := ih
    obtain ⟨readers, rfl⟩ := exists_readers_of_receive read
    exact ⟨done, waiting, hrefines.frame _ _⟩

/-! ## When the engine has run -/

/-- A calm service has done all that was done to it. -/
theorem hasDone_of_calm (hs : start c link = .ok s₀) (h : Reaches s₀ acts raised s)
    (hcalm : s.Calm) : HasDone s ((c.alone link).after acts) raised := by
  obtain ⟨done, waiting, hrefines⟩ := exists_refines hs h
  obtain ⟨rfl, rfl⟩ := hrefines.done_eq hcalm
  exact hrefines.hasDone hcalm.reported

/-- Whatever a service comes to, once the engine has run, all is done, and there is
    room again. -/
theorem exists_reaches_settle (hs : start c link = .ok s₀) (h : Reaches s₀ acts raised s) :
    ∃ raised', Reaches s₀ acts (raised ++ raised') s.settle ∧ s.settle.Calm ∧
      s.settle.hasRoom = true ∧ s.settle.running = true ∧ s.settle.held = true ∧
      HasDone s.settle ((c.alone link).after acts) (raised ++ raised') := by
  obtain ⟨_, _, hnow⟩ := exists_refines hs h
  have hcalm : s.settle.Calm := calm_settle hnow.running
  obtain ⟨raised', h'⟩ := exists_turns .turn h (s.mailbox.length + 1)
  obtain ⟨done, waiting, hrefines⟩ := exists_refines hs h'
  have hroom : s.settle.hasRoom = true := by
    rw [hasRoom, hcalm.empty, show s.settle.mailboxCapacity = _ from hrefines.capacity]
    exact decide_eq_true (mailboxCapacity_pos (start_eq_ok_iff.1 hs).1)
  exact ⟨raised', h', hcalm, hroom, hrefines.running, hrefines.held, hasDone_of_calm hs h' hcalm⟩

/-- A call that is made once there is room is made under some schedule, and
    accepted. -/
theorem exists_reaches_call (hs : start c link = .ok s₀) (h : Reaches s₀ acts raised s)
    (call : Call) :
    ∃ raised', Reaches s₀ (acts ++ [.call call]) (raised ++ raised') (s.call call).1 ∧
      (s.call call).2 = .ok () := by
  by_cases hroom : s.hasRoom = true
  · obtain ⟨_, _, hnow⟩ := exists_refines hs h
    refine ⟨[], ?_⟩
    rw [Service.call, send, if_pos hroom, if_pos hnow.running, List.append_nil]
    exact ⟨h.call .service hnow.held hroom call, rfl⟩
  · obtain ⟨raised', h', -, hroom', hrunning, hheld, -⟩ := exists_reaches_settle hs h
    refine ⟨raised', ?_⟩
    rw [Service.call, send, if_neg hroom, if_pos hrunning]
    exact ⟨h'.call .service hheld hroom' call, rfl⟩

/-- One who asks what the engine remembers is told what it would remember on its
    own. -/
theorem exists_reaches_correlation (hs : start c link = .ok s₀) (h : Reaches s₀ acts raised s) :
    ∃ raised', Reaches s₀ (acts ++ [.call (.state s.answers.length)]) (raised ++ raised')
        s.correlation.1 ∧
      s.correlation.2 = .ok ((c.alone link).after acts).told := by
  obtain ⟨raised', h', haccepted⟩ := exists_reaches_call hs h (.state s.answers.length)
  obtain ⟨raised'', h'', -, -, hrunning, -, hdone⟩ := exists_reaches_settle hs h'
  have hcall : s.call (.state s.answers.length) = (_, .ok ()) := Prod.ext rfl haccepted
  have hlast : (s.call (.state s.answers.length)).1.settle.answers.getLast? =
      some (s.answers.length, ((c.alone link).after acts).told) := by
    rw [hdone.answers, Record.after_append_singleton, Record.act, Record.call_of_question rfl]
    exact List.getLast?_concat
  have htold : s.correlation = ((s.call (.state s.answers.length)).1.settle,
      .ok ((c.alone link).after acts).told) := by
    rw [correlation, hcall]
    simp only [hrunning, hlast]
  rw [htold]
  refine ⟨raised' ++ raised'', ?_, rfl⟩
  rw [← List.append_assoc]
  exact h''

/-! ## The service and its engine -/

/-- Whatever a service comes to under a schedule, it has done a first part of what
    was done to it as its engine would on its own, and the rest are calls whose
    letters wait in order, no more than there is room for. A calm service has done
    all, and so no two calm services differ that were started alike but for their
    capacities, and to which the same was done. After enough turns a service is calm
    and has room, so that any call may be made next and is accepted, and one who asks
    what the engine remembers is told that. -/
theorem service_refines_engine (hs : start c link = .ok s₀) (h : Reaches s₀ acts raised s) :
    (∃ done waiting, Refines c link acts raised s done waiting) ∧
      (s.Calm → HasDone s ((c.alone link).after acts) raised) ∧
      (∀ (c' : Config) (s₀' s' : Service) (raised' : List Event), c'.language = c.language →
        c'.reportRunning = c.reportRunning → start c' link = .ok s₀' →
          Reaches s₀' acts raised' s' → s.Calm → s'.Calm →
            s'.engine = s.engine ∧ raised' = raised ∧ s'.answers = s.answers) ∧
      (∃ raised', Reaches s₀ acts (raised ++ raised') s.settle ∧ s.settle.Calm ∧
        s.settle.hasRoom = true) ∧
      (∀ call, ∃ raised', Reaches s₀ (acts ++ [.call call]) (raised ++ raised') (s.call call).1 ∧
        (s.call call).2 = .ok ()) ∧
      ∃ raised', Reaches s₀ (acts ++ [.call (.state s.answers.length)]) (raised ++ raised')
          s.correlation.1 ∧
        s.correlation.2 = .ok ((c.alone link).after acts).told := by
  refine ⟨exists_refines hs h, hasDone_of_calm hs h, ?_, ?_, exists_reaches_call hs h,
    exists_reaches_correlation hs h⟩
  · intro c' s₀' s' raised' hlanguage hreport hs' h' hcalm hcalm'
    have hdone := hasDone_of_calm hs h hcalm
    have hdone' := hasDone_of_calm hs' h' hcalm'
    rw [Config.alone_congr hlanguage hreport] at hdone'
    exact ⟨hdone'.engine.trans hdone.engine.symm, hdone'.events.trans hdone.events.symm,
      hdone'.answers.trans hdone.answers.symm⟩
  · obtain ⟨raised', h', hcalm, hroom, -⟩ := exists_reaches_settle hs h
    exact ⟨raised', h', hcalm, hroom⟩

end

/-- A service with room for one letter: a text is shown through a handle, then the
    link goes down, and the answer to a command that could not be read is lost. -/
theorem service_refines_engine_of_one_place :
    let c : Config := { mailboxCapacity := 1 }
    let text : Command := { details := .ofType 3 .displayText 0x80, payload := .text {} }
    ∃ s₀ s raised, start c {} = .ok s₀ ∧
      Reaches s₀ [.call (.command text none), .link false, .call (.unreadable none),
        .call (.state 7)] raised s ∧
      s.engine.link.log = [.serviceRunning, .terminalResponse "810303218002028281830100"] ∧
      raised = [.command text] ∧ s.answers = [(7, ⟨some text.details, none⟩)] := by
  intro c text
  let s₀ : Service :=
    { engine := { language := "en" }, feed := .withRoom 64, mailboxCapacity := 1
      reportDue := true }
  have hs : start c {} = .ok s₀ := start_eq_ok_iff.2 ⟨by decide, rfl⟩
  have hstarted : Reaches s₀ [] [] s₀ := .start
  have htold := hstarted.takeHandle.call (.handle 0) Nat.zero_lt_one rfl (.command text none)
  have hshown := htold.turn.turn
  have hdown := ((hshown.link ⟨rfl, rfl⟩ false).call .service rfl rfl (.unreadable none)).turn
  have hasked := (hdown.call .service rfl rfl (.state 7)).turn
  obtain ⟨-, hdone, -⟩ := service_refines_engine hs hasked
  have h := hdone ⟨rfl, rfl⟩
  refine ⟨s₀, _, _, hs, hasked, ?_, ?_, ?_⟩
  · rw [h.engine]
    decide
  · rw [h.events]
    decide
  · rw [h.answers]
    decide

end Service

end CardToolkit
