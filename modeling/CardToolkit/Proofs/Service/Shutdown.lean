import CardToolkit.Proofs.Service.Refinement

/-!
# Shutting down

One who shuts a service down waits for the link. The wish to stop is put behind the
letters that wait, so that the engine opens all of these first, and none that comes
after it. From then on nobody reaches the engine any more: the log of the link has
what was sent for the letters, and behind that what its owner sends.

* `Service.Serves`: a service that may be shut down, and the calls that wait;
  a service that was started is one, whatever it came to (`Service.exists_serves`);
* `Service.Closes`: what it may come to meanwhile, under any schedule;
* `Service.Ended`: the calls that waited are done, each once and in order, and the
  link was given back;
* `Service.Outlives`: what may be done to a service that has ended;
* `Service.shutdown_drains_and_closes`: a service that is shut down ends under any
  schedule, and stays as it is.
-/

namespace CardToolkit.Service

/-- The engine of a service on its own, once the report is made, with what callers
    were told so far. -/
def alone (s : Service) : Record where
  engine := s.readyEngine
  answers := s.answers

/-- The service is held and runs, there is room for letters in its mailbox, and these
    calls wait. -/
structure Serves (s : Service) (waiting : List Call) : Prop where
  held : s.held = true
  running : s.running = true
  room : 0 < s.mailboxCapacity
  mailbox : s.mailbox = waiting.map Call.letter

/-- What the first service may come to while it is shut down, when these events are
    raised, under any schedule, before and after the wish to stop was put in the
    mailbox: this needs room, and who calls later comes behind it. The engine takes
    its turns at any time, handles are taken and dropped, and readers come and read.
    The service itself is let go, and then to drop it makes no difference. -/
inductive Closes (s₀ : Service) : Bool → List Event → Service → Prop
  | start : Closes s₀ false [] s₀
  | wish {raised s} (h : Closes s₀ false raised s) (room : s.hasRoom = true) :
    Closes s₀ true raised (s.post .stop)
  | call {raised s} (h : Closes s₀ true raised s) (number : Nat)
    (held : s.IsHeldBy (.handle number)) (running : s.running = true) (room : s.hasRoom = true)
    (c : Call) : Closes s₀ true raised (s.post c.letter)
  | turn {asked raised s} (h : Closes s₀ asked raised s) :
    Closes s₀ asked (raised ++ s.raising) s.turn
  | release {raised s} (h : Closes s₀ true raised s) : Closes s₀ true raised { s with held := false }
  | drop {raised s} (h : Closes s₀ true raised s) (released : s.held = false) :
    Closes s₀ true raised s.drop
  | takeHandle {asked raised s} (h : Closes s₀ asked raised s) : Closes s₀ asked raised s.takeHandle
  | dropHandle {asked raised s} (h : Closes s₀ asked raised s) : Closes s₀ asked raised s.dropHandle
  | subscribe {asked raised s} (h : Closes s₀ asked raised s) : Closes s₀ asked raised s.subscribe.1
  | receive {asked raised s s'} (h : Closes s₀ asked raised s) (reader : Nat) (told : Received)
    (read : s.receive reader = some (s', told)) : Closes s₀ asked raised s'

/-- The service has done the calls that waited, each once and in order, and nothing
    else; then it has stopped and given its link back. -/
structure Ended (s₀ : Service) (waiting : List Call) (raised : List Event) (s : Service) : Prop where
  hasDone : HasDone s (s₀.alone.after (waiting.map .call)) raised
  feed : s.feed = s₀.feed.pushAll raised
  stopped : s.running = false
  empty : s.mailbox = []
  linkReturned : s.linkReturned = true

/-- What the first service, which has ended, may come to, when the owner of the link
    sends requests of which the link takes these: handles call in vain. -/
inductive Outlives (s₀ : Service) : List Request → Service → Prop
  | start : Outlives s₀ [] s₀
  | call {own s} (h : Outlives s₀ own s) (c : Call) : Outlives s₀ own (s.call c).1
  | ask {own s} (h : Outlives s₀ own s) : Outlives s₀ own s.correlation.1
  | send {own s s'} (h : Outlives s₀ own s) (request : Request) (result : Except Fault Unit)
    (sent : s.sendOnLink request = some (s', result)) :
    Outlives s₀ (own ++ s.engine.link.verdict.log request) s'
  | link {own s} (h : Outlives s₀ own s) (up : Bool) : Outlives s₀ own (s.setLink up)
  | turn {own s} (h : Outlives s₀ own s) : Outlives s₀ own s.turn
  | drop {own s} (h : Outlives s₀ own s) (released : s.held = false) : Outlives s₀ own s.drop
  | takeHandle {own s} (h : Outlives s₀ own s) : Outlives s₀ own s.takeHandle
  | dropHandle {own s} (h : Outlives s₀ own s) : Outlives s₀ own s.dropHandle
  | subscribe {own s} (h : Outlives s₀ own s) : Outlives s₀ own s.subscribe.1
  | receive {own s s'} (h : Outlives s₀ own s) (reader : Nat) (told : Received)
    (read : s.receive reader = some (s', told)) : Outlives s₀ own s'

variable {s₀ s : Service} {waiting done rest later : List Call} {raised : List Event} {asked : Bool}

/-- A service that was started, under any schedule, serves the calls that wait. -/
theorem exists_serves {c : Config} {link : Link} {acts : List Act} (hs : start c link = .ok s₀)
    (h : Reaches s₀ acts raised s) : ∃ waiting, s.Serves waiting := by
  obtain ⟨done, waiting, hrefines⟩ := exists_refines hs h
  have hpos := mailboxCapacity_pos (start_eq_ok_iff.1 hs).1
  exact ⟨waiting, hrefines.held, hrefines.running, hrefines.capacity ▸ hpos, hrefines.mailbox⟩

/-- A service that was let go is not dropped once more. -/
theorem drop_of_released (h : s.held = false) : s.drop = s := by
  rw [drop, h]
  rfl

/-! ## While the mailbox empties -/

/-- The service has done these calls since the first one, and runs. -/
structure Drains (s₀ : Service) (done : List Call) (raised : List Event) (s : Service) : Prop where
  engine : s.readyEngine = (s₀.alone.after (done.map .call)).engine
  events : raised = (s₀.alone.after (done.map .call)).events
  answers : s.answers = (s₀.alone.after (done.map .call)).answers
  feed : s.feed = s₀.feed.pushAll raised
  capacity : s.mailboxCapacity = s₀.mailboxCapacity
  running : s.running = true

/-- What waits behind the calls: nothing before the wish to stop, and then the wish and
    later calls. -/
def behind (asked : Bool) (later : List Call) : List Letter :=
  if asked then .stop :: later.map Call.letter else []

theorem drains_start (h : s₀.running = true) : Drains s₀ [] [] s₀ := ⟨rfl, rfl, rfl, rfl, rfl, h⟩

/-- Letters, holders and readers make no difference to what is done. -/
theorem Drains.frame (h : Drains s₀ done raised s) (mailbox : List Letter) (held : Bool)
    (handles : Nat) (readers : List Nat) :
    Drains s₀ done raised { s with mailbox, held, handles, readers } := { h with }

/-- Once the report was made, what is done is done as the engine would on its own. -/
theorem Drains.hasDone (h : Drains s₀ done raised s) (hd : s.reportDue = false) :
    HasDone s (s₀.alone.after (done.map .call)) raised where
  engine := by rw [← h.engine, readyEngine_of_reported hd]
  events := h.events
  answers := h.answers

/-- The report is made. -/
theorem Drains.report (h : Drains s₀ done raised s) (hd : s.reportDue = true) :
    Drains s₀ done raised s.report := by
  rw [report_of_due hd]
  exact { h with engine := (readyEngine_of_due hd).symm.trans h.engine }

/-- The letter of a call is opened. -/
theorem Drains.serve (h : Drains s₀ done raised s) (hd : s.reportDue = false) (call : Call) :
    Drains s₀ (done ++ [call]) (raised ++ call.letter.raises s.engine) (s.serve call.letter) := by
  have hdone := (h.hasDone hd).serve call
  have hafter : s₀.alone.after ((done ++ [call]).map .call) =
      (s₀.alone.after (done.map .call)).call call := by
    rw [List.map_append]
    exact Record.after_append_singleton s₀.alone (done.map .call) (.call call)
  rw [← hafter] at hdone
  obtain ⟨-, hcapacity, hdue, hfeed, hrunning, -⟩ := serve_frame s call
  exact {
    engine := (readyEngine_of_reported (hdue.trans hd)).trans hdone.engine
    events := hdone.events
    answers := hdone.answers
    feed := by rw [hfeed, Feed.pushAll_append, ← h.feed]
    capacity := hcapacity.trans h.capacity
    running := hrunning.trans h.running }

/-- When the wish to stop is opened, the service has done all that waited before it. -/
theorem Drains.stop (h : Drains s₀ waiting raised s) (hd : s.reportDue = false) :
    Ended s₀ waiting raised (s.serve .stop) where
  hasDone := { h.hasDone hd with }
  feed := h.feed
  stopped := rfl
  empty := rfl
  linkReturned := rfl

/-- The service has done a first part of the calls that waited, and the others still
    wait, in front of the wish to stop if it was put in the mailbox. -/
structure Draining (s₀ : Service) (waiting : List Call) (asked : Bool) (raised : List Event)
    (s : Service) (done rest later : List Call) : Prop where
  waiting : waiting = done ++ rest
  drains : Drains s₀ done raised s
  mailbox : s.mailbox = rest.map Call.letter ++ behind asked later

/-- In its turn the engine opens the first letter, unless it makes the report or there is
    none; at the wish to stop the service ends. -/
theorem Draining.turn (h : Draining s₀ waiting asked raised s done rest later) :
    (∃ done' rest', Draining s₀ waiting asked (raised ++ s.raising) s.turn done' rest' later) ∨
      asked = true ∧ Ended s₀ waiting (raised ++ s.raising) s.turn := by
  obtain ⟨hd, hturn, hraising⟩ | ⟨l, letters, hd, hm, hturn, hraising⟩ | ⟨-, hturn, hraising⟩ :=
    turn_cases h.drains.running
  · rw [hturn, hraising, List.append_nil]
    exact .inl ⟨done, rest, h.waiting, h.drains.report hd, mailbox_report.trans h.mailbox⟩
  · have hletters := h.mailbox.symm.trans hm
    have hdrains := h.drains.frame letters s.held s.handles s.readers
    cases rest with
    | cons call rest =>
      obtain ⟨rfl, rfl⟩ := List.cons.inj hletters
      rw [hturn, hraising]
      exact .inl ⟨_, rest, by rw [h.waiting, List.append_assoc]; rfl, hdrains.serve hd call,
        (serve_frame _ call).1⟩
    | nil =>
      cases asked with
      | false => cases hletters
      | true =>
        -- All calls that waited are done, so that the wish to stop is next.
        obtain ⟨rfl, -⟩ := List.cons.inj hletters
        have hall : waiting = done := h.waiting.trans (List.append_nil done)
        rw [hturn, hraising, hall]
        refine .inr ⟨rfl, ?_⟩
        show Ended s₀ done (raised ++ []) _
        rw [List.append_nil]
        exact hdrains.stop hd
  · rw [hturn, hraising, List.append_nil]
    exact .inl ⟨done, rest, h⟩

/-! ## Under any schedule -/

/-- Holders and readers make no difference to a service that has ended. -/
theorem Ended.frame (h : Ended s₀ waiting raised s) (held : Bool) (handles : Nat)
    (readers : List Nat) : Ended s₀ waiting raised { s with held, handles, readers } :=
  { h with hasDone := { h.hasDone with } }

/-- Whatever a service comes to that is shut down, it does the calls that waited, or it
    has ended. -/
theorem draining_or_ended (hs : s₀.Serves waiting) (h : Closes s₀ asked raised s) :
    (∃ done rest later, Draining s₀ waiting asked raised s done rest later) ∨
      asked = true ∧ Ended s₀ waiting raised s := by
  induction h with
  | start =>
    have hmailbox : s₀.mailbox = waiting.map Call.letter ++ behind false [] := by
      rw [hs.mailbox]
      exact (List.append_nil _).symm
    exact .inl ⟨[], waiting, [], rfl, drains_start hs.running, hmailbox⟩
  | @wish raised s _ _ ih =>
    obtain ⟨done, rest, later, hdraining⟩ | ⟨hasked, -⟩ := ih
    · refine .inl ⟨done, rest, [], hdraining.waiting, hdraining.drains.frame _ _ _ _, ?_⟩
      rw [post, hdraining.mailbox]
      exact congrArg (· ++ [Letter.stop]) (List.append_nil _)
    · cases hasked
  | @call raised s _ _ _ running _ c ih =>
    obtain ⟨done, rest, later, hdraining⟩ | ⟨-, hended⟩ := ih
    · refine .inl ⟨done, rest, later ++ [c], hdraining.waiting, hdraining.drains.frame _ _ _ _, ?_⟩
      rw [post, hdraining.mailbox, List.append_assoc]
      simp [behind]
    · -- After the end no letter is put in the mailbox.
      cases hended.stopped.symm.trans running
  | @turn asked raised s _ ih =>
    obtain ⟨done, rest, later, hdraining⟩ | ⟨hasked, hended⟩ := ih
    · obtain ⟨done', rest', hdraining'⟩ | hended := hdraining.turn
      · exact .inl ⟨done', rest', later, hdraining'⟩
      · exact .inr hended
    · rw [turn_of_stopped hended.stopped, raising_of_stopped hended.stopped, List.append_nil]
      exact .inr ⟨hasked, hended⟩
  | drop _ released ih =>
    rw [drop_of_released released]
    exact ih
  | release _ ih | takeHandle _ ih | dropHandle _ ih | subscribe _ ih =>
    obtain ⟨done, rest, later, hdraining⟩ | ⟨hasked, hended⟩ := ih
    · exact .inl ⟨done, rest, later, hdraining.waiting, hdraining.drains.frame _ _ _ _,
        hdraining.mailbox⟩
    · exact .inr ⟨hasked, hended.frame _ _ _⟩
  | receive _ reader told read ih =>
    obtain ⟨readers, rfl⟩ := exists_readers_of_receive read
    obtain ⟨done, rest, later, hdraining⟩ | ⟨hasked, hended⟩ := ih
    · exact .inl ⟨done, rest, later, hdraining.waiting, hdraining.drains.frame _ _ _ _,
        hdraining.mailbox⟩
    · exact .inr ⟨hasked, hended.frame _ _ _⟩

/-- A service that runs and has nothing left to do was not asked to stop, and has room. -/
theorem hasRoom_of_calm (hs : s₀.Serves waiting) (h : Closes s₀ false raised s) (hcalm : s.Calm) :
    s.hasRoom = true ∧ s.running = true := by
  obtain ⟨_, _, _, hdraining⟩ | ⟨hasked, -⟩ := draining_or_ended hs h
  · refine ⟨?_, hdraining.drains.running⟩
    rw [hasRoom, hcalm.empty, hdraining.drains.capacity]
    exact decide_eq_true hs.room
  · cases hasked

/-- Once the engine has run, a service that was asked to stop has ended. -/
theorem exists_ended_settle (hs : s₀.Serves waiting) (h : Closes s₀ true raised s) :
    ∃ raised', Closes s₀ true (raised ++ raised') s.settle ∧
      Ended s₀ waiting (raised ++ raised') s.settle := by
  obtain ⟨raised', h'⟩ := exists_turns .turn h (s.mailbox.length + 1)
  refine ⟨raised', h', ?_⟩
  obtain ⟨_, _, _, hdraining⟩ | ⟨-, hended⟩ := draining_or_ended hs h'
  · -- A service that still drains has the wish in its mailbox, but a settled one is calm.
    have hrunning : s.running = true := by
      refine Bool.of_not_eq_false fun hstopped => ?_
      have hsettled : (turns (s.mailbox.length + 1) s).running = false := by
        rw [turns_of_stopped hstopped]
        exact hstopped
      cases hsettled.symm.trans hdraining.drains.running
    have hempty := (calm_settle hrunning).empty
    rw [show s.settle.mailbox = _ from hdraining.mailbox] at hempty
    cases (List.append_eq_nil_iff.1 hempty).2
  · exact hended

/-- The wish to stop is put in the mailbox once there is room, which the engine makes if
    it has to. -/
theorem exists_closes_send (hs : s₀.Serves waiting) :
    ∃ raised, Closes s₀ true raised (s₀.send .stop).1 := by
  by_cases hroom : s₀.hasRoom = true
  · rw [send, if_pos hroom, if_pos hs.running]
    exact ⟨[], Closes.start.wish hroom⟩
  · -- There is no room before the engine has run.
    have hstart : Closes s₀ false [] s₀ := .start
    obtain ⟨raised, h⟩ := exists_turns .turn hstart (s₀.mailbox.length + 1)
    obtain ⟨hroom', hrunning⟩ := hasRoom_of_calm hs h (calm_settle hs.running)
    have hsettled : s₀.settle.running = true := hrunning
    rw [send, if_neg hroom, if_pos hsettled]
    exact ⟨_, h.wish hroom'⟩

/-- To shut a service down is to put the wish in the mailbox, and to let the engine run. -/
theorem shutdown_of_serves (hs : s₀.Serves waiting) :
    s₀.shutdown = ({ (s₀.send .stop).1.settle with held := false }, .ok ()) := by
  rw [shutdown, hs.held, hs.running]
  rfl

/-! ## After the end -/

/-- What is left of a service that has ended: its owner's requests enter the log of the
    link, and all else is as it was. -/
structure Remains (s₀ : Service) (own : List Request) (s : Service) : Prop where
  log : s.engine.link.log = s₀.engine.link.log ++ own
  slots : s.engine.slots = s₀.engine.slots
  feed : s.feed = s₀.feed
  answers : s.answers = s₀.answers
  stopped : s.running = false
  linkReturned : s.linkReturned = true

/-- After the end nobody is told what the engine remembers. -/
theorem correlation_of_stopped (h : s.running = false) :
    s.correlation = (s, .error .notRunning) := by
  rw [correlation, call, send_of_stopped h]

/-- The owner of the link sends on it. -/
theorem sendOnLink_of_returned (h : s.linkReturned = true) (request : Request) :
    s.sendOnLink request =
      some ({ s with engine := { s.engine with link := s.engine.link.afterSend request } },
        s.engine.link.verdict.result) := by
  rw [sendOnLink, if_pos h]
  rfl

/-- What is done to a service that has ended leaves it as it is, but for its link. -/
theorem Outlives.remains {own : List Request} (h : Outlives s₀ own s)
    (hstopped : s₀.running = false) (hreturned : s₀.linkReturned = true) : Remains s₀ own s := by
  induction h with
  | start => exact ⟨(List.append_nil _).symm, rfl, rfl, rfl, hstopped, hreturned⟩
  | call _ c ih =>
    rw [Service.call, send_of_stopped ih.stopped]
    exact ih
  | ask _ ih =>
    rw [correlation_of_stopped ih.stopped]
    exact ih
  | send _ request result sent ih =>
    rw [sendOnLink_of_returned ih.linkReturned] at sent
    cases sent
    refine { ih with log := ?_ }
    rw [← List.append_assoc, ← ih.log]
    rfl
  | turn _ ih =>
    rw [turn_of_stopped ih.stopped]
    exact ih
  | drop _ released ih =>
    rw [drop_of_released released]
    exact ih
  | link _ up ih => exact { ih with }
  | takeHandle _ ih | dropHandle _ ih | subscribe _ ih => exact { ih with }
  | receive _ reader told read ih =>
    obtain ⟨readers, rfl⟩ := exists_readers_of_receive read
    exact { ih with }

/-! ## The end of a service -/

/-- To shut a service down gives its link back, after the calls that waited were done,
    each once and in order, and no others. It does not depend on the schedule: a service
    that was asked to stop ends, once the engine has run, and whenever it has stopped, the
    calls that waited are done. From then on all calls and questions are in vain,
    whatever is done with the handles and the link; no event is raised, and behind what
    was sent for the calls the log has what the owner of the link sends. -/
theorem shutdown_drains_and_closes (hs : s.Serves waiting) :
    (∃ raised, s.shutdown.2 = .ok () ∧ Closes s true raised s.shutdown.1 ∧
      Ended s waiting raised s.shutdown.1 ∧ s.shutdown.1.held = false) ∧
    (∀ raised t, Closes s true raised t →
      (t.running = false → Ended s waiting raised t) ∧
        ∃ raised', Closes s true (raised ++ raised') t.settle ∧
          Ended s waiting (raised ++ raised') t.settle) ∧
    ∀ raised t own t', Ended s waiting raised t → Outlives t own t' →
      (∀ c, t'.call c = (t', .error .notRunning)) ∧
        t'.correlation = (t', .error .notRunning) ∧
        t'.engine.link.log = t.engine.link.log ++ own ∧ t'.engine.slots = t.engine.slots ∧
        t'.feed = t.feed ∧ t'.answers = t.answers ∧
        ∀ request, t'.sendOnLink request =
          some ({ t' with engine := { t'.engine with link := t'.engine.link.afterSend request } },
            t'.engine.link.verdict.result) := by
  refine ⟨?_, fun raised t h => ⟨fun hstopped => ?_, exists_ended_settle hs h⟩, ?_⟩
  · obtain ⟨raised, h⟩ := exists_closes_send hs
    obtain ⟨raised', h', hended⟩ := exists_ended_settle hs h
    rw [shutdown_of_serves hs]
    exact ⟨_, rfl, h'.release, hended.frame _ _ _, rfl⟩
  · obtain ⟨_, _, _, hdraining⟩ | ⟨-, hended⟩ := draining_or_ended hs h
    · cases hstopped.symm.trans hdraining.drains.running
    · exact hended
  · intro raised t own t' hended h
    have hremains := h.remains hended.stopped hended.linkReturned
    exact ⟨fun c => send_of_stopped hremains.stopped c.letter,
      correlation_of_stopped hremains.stopped, hremains.log, hremains.slots, hremains.feed,
      hremains.answers, sendOnLink_of_returned hremains.linkReturned⟩

/-- A mailbox without room, in which a text to be shown waits, and a command that could
    not be read. Later a handle calls in vain, and the owner of the link sends an
    envelope. -/
theorem shutdown_of_full_mailbox :
    let text : Command := { details := .ofType 3 .displayText 0x80, payload := .text {} }
    let s : Service :=
      { engine := { language := "en" }, feed := .withRoom 64, mailboxCapacity := 2
        mailbox := [Call.letter (.command text none), Call.letter (.unreadable none)]
        reportDue := true, handles := 1 }
    s.Serves [.command text none, .unreadable none] ∧ s.shutdown.2 = .ok () ∧
      s.shutdown.1.feed = s.feed.push (.command text) ∧
      s.shutdown.1.call .sessionEnd = (s.shutdown.1, .error .notRunning) ∧
      ∃ t, s.shutdown.1.sendOnLink (.envelope "D3") = some (t, .ok ()) ∧
        t.call .cardAbsent = (t, .error .notRunning) ∧
        t.engine.link.log =
          [.serviceRunning, .terminalResponse "810303218002028281830100",
            .terminalResponse "810300210002028281830132", .envelope "D3"] := by
  intro text s
  have hs : s.Serves [.command text none, .unreadable none] := ⟨rfl, rfl, by decide, rfl⟩
  obtain ⟨⟨raised, hok, -, hended, -⟩, -, hclosed⟩ := shutdown_drains_and_closes hs
  obtain ⟨hcall, -, -, -, -, -, hsend⟩ := hclosed raised _ [] _ hended .start
  have hlink : s.shutdown.1.engine.link = (s.alone.after [.call (.command text none),
      .call (.unreadable none)]).engine.link := by
    rw [hended.hasDone.engine]
    rfl
  have hresult : s.shutdown.1.engine.link.verdict.result = .ok () := by
    rw [hlink]
    rfl
  have hsent := hsend (.envelope "D3")
  rw [hresult] at hsent
  obtain ⟨hcall', -, hlog, -⟩ := hclosed raised _ _ _ hended (.send .start _ _ hsent)
  refine ⟨hs, hok, ?_, hcall .sessionEnd, _, hsent, hcall' .cardAbsent, ?_⟩
  · rw [hended.feed, hended.hasDone.events]
    decide
  · rw [hlog, hlink]
    decide

end CardToolkit.Service
