import CardToolkit.Proofs.Feed
import CardToolkit.Proofs.Service.Turns

/-!
# What may be done to a service

All that may be done to a service is made of *moves* (`Move`), whoever makes them and in
whatever order: letters are put in its mailbox, the engine takes its turns, handles are
taken and dropped, the service ends, and readers come and read. What has to wait, for room
or for an answer, is made as a whole, or else turn by turn with others in between. Each
move raises some events, which enter the feed.

Those who read make no difference to the others: a move that is not one of reading does
the same, and tells the same to who makes it, whatever readers there are.

* `Service.move`: what a move does, and what who makes it is told;
* `Service.raisedBy`, `Service.feed_move`: the events that a move raises, and no others
  enter the feed;
* `Service.move_withReaders`, `Service.exists_move_eq`: readers make no difference to the
  other moves, nor do those who read to anything but the readers;
* `Service.run_congr`: nor do they make a difference in a run.
-/

namespace CardToolkit

/-- What may be done to a service. -/
inductive Move
  /-- A letter is put in the mailbox, once there is room. -/
  | send (letter : Letter)
  /-- The service is asked what the engine remembers. -/
  | ask
  /-- The engine takes its turn. -/
  | turn
  /-- The link is put up or down. -/
  | link (up : Bool)
  | takeHandle
  | dropHandle
  | shutdown
  | drop
  /-- A request is sent on the link by its owner. -/
  | request (request : Request)
  /-- A reader comes. -/
  | subscribe
  /-- A reader takes all that there is for it. -/
  | receive (reader : Nat)
  /-- A reader takes no more than the first few. -/
  | receiveSome (reader limit : Nat)

/-- What one who makes a move is told. -/
inductive Outcome
  | result (result : Except Fault Unit)
  | state (correlation : Except Fault Correlation)

/-- A move of one who reads. -/
def Move.isReading : Move → Bool
  | subscribe | receive _ | receiveSome _ _ => true
  | _ => false

/-- The moves of those who do not read. -/
def Move.others (moves : List Move) : List Move := moves.filter (!·.isReading)

theorem Move.others_cons_of_reading {m : Move} (h : m.isReading = true) (moves : List Move) :
    others (m :: moves) = others moves := by
  rw [others, List.filter_cons, h]
  rfl

theorem Move.others_cons {m : Move} (h : m.isReading = false) (moves : List Move) :
    others (m :: moves) = m :: others moves := by
  rw [others, List.filter_cons, h]
  rfl

namespace Service

variable {s : Service} {m : Move}

/-- What a reader is told that takes no more than `n` events, if there is one of this
    number. -/
def receiveSome (s : Service) (reader n : Nat) : Option (Service × Delivery Event) :=
  s.readers[reader]?.map fun place =>
    ({ s with readers := s.readers.set reader (s.feed.placeAfter n place) },
      s.feed.readSome n place)

/-- A move is made, and who makes it may be told something. -/
def move (s : Service) : Move → Service × Option Outcome
  | .send l => ((s.send l).1, some (.result (s.send l).2))
  | .ask => (s.correlation.1, some (.state s.correlation.2))
  | .turn => (s.turn, none)
  | .link up => (s.setLink up, none)
  | .takeHandle => (s.takeHandle, none)
  | .dropHandle => (s.dropHandle, none)
  | .shutdown => (s.shutdown.1, some (.result s.shutdown.2))
  | .drop => (s.drop, none)
  | .request r =>
    match s.sendOnLink r with
    | some (t, result) => (t, some (.result result))
    | none => (s, none)
  | .subscribe => (s.subscribe.1, none)
  | .receive reader => (((s.receive reader).map Prod.fst).getD s, none)
  | .receiveSome reader n => (((s.receiveSome reader n).map Prod.fst).getD s, none)

/-- Several moves are made, in order. -/
def after (s : Service) (moves : List Move) : Service := moves.foldl (fun s m => (s.move m).1) s

theorem after_cons (s : Service) (m : Move) (moves : List Move) :
    s.after (m :: moves) = (s.move m).1.after moves := rfl

/-- What those are told who make several moves. -/
def outcomes : Service → List Move → List Outcome
  | _, [] => []
  | s, m :: moves => (s.move m).2.toList ++ (s.move m).1.outcomes moves

/-! ## How letters are sent -/

/-- The service once there is room in its mailbox. -/
def cleared (s : Service) : Service := if s.hasRoom then s else s.settle

/-- A letter is put in the mailbox where there is room. -/
def put (s : Service) (l : Letter) : Service × Except Fault Unit :=
  if s.running then (s.post l, .ok ()) else (s, .error .notRunning)

theorem send_eq (s : Service) (l : Letter) : s.send l = s.cleared.put l := rfl

/-- A letter is refused only after the end. -/
theorem running_of_put {l : Letter} {f : Fault} (h : (s.put l).2 = .error f) :
    (s.put l).1.running = false := by
  by_cases hr : s.running = true
  · rw [put, if_pos hr] at h
    cases h
  · rw [put, if_neg hr]
    exact Bool.eq_false_iff.2 hr

/-- To ask what the engine remembers is to put the question in the mailbox, and to let the
    engine run. -/
theorem correlation_fst : s.correlation.1 = (s.call (.state s.answers.length)).1.settle := by
  rw [correlation]
  split
  · next t f h =>
    have hstopped : (s.call (.state s.answers.length)).1.running = false :=
      running_of_put (congrArg Prod.snd h)
    rw [settle_of_stopped hstopped, h]
  · next t h =>
    rw [h]
    dsimp only
    split <;> rfl

/-! ## What is raised -/

/-- The events that a number of turns raise. -/
def raisings : Nat → Service → List Event
  | 0, _ => []
  | n + 1, s => s.raising ++ raisings n s.turn

/-- The events that are raised until the mailbox is empty. -/
def settling (s : Service) : List Event := raisings (s.mailbox.length + 1) s

/-- The events that are raised before there is room for a letter. -/
def clearing (s : Service) : List Event := if s.hasRoom then [] else s.settling

/-- The events that a move raises. -/
def raisedBy (s : Service) : Move → List Event
  | .send _ => s.clearing
  | .ask => s.clearing ++ (s.call (.state s.answers.length)).1.settling
  | .turn => s.raising
  | .shutdown =>
    if s.held && s.running then s.clearing ++ (s.send .stop).1.settling else []
  | _ => []

/-- The events that several moves raise. -/
def raisedIn : Service → List Move → List Event
  | _, [] => []
  | s, m :: moves => s.raisedBy m ++ (s.move m).1.raisedIn moves

theorem feed_turns (n : Nat) : (turns n s).feed = s.feed.pushAll (raisings n s) := by
  induction n generalizing s with
  | zero => rfl
  | succ n ih => rw [turns, raisings, ih, feed_turn, Feed.pushAll_append]

theorem feed_settle : s.settle.feed = s.feed.pushAll s.settling := feed_turns _

theorem feed_cleared : s.cleared.feed = s.feed.pushAll s.clearing := by
  by_cases hroom : s.hasRoom = true
  · rw [cleared, clearing, if_pos hroom, if_pos hroom]
    rfl
  · rw [cleared, clearing, if_neg hroom, if_neg hroom, feed_settle]

theorem feed_send (l : Letter) : (s.send l).1.feed = s.feed.pushAll s.clearing := by
  rw [send_eq, put, ← feed_cleared]
  split <;> rfl

theorem feed_correlation : s.correlation.1.feed = s.feed.pushAll (s.raisedBy .ask) := by
  rw [correlation_fst, feed_settle, call, feed_send, raisedBy, Feed.pushAll_append]
  rfl

theorem feed_shutdown : s.shutdown.1.feed = s.feed.pushAll (s.raisedBy .shutdown) := by
  rw [shutdown, raisedBy]
  split
  · rw [Feed.pushAll_append, ← feed_send .stop]
    exact feed_settle
  · rfl

/-- A move of one who reads leaves all as it is but the readers. -/
theorem exists_move_eq (h : m.isReading = true) :
    ∃ readers, s.move m = ({ s with readers }, none) := by
  cases m with
  | subscribe => exact ⟨_, rfl⟩
  | receive reader =>
    rw [move, receive]
    cases s.readers[reader]? with
    | none => exact ⟨_, rfl⟩
    | some place => exact ⟨_, rfl⟩
  | receiveSome reader n =>
    rw [move, receiveSome]
    cases s.readers[reader]? with
    | none => exact ⟨_, rfl⟩
    | some place => exact ⟨_, rfl⟩
  | _ => cases h

theorem raisedBy_of_isReading (h : m.isReading = true) : s.raisedBy m = [] := by
  cases m with
  | subscribe | receive | receiveSome => rfl
  | _ => cases h

/-- What a move raises enters the feed, and nothing else does. -/
theorem feed_move (m : Move) : (s.move m).1.feed = s.feed.pushAll (s.raisedBy m) := by
  cases hreading : m.isReading with
  | true =>
    obtain ⟨readers, hmove⟩ := exists_move_eq (s := s) hreading
    rw [hmove, raisedBy_of_isReading hreading]
    rfl
  | false =>
    cases m with
    | send l => exact feed_send l
    | ask => exact feed_correlation
    | turn => exact feed_turn
    | shutdown => exact feed_shutdown
    | drop =>
      rw [move, drop]
      split <;> rfl
    | request r =>
      rw [move, sendOnLink]
      cases s.linkReturned <;> rfl
    | link | takeHandle | dropHandle => rfl
    | subscribe | receive | receiveSome => cases hreading

/-- What several moves raise enters the feed, and nothing else does. -/
theorem feed_after (moves : List Move) :
    (s.after moves).feed = s.feed.pushAll (s.raisedIn moves) := by
  induction moves generalizing s with
  | nil => rfl
  | cons m moves ih =>
    rw [raisedIn, Feed.pushAll_append, ← feed_move]
    exact ih

/-! ## Readers make no difference -/

/-- The service with other readers. -/
def withReaders (s : Service) (readers : List Nat) : Service := { s with readers }

@[simp] theorem running_withReaders (r : List Nat) : (s.withReaders r).running = s.running := rfl

@[simp] theorem held_withReaders (r : List Nat) : (s.withReaders r).held = s.held := rfl

@[simp] theorem answers_withReaders (r : List Nat) : (s.withReaders r).answers = s.answers := rfl

@[simp] theorem hasRoom_withReaders (r : List Nat) : (s.withReaders r).hasRoom = s.hasRoom := rfl

@[simp] theorem linkReturned_withReaders (r : List Nat) :
    (s.withReaders r).linkReturned = s.linkReturned := rfl

theorem turn_withReaders (r : List Nat) : (s.withReaders r).turn = s.turn.withReaders r := by
  cases hr : s.running with
  | false => rw [turn_of_stopped hr, turn_of_stopped (s := s.withReaders r) hr]
  | true =>
    cases hd : s.reportDue with
    | true =>
      rw [turn_of_due hr hd, turn_of_due (s := s.withReaders r) hr hd, report_of_due hd,
        report_of_due (s := s.withReaders r) hd]
      rfl
    | false =>
      cases hm : s.mailbox with
      | nil => rw [turn_of_calm ⟨hd, hm⟩, turn_of_calm (s := s.withReaders r) ⟨hd, hm⟩]
      | cons l rest =>
        rw [turn_of_cons hr hd hm, turn_of_cons (s := s.withReaders r) hr hd hm]
        cases l <;> rfl

theorem turns_withReaders (r : List Nat) (n : Nat) :
    turns n (s.withReaders r) = (turns n s).withReaders r := by
  induction n generalizing s with
  | zero => rfl
  | succ n ih => rw [turns, turns, turn_withReaders, ih]

theorem settle_withReaders (r : List Nat) : (s.withReaders r).settle = s.settle.withReaders r :=
  turns_withReaders r _

theorem cleared_withReaders (r : List Nat) :
    (s.withReaders r).cleared = s.cleared.withReaders r := by
  rw [cleared, cleared, hasRoom_withReaders, settle_withReaders]
  split <;> rfl

theorem put_withReaders (r : List Nat) (l : Letter) :
    (s.withReaders r).put l = ((s.put l).1.withReaders r, (s.put l).2) := by
  rw [put, put, running_withReaders]
  split <;> rfl

theorem send_withReaders (r : List Nat) (l : Letter) :
    (s.withReaders r).send l = ((s.send l).1.withReaders r, (s.send l).2) := by
  rw [send_eq, cleared_withReaders, put_withReaders]
  rfl

theorem correlation_withReaders (r : List Nat) :
    (s.withReaders r).correlation = (s.correlation.1.withReaders r, s.correlation.2) := by
  rw [correlation, correlation, call, call, answers_withReaders, send_withReaders]
  rcases s.send (Call.state s.answers.length).letter with ⟨t, f | _⟩
  · rfl
  · dsimp only
    rw [settle_withReaders, running_withReaders, answers_withReaders]
    split <;> rfl

theorem shutdown_withReaders (r : List Nat) :
    (s.withReaders r).shutdown = (s.shutdown.1.withReaders r, s.shutdown.2) := by
  rw [shutdown, shutdown, send_withReaders, settle_withReaders, held_withReaders,
    running_withReaders]
  split <;> rfl

theorem drop_withReaders (r : List Nat) : (s.withReaders r).drop = s.drop.withReaders r := by
  rw [drop, drop, held_withReaders]
  split <;> rfl

/-- A move of one who does not read does the same whatever readers there are. -/
theorem move_withReaders (h : m.isReading = false) (r : List Nat) :
    (s.withReaders r).move m = ((s.move m).1.withReaders r, (s.move m).2) := by
  cases m with
  | send l => rw [move, send_withReaders]; rfl
  | ask => rw [move, correlation_withReaders]; rfl
  | turn => rw [move, turn_withReaders]; rfl
  | shutdown => rw [move, shutdown_withReaders]; rfl
  | drop => rw [move, drop_withReaders]; rfl
  | request q =>
    rw [move, move, sendOnLink, sendOnLink, linkReturned_withReaders]
    cases s.linkReturned <;> rfl
  | link | takeHandle | dropHandle => rfl
  | subscribe | receive | receiveSome => cases h

/-- A move of one who does not read leaves the readers as they are. -/
theorem readers_move (h : m.isReading = false) : (s.move m).1.readers = s.readers :=
  congrArg (fun p : Service × Option Outcome => p.1.readers) (move_withReaders (s := s) h s.readers)

/-! ## Readers make no difference in a run -/

/-- Without those who read, several moves do the same whatever readers there are. -/
theorem after_others_withReaders (moves : List Move) (r : List Nat) :
    (s.withReaders r).after (Move.others moves) = (s.after (Move.others moves)).withReaders r ∧
      (s.withReaders r).outcomes (Move.others moves) = s.outcomes (Move.others moves) := by
  induction moves generalizing s with
  | nil => exact ⟨rfl, rfl⟩
  | cons m moves ih =>
    cases hm : m.isReading with
    | true =>
      rw [Move.others_cons_of_reading hm]
      exact ih
    | false =>
      rw [Move.others_cons hm, after_cons, after_cons, outcomes, outcomes,
        move_withReaders hm]
      exact ⟨ih.1, congrArg _ ih.2⟩

/-- Those who read change in a run nothing but the readers, and what others are told not at
    all. -/
theorem exists_after_eq (s : Service) (moves : List Move) :
    ∃ r, s.after moves = (s.after (Move.others moves)).withReaders r ∧
      s.outcomes moves = s.outcomes (Move.others moves) := by
  induction moves generalizing s with
  | nil => exact ⟨s.readers, rfl, rfl⟩
  | cons m moves ih =>
    cases hm : m.isReading with
    | true =>
      obtain ⟨r, hmove⟩ := exists_move_eq (s := s) hm
      obtain ⟨r', hafter, houtcomes⟩ := ih (s.withReaders r)
      obtain ⟨hafter', houtcomes'⟩ := after_others_withReaders (s := s) moves r
      refine ⟨r', ?_, ?_⟩
      · rw [Move.others_cons_of_reading hm, after_cons, hmove]
        rw [hafter'] at hafter
        exact hafter
      · rw [Move.others_cons_of_reading hm, outcomes, hmove]
        exact houtcomes.trans houtcomes'
    | false =>
      obtain ⟨r, hafter, houtcomes⟩ := ih (s.move m).1
      rw [Move.others_cons hm]
      exact ⟨r, hafter, congrArg ((s.move m).2.toList ++ ·) houtcomes⟩

/-- Two runs in which the others do the same differ in nothing but the readers. -/
theorem run_congr {moves moves' : List Move} (h : Move.others moves' = Move.others moves) :
    s.outcomes moves' = s.outcomes moves ∧ ∃ r, s.after moves' = (s.after moves).withReaders r := by
  obtain ⟨r, hafter, houtcomes⟩ := s.exists_after_eq moves
  obtain ⟨r', hafter', houtcomes'⟩ := s.exists_after_eq moves'
  rw [h] at hafter' houtcomes'
  rw [hafter, hafter', houtcomes, houtcomes']
  exact ⟨rfl, r', rfl⟩

end Service

end CardToolkit
