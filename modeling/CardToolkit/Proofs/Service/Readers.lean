import CardToolkit.Proofs.Service.Moves
import CardToolkit.Proofs.Service.Refinement

/-!
# What readers of a service are told

A reader that comes to a service is told of the events that are raised from then on, each
once and in order, or that it missed some: it may come and read at any time, take as many
as it likes, or never read. The feed keeps the newest, so that who reads before more
events are raised than were asked to be kept has missed none.

* `Service.journal`: what a reader is told in the course of a run;
* `Service.Follows`: it was told of the first events since it came, and of the others not
  yet;
* `Service.Follows.move`, `Service.Follows.after`: this stays so, whatever is done;
* `Service.readers_lose_nothing_silently`: how what it receives, what it missed and what it
  is yet to be told make up all events since it came, and that nobody else is concerned.
-/

namespace CardToolkit

/-- What a reader is told at one time. -/
structure Telling where
  /-- How many events were raised of which it was not told before. -/
  unread : Nat
  delivery : Delivery Event
  deriving DecidableEq

namespace Service

/-- How many events were raised of which a reader was not told. -/
def unread (s : Service) (reader : Nat) : Nat :=
  match s.readers[reader]? with
  | some place => s.feed.raised - place
  | none => 0

/-- What a move delivers to a reader, if it is one with which this one reads. -/
def delivery (s : Service) (reader : Nat) : Move → Option (Delivery Event)
  | .receive r => if r = reader then (s.receive r).map (·.2.delivery) else none
  | .receiveSome r n => if r = reader then (s.receiveSome r n).map (·.2) else none
  | _ => none

/-- What a reader is told by a move. -/
def telling (s : Service) (reader : Nat) (m : Move) : Option Telling :=
  (s.delivery reader m).map (Telling.mk (s.unread reader))

/-- What a reader is told when several moves are made. -/
def journal (reader : Nat) : Service → List Move → List Telling
  | _, [] => []
  | s, m :: moves => (s.telling reader m).toList ++ (s.move m).1.journal reader moves

/-- A reader came when the first events were raised, was told of those that came next, and
    of the last ones not yet. -/
structure Follows (before seen unread : List Event) (reader : Nat) (told : List Telling)
    (s : Service) : Prop where
  keeps : s.feed.Keeps (before ++ seen ++ unread)
  place : s.readers[reader]? = some (before ++ seen).length
  tells : Tells (told.map Telling.delivery) seen
  missed : ∀ e ∈ told, e.delivery.missed = e.unread - s.feed.room

variable {s t : Service} {m : Move} {before seen unread : List Event} {reader : Nat}
  {told : List Telling}

namespace Follows

theorem unread_eq (h : Follows before seen unread reader told s) :
    s.unread reader = unread.length := by
  rw [Service.unread, h.place]
  show s.feed.raised - _ = _
  rw [h.keeps.raised, List.length_append, Nat.add_sub_cancel_left]

/-- More is raised, and the reader is where it was. -/
theorem raise (h : Follows before seen unread reader told s) {raised : List Event}
    (hfeed : t.feed = s.feed.pushAll raised) (hplace : t.readers[reader]? = s.readers[reader]?) :
    Follows before seen (unread ++ raised) reader told t where
  keeps := by
    rw [hfeed, ← List.append_assoc]
    exact h.keeps.pushAll raised
  place := hplace.trans h.place
  tells := h.tells
  missed := by
    rw [hfeed, Feed.room_pushAll]
    exact h.missed

/-- The reader is told how many it missed of those that come next, and of some behind
    them. -/
theorem tell {skipped got rest : List Event}
    (h : Follows before seen (skipped ++ got ++ rest) reader told s)
    (hskipped : skipped.length = s.feed.missed (before ++ seen).length) :
    Follows before (seen ++ skipped ++ got) rest reader
      (told ++ [⟨s.unread reader, ⟨skipped.length, got⟩⟩])
      { s with readers := s.readers.set reader (before ++ seen ++ skipped ++ got).length } where
  keeps := by
    have hkeeps := h.keeps
    simp only [List.append_assoc] at hkeeps ⊢
    exact hkeeps
  place := by
    have hlt : reader < s.readers.length := (List.getElem?_eq_some_iff.1 h.place).1
    simp only [List.append_assoc]
    exact List.getElem?_set_self hlt
  tells := by
    rw [List.map_append, List.map_singleton]
    exact h.tells.append skipped got
  missed := by
    intro e he
    rcases List.mem_append.1 he with he | he
    · exact h.missed e he
    · rw [List.mem_singleton.1 he, h.unread_eq]
      exact hskipped.trans h.keeps.missed

/-- A reader that takes no more than `n` goes on where it stopped. -/
theorem exists_receiveSome (h : Follows before seen unread reader told s) (n : Nat) :
    ∃ t d seen' unread', s.receiveSome reader n = some (t, d) ∧ seen ++ unread = seen' ++ unread' ∧
      Follows before seen' unread' reader (told ++ [⟨s.unread reader, d⟩]) t := by
  obtain ⟨skipped, got, rest, rfl, hread, hplace⟩ := h.keeps.exists_readSome n
  refine ⟨_, _, seen ++ skipped ++ got, rest, ?_, ?_,
    h.tell (congrArg Delivery.missed hread).symm⟩
  · rw [receiveSome, h.place, Option.map_some, hread, hplace]
  · simp only [List.append_assoc]

/-- A reader that takes all there is goes on where it stopped, and is then behind all. -/
theorem exists_receive (h : Follows before seen unread reader told s) :
    ∃ t d, s.receive reader = some (t, d) ∧
      Follows before (seen ++ unread) [] reader (told ++ [⟨s.unread reader, d.delivery⟩]) t := by
  obtain ⟨skipped, got, rfl, hread, hplace⟩ := h.keeps.exists_read
  rw [← List.append_nil (skipped ++ got)] at h
  have htell := h.tell (congrArg Delivery.missed hread).symm
  rw [← hplace, ← hread, List.append_assoc] at htell
  refine ⟨_, ⟨s.feed.read (before ++ seen).length, !s.isOpen⟩, ?_, htell⟩
  rw [receive, h.place, Option.map_some]

/-- If the reader now took all there is, it would be told of all that is unread. -/
theorem exists_delivery (h : Follows before seen unread reader told s) :
    ∃ d, s.delivery reader (.receive reader) = some d ∧
      d.missed + d.pending.length = s.unread reader := by
  refine ⟨s.feed.read (before ++ seen).length, ?_, ?_⟩
  · rw [delivery, if_pos rfl, receive, h.place]
    rfl
  · show s.feed.missed _ + (s.feed.pending _).length = _
    rw [h.unread_eq, h.keeps.missed, h.keeps.pending, List.length_drop]
    omega

/-- What does not concern the reader leaves it where it was. -/
theorem readers_untold (h : Follows before seen unread reader told s)
    (hm : s.delivery reader m = none) : (s.move m).1.readers[reader]? = s.readers[reader]? := by
  cases m with
  | subscribe => exact List.getElem?_append_left (List.getElem?_eq_some_iff.1 h.place).1
  | receive r =>
    have hne : r ≠ reader := by
      rintro rfl
      rw [delivery, if_pos rfl, receive, h.place] at hm
      cases hm
    rw [Service.move, receive]
    cases s.readers[r]? with
    | none => rfl
    | some place => exact List.getElem?_set_ne hne
  | receiveSome r n =>
    have hne : r ≠ reader := by
      rintro rfl
      rw [delivery, if_pos rfl, receiveSome, h.place] at hm
      cases hm
    rw [Service.move, receiveSome]
    cases s.readers[r]? with
    | none => rfl
    | some place => exact List.getElem?_set_ne hne
  | _ => exact congrArg (·[reader]?) (readers_move rfl)

/-- A move that tells the reader something is one of reading, and the reader goes on where
    it stopped. -/
theorem exists_told (h : Follows before seen unread reader told s) {d : Delivery Event}
    (hm : s.delivery reader m = some d) :
    s.raisedBy m = [] ∧ ∃ seen' unread', seen ++ unread = seen' ++ unread' ∧
      Follows before seen' unread' reader (told ++ [⟨s.unread reader, d⟩]) (s.move m).1 := by
  cases m with
  | receive r =>
    rw [delivery] at hm
    split at hm
    · next hr =>
      obtain ⟨t, d', hreceive, hthen⟩ := h.exists_receive
      rw [hr, hreceive] at hm
      cases hm
      rw [Service.move, hr, hreceive]
      exact ⟨rfl, _, [], (List.append_nil _).symm, hthen⟩
    · cases hm
  | receiveSome r n =>
    rw [delivery] at hm
    split at hm
    · next hr =>
      obtain ⟨t, d', seen', unread', hreceive, hraised, hthen⟩ := h.exists_receiveSome n
      rw [hr, hreceive] at hm
      cases hm
      rw [Service.move, hr, hreceive]
      exact ⟨rfl, seen', unread', hraised, hthen⟩
    · cases hm
  | _ => cases hm

/-- Whatever is done, the reader goes on where it stopped. -/
theorem move (h : Follows before seen unread reader told s) (m : Move) :
    ∃ seen' unread', seen ++ unread ++ s.raisedBy m = seen' ++ unread' ∧
      Follows before seen' unread' reader (told ++ (s.telling reader m).toList) (s.move m).1 := by
  rw [telling]
  cases hm : s.delivery reader m with
  | none =>
    refine ⟨seen, unread ++ s.raisedBy m, List.append_assoc _ _ _, ?_⟩
    rw [Option.map_none, Option.toList_none, List.append_nil]
    exact h.raise (feed_move m) (h.readers_untold hm)
  | some d =>
    obtain ⟨hquiet, seen', unread', hraised, hthen⟩ := h.exists_told hm
    refine ⟨seen', unread', ?_, hthen⟩
    rw [hquiet, List.append_nil, hraised]

/-- Whatever is done in a run, the reader goes on where it stopped. -/
theorem after (h : Follows before seen unread reader told s) (moves : List Move) :
    ∃ seen' unread', seen ++ unread ++ s.raisedIn moves = seen' ++ unread' ∧
      Follows before seen' unread' reader (told ++ s.journal reader moves)
        (s.after moves) := by
  induction moves generalizing s seen unread told with
  | nil =>
    refine ⟨seen, unread, List.append_nil _, ?_⟩
    rw [journal, List.append_nil]
    exact h
  | cons m moves ih =>
    obtain ⟨seen', unread', hraised, hnow⟩ := h.move m
    obtain ⟨seen'', unread'', hraised', hthen⟩ := ih hnow
    refine ⟨seen'', unread'', ?_, ?_⟩
    · rw [raisedIn, ← List.append_assoc, hraised, hraised']
    · rw [journal, ← List.append_assoc]
      exact hthen

end Follows

variable {c : Config} {link : Link} {s₀ : Service}

/-- The feed of a service that was started keeps the newest of what was raised, whatever was
    done. -/
theorem keeps_after (hs : start c link = .ok s₀) (moves : List Move) :
    (s₀.after moves).feed.Keeps (s₀.raisedIn moves) ∧
      (s₀.after moves).feed.room = roomFor c.eventCapacity := by
  obtain ⟨-, rfl⟩ := start_eq_ok_iff.1 hs
  rw [feed_after]
  exact ⟨(Feed.keeps_withRoom c.eventCapacity).pushAll _, Feed.room_pushAll _ _⟩

/-- A reader that comes was told of nothing yet. -/
theorem follows_subscribe {before : List Event} (h : s.feed.Keeps before) :
    Follows before [] [] s.subscribe.2 [] s.subscribe.1 where
  keeps := by
    rw [List.append_nil, List.append_nil]
    exact h
  place := by
    rw [List.append_nil, ← h.raised]
    exact List.getElem?_concat_length
  tells := .nil
  missed := nofun

/-- However a reader came, and whatever was done since, it was told of the first events
    since then, and of the others not yet. -/
theorem exists_follows (hs : start c link = .ok s₀) (before after : List Move) :
    let came := (s₀.after before).subscribe
    ∃ seen unread, came.1.raisedIn after = seen ++ unread ∧
      Follows (s₀.raisedIn before) seen unread came.2 (came.1.journal came.2 after)
        (came.1.after after) :=
  (follows_subscribe (keeps_after hs before).1).after after

/-- A reader may come at any time in any run of a service that was started with any
    capacity. What it receives is some of what was raised since, in this order and none of
    it twice, and with what it was told that it missed, and with what it is yet to be told,
    makes up all. What it misses is what does not fit in the feed, and so nothing if each
    time it reads no more is unread than the capacity. Which readers come, and when and how
    they read, makes a difference neither to what the others are told nor to the service. -/
theorem readers_lose_nothing_silently (hs : start c link = .ok s₀) :
    (∀ before after : List Move,
      let came := (s₀.after before).subscribe
      let raised := came.1.raisedIn after
      let told := came.1.journal came.2 after
      let received := (told.map Telling.delivery).flatMap Delivery.pending
      let missed := (told.map Telling.delivery).map Delivery.missed
      let s := came.1.after after
      received.Sublist raised ∧
        received.length + missed.sum + s.unread came.2 = raised.length ∧
        (∃ d, s.delivery came.2 (.receive came.2) = some d ∧
          d.missed + d.pending.length = s.unread came.2) ∧
        IsLeast {k | (∃ i, k = 2 ^ i) ∧ c.eventCapacity ≤ k} s.feed.room ∧
        ∀ e ∈ told, e.delivery.missed = e.unread - s.feed.room ∧
          (e.unread ≤ c.eventCapacity → e.delivery.missed = 0)) ∧
      ∀ moves moves' : List Move, Move.others moves' = Move.others moves →
        s₀.outcomes moves' = s₀.outcomes moves ∧
          ∃ readers, s₀.after moves' = { s₀.after moves with readers } := by
  refine ⟨fun before after => ?_, fun moves moves' h => run_congr h⟩
  intro came raised told received missed s
  obtain ⟨seen, unread, hraised, h⟩ := exists_follows hs before after
  have hroom : s.feed.room = roomFor c.eventCapacity := by
    rw [show s.feed = _ from feed_after after, Feed.room_pushAll]
    exact (keeps_after hs before).2
  refine ⟨?_, ?_, h.exists_delivery, ?_, fun e he => ?_⟩
  · rw [show raised = _ from hraised]
    exact h.tells.sublist.trans (List.sublist_append_left seen unread)
  · rw [show raised = _ from hraised, List.length_append, ← h.tells.length_add_sum]
    exact congrArg _ h.unread_eq
  · rw [hroom]
    exact isLeast_roomFor c.eventCapacity
  · have hlost : e.delivery.missed = e.unread - s.feed.room := h.missed e he
    refine ⟨hlost, fun hle => ?_⟩
    rw [hlost, hroom]
    exact Nat.sub_eq_zero_of_le (hle.trans (Feed.le_roomFor c.eventCapacity))

/-- A reader of a service whose feed has room for four, though it was started with a
    capacity of three: it takes the first of two events, and then comes so late that two
    are lost. -/
theorem readers_lose_nothing_of_three :
    let c : Config := { eventCapacity := 3, reportRunning := false }
    let ends (n : Nat) : List Move :=
      List.replicate n (.send (.message .sessionEnd)) ++ List.replicate n .turn
    let moves := ends 2 ++ [.receiveSome 0 1] ++ ends 5 ++ [.receive 0]
    ∃ s₀, start c {} = .ok s₀ ∧
      s₀.subscribe.1.journal 0 moves =
        [⟨2, ⟨0, [.sessionEnded]⟩⟩, ⟨6, ⟨2, List.replicate 4 .sessionEnded⟩⟩] ∧
      (s₀.subscribe.1.raisedIn moves).length = 7 ∧
      s₀.outcomes (.subscribe :: moves) = s₀.outcomes (ends 2 ++ ends 5) := by
  intro c ends moves
  let s₀ : Service :=
    { engine := { language := "en" }, feed := .withRoom 3, mailboxCapacity := 32 }
  have hs : start c {} = .ok s₀ := start_eq_ok_iff.2 ⟨by decide, rfl⟩
  obtain ⟨hreader, hothers⟩ := readers_lose_nothing_silently hs
  obtain ⟨-, htotal, -⟩ := hreader [] moves
  have htold : s₀.subscribe.1.journal 0 moves =
      [⟨2, ⟨0, [.sessionEnded]⟩⟩, ⟨6, ⟨2, List.replicate 4 .sessionEnded⟩⟩] := by
    decide +kernel
  have hread : (s₀.subscribe.1.after moves).unread 0 = 0 := by decide +kernel
  have hmoves : Move.others (.subscribe :: moves) = Move.others (ends 2 ++ ends 5) := rfl
  refine ⟨s₀, hs, htold, ?_, (hothers _ _ hmoves).1⟩
  rw [show (s₀.after []).subscribe = s₀.subscribe from rfl,
    show s₀.subscribe.1.journal s₀.subscribe.2 moves = _ from htold,
    show (s₀.subscribe.1.after moves).unread s₀.subscribe.2 = 0 from hread] at htotal
  exact htotal.symm

end Service

end CardToolkit
