import CardToolkit.Engine.Reaction

/-!
# Runs

The engine in motion. A *step* handles one message over a link whose verdict on
a request is given; a *run* is one step after another, from slots that are
empty at first, over a link that may take and refuse requests in any pattern.

* `Engine.step`: the step of a message and a verdict;
* `Engine.run`: the steps of messages and verdicts;
* `Reachable`: the slots in which a run may end;
* `Engine.handle`: an engine that holds its link handles a message.
-/

namespace CardToolkit

/-- What came of a message. -/
structure Step where
  /-- The slots after it. -/
  slots : Slots
  /-- The request that the link was asked to take. -/
  attempted : Option Request := none
  /-- The request that the link took. -/
  sent : Option Request := none
  /-- The events that were raised. -/
  events : List Event := []
  /-- Success, or the fault that nothing was sent. -/
  result : Except Fault Unit := .ok ()

namespace Reaction

/-- What comes of a reaction under a verdict of the link. -/
def settle (r : Reaction) (v : Verdict) : Step :=
  match r.request with
  | none => { slots := r.kept, events := r.events }
  | some (.error f) => { slots := r.kept, events := r.events, result := .error (.encoding f) }
  | some (.ok request) =>
    match v with
    | .accepted =>
      { slots := r.taken, attempted := some request, sent := some request, events := r.events }
    | .refused reason =>
      { slots := r.kept, attempted := some request, events := r.events
        result := .error (.link reason) }

@[simp] theorem events_settle (r : Reaction) (v : Verdict) : (r.settle v).events = r.events := by
  unfold settle
  split <;> try rfl
  split <;> rfl

/-- What the link took it was asked to take. -/
theorem attempted_of_sent {r : Reaction} {v : Verdict} {q : Request}
    (h : (r.settle v).sent = some q) : (r.settle v).attempted = some q := by
  revert h
  unfold settle
  split
  · exact nofun
  · exact nofun
  · split
    · exact id
    · exact nofun

end Reaction

namespace Engine

variable (language : String)

/-- The step of a message, under a verdict on what is sent. -/
def step (s : Slots) (m : Message) (v : Verdict) : Step := (react language s m).settle v

/-- The slots after messages and verdicts. -/
def slotsAfter (s : Slots) : List (Message × Verdict) → Slots
  | [] => s
  | (m, v) :: rest => slotsAfter (step language s m v).slots rest

/-- The steps of messages and verdicts, in turn. -/
def run (s : Slots) : List (Message × Verdict) → List Step
  | [] => []
  | (m, v) :: rest => step language s m v :: run (step language s m v).slots rest

/-- The slots in which a run may end, which starts with nothing to remember. -/
inductive Reachable : Slots → Prop
  | start : Reachable {}
  | step {s : Slots} (h : Reachable s) (m : Message) (v : Verdict) :
    Reachable (step language s m v).slots

@[simp] theorem slotsAfter_nil (s : Slots) : slotsAfter language s [] = s := rfl

theorem slotsAfter_append (s : Slots) (l l' : List (Message × Verdict)) :
    slotsAfter language s (l ++ l') = slotsAfter language (slotsAfter language s l) l' := by
  induction l generalizing s with
  | nil => rfl
  | cons p l ih => exact ih _

/-- The slots after a run are reachable. -/
theorem reachable_slotsAfter {s : Slots} (h : Reachable language s)
    (l : List (Message × Verdict)) : Reachable language (slotsAfter language s l) := by
  induction l generalizing s with
  | nil => exact h
  | cons p l ih => exact ih (h.step p.1 p.2)

/-- Reachable slots are those after a run. -/
theorem reachable_iff {s : Slots} :
    Reachable language s ↔ ∃ l, slotsAfter language {} l = s := by
  constructor
  · intro h
    induction h with
    | start => exact ⟨[], rfl⟩
    | step _ m v ih =>
      obtain ⟨l, rfl⟩ := ih
      exact ⟨l ++ [(m, v)], slotsAfter_append language {} l [(m, v)]⟩
  · rintro ⟨l, rfl⟩
    exact reachable_slotsAfter language .start l

end Engine

/-- An engine with the language that it reports, what it remembers, and its link. -/
structure Engine where
  language : String
  slots : Slots := {}
  link : Link := {}
  deriving DecidableEq

namespace Engine

/-- The engine after it handled a message, and what came of it. -/
def handle (e : Engine) (m : Message) : Engine × Step :=
  let s := step e.language e.slots m e.link.verdict
  ({ e with slots := s.slots, link := { e.link with log := e.link.log ++ s.sent.toList } }, s)

/-- The engine tells the modem that it is ready. -/
def reportRunning (e : Engine) : Engine × Except Fault Unit :=
  let (link, result) := e.link.send .serviceRunning
  ({ e with link }, result)

end Engine

end CardToolkit
