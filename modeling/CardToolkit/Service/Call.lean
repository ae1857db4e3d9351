import CardToolkit.Engine.Message

/-!
# Calls

Those who hold a service or one of its handles *call* it. What a call puts in
the mailbox is a *letter*: mostly a message for the engine, and for some calls
one in which what the caller has left open is filled in (`Call.letter`). A caller
may also ask what the engine remembers, and is answered under the number that it
gave.
-/

namespace CardToolkit

/-- What is put in the mailbox of a service. -/
inductive Letter
  /-- A message for the engine. -/
  | message (message : Message)
  /-- A question what the engine remembers, with the number of the caller. -/
  | question (caller : Nat)
  /-- The wish that the service ends, and gives its link back. -/
  | stop
  deriving DecidableEq

/-- A call of one who holds the service or a handle. -/
inductive Call
  /-- A command of the card, with the verdict of the one who read it if there is
      one. -/
  | command (command : Command) (reading : Option ResultCode)
  /-- A command of the card that could not be read, with the reason if there is
      one. -/
  | unreadable (reading : Option ResultCode)
  /-- A reply of the host. -/
  | reply (reply : Reply)
  /-- The card ended the session. -/
  | sessionEnd
  /-- The card was read anew. -/
  | refreshed (outcome : RefreshOutcome)
  /-- The card was taken out. -/
  | cardAbsent
  /-- What does the engine remember? -/
  | state (caller : Nat)
  deriving DecidableEq

/-- The letter of a call. A command without a verdict could be read, and one that
    could not be read for no reason given was not understood. -/
def Call.letter : Call → Letter
  | command c reading => .message (.command c (reading.getD .ok))
  | unreadable reading => .message (.unreadable (reading.getD .dataNotUnderstood))
  | reply r => .message (.reply r)
  | sessionEnd => .message .sessionEnd
  | refreshed outcome => .message (.refreshed outcome)
  | cardAbsent => .message .cardAbsent
  | state caller => .question caller

/-- A call is for a message, or for an answer. -/
theorem Call.letter_cases (c : Call) :
    (∃ m, c.letter = .message m) ∨ ∃ caller, c.letter = .question caller := by
  cases c with
  | state caller => exact .inr ⟨caller, rfl⟩
  | _ => exact .inl ⟨_, rfl⟩

end CardToolkit
