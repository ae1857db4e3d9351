import CardToolkit.Fault

/-!
# The link to the modem

Requests go out to the modem over a *link*, which takes a request or refuses
it. What it did is its *verdict*; the engine asks for nothing else, and so works
over any link. The `Link` here is up or down, and keeps a log of what it took.

* `Link.verdict`: what the link does with a request;
* `Link.send`: sending a request, by which it enters the log if it is taken.
-/

namespace CardToolkit

/-- What is asked of the modem. -/
inductive Request
  /-- Passing a terminal response to the card, in hexadecimal text. -/
  | terminalResponse (hex : String)
  /-- Passing an envelope to the card, in hexadecimal text. -/
  | envelope (hex : String)
  /-- Making the call that the card wants, or not. -/
  | callSetup (accept : Bool)
  /-- Noting that the toolkit is ready. -/
  | serviceRunning
  deriving DecidableEq

namespace Request

/-- The text of a terminal response. -/
def terminalResponse? : Request → Option String
  | terminalResponse hex => some hex
  | _ => none

/-- The text of an envelope. -/
def envelope? : Request → Option String
  | envelope hex => some hex
  | _ => none

/-- The decision on a call. -/
def callSetup? : Request → Option Bool
  | callSetup accept => some accept
  | _ => none

end Request

/-- What a link does with a request. -/
inductive Verdict
  /-- The request is taken. -/
  | accepted
  /-- The request is refused, for a reason in words. -/
  | refused (reason : String)
  deriving DecidableEq

namespace Verdict

/-- The verdict as a result: a refusal is a fault of the link. -/
def result : Verdict → Except Fault Unit
  | accepted => .ok ()
  | refused reason => .error (.link reason)

/-- The requests that enter the log. -/
def log (v : Verdict) (request : Request) : List Request :=
  match v with
  | accepted => [request]
  | refused _ => []

end Verdict

/-- A link that is up or down, with a log of what it took. -/
structure Link where
  up : Bool := true
  log : List Request := []
  deriving DecidableEq

namespace Link

/-- A link takes every request while it is up, and none while it is down. -/
def verdict (l : Link) : Verdict :=
  if l.up then .accepted else .refused "mock RIL disconnected"

/-- The link once it was sent a request. -/
def afterSend (l : Link) (request : Request) : Link :=
  { l with log := l.log ++ l.verdict.log request }

/-- Sending a request. -/
def send (l : Link) (request : Request) : Link × Except Fault Unit :=
  (l.afterSend request, l.verdict.result)

/-- The link put up or down. -/
def setUp (l : Link) (up : Bool) : Link := { l with up }

/-- The link with an empty log. -/
def clear (l : Link) : Link := { l with log := [] }

/-- The texts of the terminal responses in the log. -/
def terminalResponses (l : Link) : List String := l.log.filterMap Request.terminalResponse?

/-- The texts of the envelopes in the log. -/
def envelopes (l : Link) : List String := l.log.filterMap Request.envelope?

/-- The decisions on calls in the log. -/
def callSetups (l : Link) : List Bool := l.log.filterMap Request.callSetup?

@[simp] theorem up_afterSend (l : Link) (r : Request) : (l.afterSend r).up = l.up := rfl

/-- A link that is up takes every request into its log. -/
theorem afterSend_of_up {l : Link} (h : l.up = true) (r : Request) :
    l.afterSend r = { l with log := l.log ++ [r] } := by
  rw [afterSend, verdict, if_pos h]
  rfl

/-- A link that is down does not change. -/
theorem afterSend_of_down {l : Link} (h : l.up = false) (r : Request) : l.afterSend r = l := by
  rw [afterSend, verdict, if_neg (Bool.eq_false_iff.1 h)]
  exact congrArg (Link.mk l.up) (List.append_nil l.log)

end Link

end CardToolkit
