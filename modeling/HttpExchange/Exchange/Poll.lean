import HttpExchange.Exchange.Read
import HttpExchange.Exchange.Write

/-!
One poll of an exchange. An abort is taken before anything else; then the request is
written, then the response is read, and the timers are checked last, so that a timer
set in this very poll is checked too.
-/

namespace HttpExchange.Exchange

variable {σ : Type} [Transport σ]

/-- What a due timer means for the exchange. -/
def outcomeOfTimer : Failure → Outcome
  | .writeIdle period => .writeFailed (.writeIdle period)
  | failure => .failed failure

/-- The timer part of a poll. -/
def pollTimers (x : Exchange) (lease : Lease σ) (c : Completion) (now : Instant) :
    Step (Lease σ) :=
  let checked := x.idle.poll now
  let turn :=
    match checked.1 with
    | none => .pending
    | some failure => .ended (outcomeOfTimer failure)
  ⟨{ x with idle := checked.2 }, lease, c, [.timerCheck checked.1], turn⟩

/-- The parts of a poll behind the writing. -/
def pollAfterWrite (x : Exchange) (lease : Lease σ) (h : Handler) (c : Completion)
    (now : Instant) : Step (Lease σ) :=
  let read := x.pollRead lease h c now
  match read.turn with
  | .pending =>
    (read.exchange.pollTimers read.resource read.completion now).after read.actions
  | _ => read

/-- The parts of a poll behind the look at the control queue. -/
def pollParts (x : Exchange) (lease : Lease σ) (h : Handler) (c : Completion) (now : Instant) :
    Step (Lease σ) :=
  let write := x.pollWrite lease now
  match write.turn with
  | .failed failure =>
    ⟨write.exchange, write.resource, c, write.actions, .ended (.writeFailed failure)⟩
  | .crashed => ⟨write.exchange, write.resource, c, write.actions, .crashed⟩
  | .pending | .written =>
    (write.exchange.pollAfterWrite write.resource h c now).after write.actions

def poll (x : Exchange) (lease : Lease σ) (h : Handler) (c : Completion) (now : Instant) :
    Step (Lease σ) :=
  let taken := c.takeAbort
  match taken.1 with
  | some abort => ⟨x, lease, taken.2, [.control (some abort)], .ended (.aborted abort)⟩
  | none => (x.pollParts lease h taken.2 now).after [.control none]

end HttpExchange.Exchange
