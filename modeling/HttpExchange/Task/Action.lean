import HttpExchange.Body.Producer
import HttpExchange.Idle.Watch
import HttpExchange.Log
import HttpExchange.Task.Handler
import HttpExchange.Transport
import HttpExchange.Connection

/-!
The trace of an execution: everything it does to its pool, connection, body producer,
timers, handler and future, with the answers it got, in the order in which it happened.
-/

namespace HttpExchange

inductive Action where
  | acquire
  | leased (connection : ConnectionId)
  | refused (error : LeaseError)
  | produce
  | control (abort : Option Failure)
  | ready (answer : Readiness)
  | produced (answer : BodyAnswer)
  | write (frame : Outbound) (refusal : Option NetError)
  | flush (answer : Readiness)
  | receive (answer : Arrival)
  | responseEnd
  | timer (call : TimerCall)
  | timerCheck (fired : Option Failure)
  | callback (callback : Callback)
  | cancel (won : Bool)
  | settle (result : Result) (won : Bool)
  | close (connection : ConnectionId) (answer : Readiness)
  | release (connection : ConnectionId) (isOpen : Bool)
  | log (line : LogLine)
  deriving DecidableEq, Repr

/-- A callback that was made, the completion after it, and whether the handler broke
off. -/
structure Called where
  completion : Completion
  actions : List Action
  brokeOff : Bool
  deriving DecidableEq, Repr

/-- Makes a callback and lets the handler react to it. -/
def Handler.call (h : Handler) (callback : Callback) (c : Completion) : Called :=
  let reaction := h callback
  if reaction.cancels then
    let cancelled := c.cancel
    ⟨cancelled.2, [.callback callback, .cancel cancelled.1], reaction.breaksOff⟩
  else ⟨c, [.callback callback], reaction.breaksOff⟩

end HttpExchange
