import HttpExchange.Bench.Wire
import HttpExchange.Collector
import HttpExchange.Task.Stimulus

/-!
One execution on the bench, together with what can be seen of it from outside. Its
task is polled until it can make no progress: it is polled again at once when its body
asked for that or an abort is waiting, and nothing else can make a second poll differ
from the first.
-/

namespace HttpExchange.Bench

/-- What can be seen of an execution from outside. -/
inductive Event where
  | acquire
  | started (id : ExecutionId)
  | write (frame : Outbound)
  | callback (callback : Callback)
  | close (connection : ConnectionId)
  | release (connection : ConnectionId) (isOpen : Bool)
  | cancel (won : Bool)
  | log (line : LogLine)
  | result (result : Result)
  deriving DecidableEq, Repr

/-- The event an action shows, if it shows any. -/
def Event.ofAction? : Action → Option Event
  | .acquire => some .acquire
  | .write frame none => some (.write frame)
  | .callback made => some (.callback made)
  | .close _ .pending => none
  | .close connection _ => some (.close connection)
  | .release connection isOpen => some (.release connection isOpen)
  | .cancel won => some (.cancel won)
  | .log line => some (.log line)
  | _ => none

/-- One execution with what is known of it: whether its body is fed from outside, the
events since the last snapshot, whether its future is still there and has shown its
result, and the response gathered so far. -/
structure Member where
  execution : Execution Wire
  isFed : Bool
  events : List Event
  hasFuture : Bool
  isObserved : Bool
  collector : Collector

/-- How a request body stands: the items not yet taken, and whether its consumer has let
go of it. -/
structure BodyStatus where
  left : Nat
  isDropped : Bool
  deriving DecidableEq, Repr

structure MemberStatus where
  isFinished : Bool
  body : Option BodyStatus
  deriving DecidableEq, Repr

namespace Member

/-- The callback an action makes. -/
def callbackOf? : Action → Option Callback
  | .callback made => some made
  | _ => none

/-- Keeps what a run of the execution did. -/
def record (m : Member) (run : Execution.Run Wire) : Member :=
  { m with
    execution := run.1
    events := m.events ++ run.2.filterMap Event.ofAction?
    collector := (run.2.filterMap callbackOf?).foldl Collector.receive m.collector }

def respond (m : Member) (stimulus : Stimulus Wire) : Member :=
  m.record (m.execution.respond stimulus)

/-- The items that the body still holds, as far as it was produced. -/
def bodyItems (m : Member) : List BodyItem :=
  match m.execution.stage.body? with
  | some (body, _) => body.producer.items
  | none => m.execution.request.content.produce.items

/-- How many polls may follow one another: one to begin with, one for each body item, one
for an abort, and one to find that nothing changed. -/
def mostPolls (m : Member) : Nat := m.bodyItems.length + 3

/-- Whether the task asks to be polled again at once: an abort is waiting for it, or its
body answered in a way that asks for it. -/
def asksAgain (m : Member) (before : Member) : Bool :=
  match m.execution.stage with
  | .exchanging _ _ =>
    !m.execution.completion.queue.isEmpty ||
      m.bodyItems.length != before.bodyItems.length
  | _ => false

/-- Polls the task until it asks for no further poll. -/
def settle (m : Member) (now : Instant) : Nat → Member
  | 0 => m
  | polls + 1 =>
    let polled := m.respond (.poll now)
    if polled.asksAgain m then polled.settle now polls else polled

/-- The future shows its result once. -/
def observe (m : Member) : Member :=
  if m.hasFuture && !m.isObserved then
    match m.execution.completion.await with
    | some result => { m with events := m.events ++ [.result result], isObserved := true }
    | none => m
  else m

/-- Feeds the body, if it is one that is fed from outside. -/
def feed (m : Member) (items : List BodyItem) (close : Bool) : Member :=
  if m.isFed then m.respond (.feed items close) else m

def status (m : Member) : MemberStatus where
  isFinished := m.execution.completion.isSettled
  body :=
    if m.isFed then
      m.execution.stage.body?.map fun (body, isDropped) =>
        ⟨body.producer.items.length, isDropped⟩
    else none

end Member

end HttpExchange.Bench
