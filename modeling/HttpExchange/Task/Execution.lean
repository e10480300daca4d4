import HttpExchange.Body.Content
import HttpExchange.Exchange.Poll

/-!
The execution of one request. Its task waits for a connection, configures the
pipeline, drives the exchange, closes the connection if it cannot be used again, hands
it back, and tells the handler and the future how it ended.

A task that goes away early leaves two things behind it. A lease that still holds its
connection hands it back closed, and a result that is still open becomes `abandoned`;
the second only if the task was polled at least once.
-/

namespace HttpExchange

structure Request where
  head : RequestHead
  content : Content
  isFullDuplex : Bool
  deriving DecidableEq, Repr

/-- What the pool has answered so far. -/
inductive Acquisition (σ : Type) where
  | waiting
  | granted (connection : Connection σ)
  | refused (error : LeaseError)
  | taken

/-- What the pool's one answer makes of the waiting. -/
def Acquisition.ofAnswer {σ : Type} : Except LeaseError (Connection σ) → Acquisition σ
  | .ok connection => .granted connection
  | .error error => .refused error

/-- What is left to do once the connection is closed. -/
inductive Ending where
  | success
  | failure (message : String) (failure : Failure)
  deriving DecidableEq, Repr

/-- How a task went away. -/
inductive Departure where
  | finished
  | crashed
  | dropped
  deriving DecidableEq, Repr

/-- Where a task stands. `body` is the request body, once it was produced. -/
inductive Stage (σ : Type) where
  | created
  | acquiring
  | exchanging (exchange : Exchange) (lease : Lease σ)
  | closing (connection : Connection σ) (ending : Ending) (body : Option MeteredBody)
  | gone (departure : Departure) (body : Option MeteredBody)

/-- `returned` are the connections handed back to the pool, and `lost` those that went
away with the task. -/
structure Execution (σ : Type) where
  request : Request
  timeouts : Timeouts
  handler : Handler
  completion : Completion
  acquisition : Acquisition σ
  stage : Stage σ
  returned : List (Connection σ)
  lost : List (Connection σ)

namespace Execution

variable {σ : Type}

/-- What a part of a task did, with the execution after it. -/
abbrev Run (σ : Type) := Execution σ × List Action

def Run.after (run : Run σ) (actions : List Action) : Run σ := (run.1, actions ++ run.2)

/-- A new execution. Its connection is asked for at once; its task is not polled yet. -/
def start (id : ExecutionId) (request : Request) (timeouts : Timeouts) (handler : Handler)
    (acquisition : Acquisition σ) : Run σ :=
  ({ request, timeouts, handler, completion := .fresh id, acquisition, stage := .created,
     returned := [], lost := [] }, [.acquire])

def uri (e : Execution σ) : String := e.request.head.uri

/-- The pool answers, if it had not answered before. -/
def answer (e : Execution σ) (answer : Except LeaseError (Connection σ)) : Execution σ :=
  match e.acquisition with
  | .waiting => { e with acquisition := .ofAnswer answer }
  | _ => e

def cancel (e : Execution σ) : Run σ :=
  let cancelled := e.completion.cancel
  ({ e with completion := cancelled.2 }, [.cancel cancelled.1])

/-- The guard of a task that is going away settles a result that is still open. -/
def leave (e : Execution σ) (departure : Departure) (body : Option MeteredBody) : Run σ :=
  let result := Result.failure Failure.abandoned.classify
  let settled := e.completion.complete result
  ({ e with completion := settled.2, stage := .gone departure body },
    .settle result settled.1 ::
      if settled.1 then [.log ⟨.warn, Failure.abandoned.text⟩] else [])

/-- Hands a connection back to the pool. -/
def release (e : Execution σ) (connection : Connection σ) : Run σ :=
  ({ e with completion := e.completion.detach, returned := e.returned ++ [connection] },
    [.release connection.id connection.isOpen])

/-- A lease that goes away hands back the connection it still holds, as closed. -/
def dropLease (e : Execution σ) (lease : Lease σ) : Run σ :=
  match lease.connection with
  | none => (e, [])
  | some connection =>
    (e.release connection.markClosed).after
      [.log ⟨.warn, "lease dropped without release, discarding connection"⟩]

/-- Makes the last callback and settles the result, unless the handler breaks off. -/
def conclude (e : Execution σ) (callback : Callback) (result : Result)
    (body : Option MeteredBody) : Run σ :=
  let called := e.handler.call callback e.completion
  let told := { e with completion := called.completion }
  if called.brokeOff then (told.leave .crashed body).after called.actions
  else
    let settled := told.completion.complete result
    ({ told with completion := settled.2 }.leave .finished body).after
      (called.actions ++ [Action.settle result settled.1])

/-- Logs a failure, tells the handler, and fails the future with it. -/
def fail (e : Execution σ) (message : String) (failure : Failure) (body : Option MeteredBody) :
    Run σ :=
  let fault := failure.classify
  (e.conclude (.failed fault) (.failure fault) body).after [.log ⟨.error, message⟩]

/-- What remains once the connection was handed back. -/
def finish (e : Execution σ) (ending : Ending) (body : Option MeteredBody) : Run σ :=
  match ending with
  | .success => e.conclude .complete .success body
  | .failure message failure => e.fail message failure body

/-- What a failing exchange leaves to do. -/
def endingOf (e : Execution σ) : Outcome → Ending
  | .complete => .success
  | .writeFailed failure => .failure ("Failed to make request to " ++ e.uri) failure
  | .failed failure => .failure ("Failed to read response from " ++ e.uri) failure
  | .aborted failure => .failure ("Request to " ++ e.uri ++ " was aborted") failure

variable [Transport σ]

/-- Asks the connection to close; once it is closed, hands it back and finishes. -/
def pollClose (e : Execution σ) (connection : Connection σ) (ending : Ending)
    (body : Option MeteredBody) : Run σ :=
  let closed := connection.close
  let action := Action.close connection.id closed.1
  match closed.1 with
  | .pending => ({ e with stage := .closing closed.2 ending body }, [action])
  | _ =>
    let released := e.release closed.2
    (released.1.finish ending body).after (action :: released.2)

/-- Closes the connection of a lease. -/
def closeLease (e : Execution σ) (lease : Lease σ) (ending : Ending)
    (body : Option MeteredBody) : Run σ :=
  match lease.connection with
  | none => e.finish ending body
  | some connection => e.pollClose connection ending body

/-- The exchange came to an end. Its connection can be used again only if the response
is complete and the whole request was written before. -/
def endExchange (e : Execution σ) (x : Exchange) (lease : Lease σ) (outcome : Outcome) :
    Run σ :=
  let ending := e.endingOf outcome
  let body := some x.frames.body
  match outcome, x.writeState, lease.connection with
  | .complete, .done, some connection =>
    let released := e.release connection
    (released.1.finish ending body).after released.2
  | _, _, _ => e.closeLease lease ending body

/-- Polls the exchange and deals with its end. -/
def pollExchange (e : Execution σ) (x : Exchange) (lease : Lease σ) (now : Instant) : Run σ :=
  let step := x.poll lease e.handler e.completion now
  let e := { e with completion := step.completion }
  let run : Run σ :=
    match step.turn with
    | .pending => ({ e with stage := .exchanging step.exchange step.resource }, [])
    | .ended outcome => e.endExchange step.exchange step.resource outcome
    | .crashed =>
      let dropped := e.dropLease step.resource
      (dropped.1.leave .crashed (some step.exchange.frames.body)).after dropped.2
  run.after step.actions

/-- The exchange on a configured connection. A full-duplex exchange reads from the
start. -/
def beginExchange (e : Execution σ) (pipeline : Pipeline) (connection : Connection σ)
    (now : Instant) : Run σ :=
  let head := e.request.head
  let body := MeteredBody.ofProducer head.headers e.request.content.produce
  let x := Exchange.ofRequest (.ofBody head body) pipeline e.timeouts
  let warnings := head.headers.declaredLength.2.map .log
  if e.request.isFullDuplex then
    (e.pollExchange (x.resumeReads now) ⟨some connection⟩ now).after
      (.produce :: warnings ++ [.timer .installRead])
  else (e.pollExchange x ⟨some connection⟩ now).after (.produce :: warnings)

/-- A connection was leased. -/
def useConnection (e : Execution σ) (connection : Connection σ) (now : Instant) : Run σ :=
  let e := { e with completion := e.completion.attach, acquisition := .taken }
  let configured := Pipeline.configure connection
  let run : Run σ :=
    match configured.1 with
    | .ok pipeline => e.beginExchange pipeline configured.2 now
    | .error failure => e.closeLease ⟨some configured.2⟩ (.failure failure.text failure) none
  run.after [.leased connection.id]

/-- Looks for the pool's answer. -/
def pollAcquire (e : Execution σ) (now : Instant) : Run σ :=
  match e.acquisition with
  | .waiting | .taken => ({ e with stage := .acquiring }, [])
  | .refused error =>
    let e := { e with acquisition := .taken }
    (e.fail ("Failed to create connection to " ++ e.uri) (.lease error) none).after
      [.refused error]
  | .granted connection => e.useConnection connection now

/-- One poll of the task. -/
def poll (e : Execution σ) (now : Instant) : Run σ :=
  match e.stage with
  | .created | .acquiring => e.pollAcquire now
  | .exchanging x lease => e.pollExchange x lease now
  | .closing connection ending body => e.pollClose connection ending body
  | .gone _ _ => (e, [])

omit [Transport σ] in
/-- A connection that the pool granted but the task never took goes away with it. -/
def abandonAcquisition (e : Execution σ) : Execution σ :=
  match e.acquisition with
  | .granted connection => { e with acquisition := .taken, lost := e.lost ++ [connection] }
  | _ => { e with acquisition := .taken }

omit [Transport σ] in
/-- The task is dropped where it stands. A connection that is being closed is no longer
in its lease and goes away with the task; a task that was never polled has no guard. -/
def drop (e : Execution σ) : Run σ :=
  match e.stage with
  | .created => ({ e.abandonAcquisition with stage := .gone .dropped none }, [])
  | .acquiring => e.abandonAcquisition.leave .dropped none
  | .exchanging x lease =>
    let dropped := e.dropLease lease
    (dropped.1.leave .dropped (some x.frames.body)).after dropped.2
  | .closing connection _ body =>
    ({ e with lost := e.lost ++ [connection] }.leave .dropped body)
  | .gone _ _ => (e, [])

end Execution

end HttpExchange
