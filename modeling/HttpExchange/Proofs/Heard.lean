import HttpExchange.Proofs.Cancellation
import HttpExchange.Proofs.Remaining

/-!
The events and the failures of a trace. A frame that was received stands for the events that its
pipeline reads in it. An answer is a failure or it is none, and what polling a body or a frame
source fails with is a failure of the producer.
-/

namespace HttpExchange

open Trace

namespace Callback

/-- The callbacks that deliver events. What is behind the end of a response is not delivered. -/
def ofEvents (events : List ResponseEvent) : List Callback :=
  (events.takeWhile (· ≠ .finish)).filterMap ofEvent?

theorem ofEvents_cons {event : ResponseEvent} {callback : Callback}
    (made : ofEvent? event = some callback) (events : List ResponseEvent) :
    ofEvents (event :: events) = callback :: ofEvents events := by
  cases event <;> cases made <;> rfl

theorem ofEvents_append_of_open {events : List ResponseEvent} (unfinished : .finish ∉ events)
    (more : List ResponseEvent) : ofEvents (events ++ more) = ofEvents events ++ ofEvents more := by
  induction events with
  | nil => rfl
  | cons event rest ih =>
      have later : .finish ∉ rest := List.not_mem_of_not_mem_cons unfinished
      cases made : ofEvent? event with
      | none =>
          cases event <;> cases made
          exact absurd List.mem_cons_self unfinished
      | some callback =>
          rw [List.cons_append, ofEvents_cons made, ofEvents_cons made, ih later, List.cons_append]

end Callback

namespace Pipeline

/-- The events that received frames stand for. -/
def events (p : Pipeline) (frames : List Inbound) : List ResponseEvent :=
  frames.flatMap fun frame => (p.decode frame []).1

variable {p : Pipeline}

theorem events_append (p : Pipeline) (first second : List Inbound) :
    p.events (first ++ second) = p.events first ++ p.events second :=
  List.flatMap_append

/-- A frame that cannot be decoded stands for nothing. -/
theorem decode_of_refused {frame : Inbound} {failure : Failure}
    (refused : (p.decode frame []).2 = some failure) : (p.decode frame []).1 = [] := by
  cases p with
  | single =>
      cases frame with
      | single event => cases refused
      | multiplexed frame => rfl
  | multiplexed writer reader =>
      cases frame with
      | single event => rfl
      | multiplexed frame =>
          simp only [decode, StreamReader.decode] at refused ⊢
          split at refused
          · cases refused
          · rfl

/-- Writing does not change how frames are read. -/
theorem decode_encode (p : Pipeline) (frame : RequestFrame) :
    (p.encode frame).2.decode = p.decode := by
  funext frame queue
  cases p <;> cases frame <;> rfl

theorem decode_advance (p : Pipeline) (frames : List RequestFrame) :
    (p.advance frames).decode = p.decode := by
  induction frames generalizing p with
  | nil => rfl
  | cons frame rest ih => exact (ih _).trans (p.decode_encode frame)

end Pipeline

/-- The failure that an answer of the producer is. -/
def BodyAnswer.failure? : BodyAnswer → Option Failure
  | failed error => some (.body error)
  | _ => none

def FrameAnswer.failure? : FrameAnswer → Option Failure
  | failed failure => some failure
  | _ => none

def WriteTurn.failure? : WriteTurn → Option Failure
  | failed failure => some failure
  | _ => none

def Outcome.failure? : Outcome → Option Failure
  | complete => none
  | writeFailed failure | failed failure | aborted failure => some failure

def Turn.failure? : Turn → Option Failure
  | ended outcome => outcome.failure?
  | pending | crashed => none

namespace Action

/-- The frame that was received. -/
@[simp]
def received? : Action → Option Inbound
  | receive (.frame frame) => some frame
  | _ => none

/-- The failure that an answer is, on a connection that is framed so, if it can be framed at all.
That a connection fails to close is none. -/
@[simp]
def failure? (framing : Except Failure Pipeline) : Action → Option Failure
  | refused error => some (.lease error)
  | leased _ =>
    match framing with
    | .ok _ => none
    | .error failure => some failure
  | control abort => abort
  | ready (.failed error) | flush (.failed error) | write _ (some error) =>
    some (.writeFailed error)
  | produced answer => answer.failure?
  | receive (.failed error) => some (.net error)
  | receive .closed => some (.net .connectionClosed)
  | receive (.frame frame) =>
    match framing with
    | .ok p => (p.decode frame []).2
    | .error _ => none
  | timerCheck fired => fired
  | _ => none

end Action

namespace Trace

abbrev received (trace : List Action) : List Inbound := trace.filterMap Action.received?

abbrev failures (framing : Except Failure Pipeline) (trace : List Action) : List Failure :=
  trace.filterMap (Action.failure? framing)

theorem received_append (first second : List Action) :
    received (first ++ second) = received first ++ received second :=
  List.filterMap_append

theorem failures_append (framing : Except Failure Pipeline) (first second : List Action) :
    failures framing (first ++ second) = failures framing first ++ failures framing second :=
  List.filterMap_append

theorem Only.received_eq_nil {trace : List Action} (only : Only Action.isWriting trace) :
    received trace = [] :=
  only.filterMap_eq_nil fun action h => by cases action <;> first | rfl | cases h

theorem Only.callbacks_eq_nil {trace : List Action} (only : Only Action.isWriting trace) :
    callbacks trace = [] :=
  only.filterMap_eq_nil fun action h => by cases action <;> first | rfl | cases h

end Trace

theorem MeteredBody.poll_failure (b : MeteredBody) :
    b.poll.asked.bind BodyAnswer.failure? = b.poll.answer.failure? := by
  cases ended : b.isOver with
  | true =>
      rw [poll_of_over ended]
      rfl
  | false =>
      have not_done : b.allowance.done = false := by
        simp only [isOver, Bool.or_eq_false_iff] at ended
        exact ended.1
      rw [poll_of_open ended]
      cases b.producer.poll.1 with
      | pending | trailers _ | finished => rfl
      | data chunk => simp only [pass]; split <;> rfl
      | failed error => simp [pass, Allowance.close, not_done]

/-- A source fails exactly with what its producer failed with. -/
theorem FrameSource.poll_failure (s : FrameSource) :
    s.poll.asked.filterMap BodyAnswer.failure? = s.poll.answer.failure?.toList := by
  have asked (b : MeteredBody) : b.poll.asked.toList.filterMap BodyAnswer.failure? =
      b.poll.answer.failure?.toList := by
    rw [← b.poll_failure]
    cases b.poll.asked with
    | none => rfl
    | some answer => cases answer <;> rfl
  have body_failure (b : MeteredBody) :
      (pollBody b).asked.filterMap BodyAnswer.failure? = (pollBody b).answer.failure?.toList := by
    fun_induction pollBody b with
    | case2 b answered later ih =>
        rw [List.filterMap_append, ih, asked, answered]
        rfl
    | case1 b answered | case3 b _ _ answered | case4 b _ answered | case5 b _ answered
    | case6 b answered =>
        rw [asked, answered]
        rfl
  unfold poll
  cases s.phase with
  | head head | done => rfl
  | body => exact body_failure s.body

end HttpExchange
