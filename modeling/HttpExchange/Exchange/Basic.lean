import HttpExchange.Body.Frames
import HttpExchange.Framing.Pipeline
import HttpExchange.Idle.Watch
import HttpExchange.Task.Action

/-!
One exchange on a leased connection: what is left to write, how it is framed, the idle
timers, how far the request got, whether the response is being read, and the events
received but not yet delivered. The connection itself is kept apart, in a `Lease`.
-/

namespace HttpExchange

/-- How far the request got. -/
inductive WriteState where
  | writing
  | flushing
  | done
  deriving DecidableEq, Repr

structure Exchange where
  frames : FrameSource
  pipeline : Pipeline
  idle : IdleWatch
  writeState : WriteState
  isReading : Bool
  events : List ResponseEvent
  deriving DecidableEq, Repr

/-- How an exchange ended. -/
inductive Outcome where
  | complete
  | writeFailed (failure : Failure)
  | failed (failure : Failure)
  | aborted (failure : Failure)
  deriving DecidableEq, Repr

namespace Exchange

def ofRequest (frames : FrameSource) (pipeline : Pipeline) (periods : Timeouts) : Exchange :=
  ⟨frames, pipeline, .ofTimeouts periods, .writing, false, []⟩

/-- Turns reads on, which starts the read timer. -/
def resumeReads (x : Exchange) (now : Instant) : Exchange :=
  { x with idle := x.idle.installRead now, isReading := true }

end Exchange

/-- A leased connection. It is gone from the lease once it was handed back, or is being
closed in order to be handed back. -/
structure Lease (σ : Type) where
  connection : Option (Connection σ)

end HttpExchange
