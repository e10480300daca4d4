import HttpExchange.Failure.Fault
import HttpExchange.Time

/-!
A single idle timer. It is due one period after it was started or last touched, and
stays due until it is touched again. Starting it cuts a period short that is longer than
any timer waits; touching it computes the exact deadline, which may lie beyond what the
clock can show.
-/

namespace HttpExchange

structure IdleTimer where
  phase : Phase
  period : Duration
  deadline : Instant
  deriving DecidableEq, Repr

namespace IdleTimer

def start (phase : Phase) (period : Duration) (now : Instant) : IdleTimer :=
  ⟨phase, period, now.sleepUntil period⟩

/-- Records progress; there is no such timer if its deadline does not exist. -/
def touch? (t : IdleTimer) (now : Instant) : Option IdleTimer :=
  (now.after? t.period).map fun deadline => { t with deadline := deadline }

def isDue (t : IdleTimer) (now : Instant) : Bool := t.deadline.isDue now

def failure (t : IdleTimer) : Failure :=
  match t.phase with
  | .write => .writeIdle t.period
  | .read => .readIdle t.period

end IdleTimer

end HttpExchange
