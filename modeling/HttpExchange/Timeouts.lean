import HttpExchange.Time

/-!
How long an execution may stand still: while its request is being written and while
its response is being read. A span of zero switches the timer off.
-/

namespace HttpExchange

structure Timeouts where
  write : Duration
  read : Duration
  deriving DecidableEq, Repr

/-- Thirty seconds in each direction. -/
def Timeouts.standard : Timeouts := ⟨.ofSeconds 30, .ofSeconds 30⟩

end HttpExchange
