import HttpExchange.Failure.Fault

/-!
The slot that an execution's task shares with its future and with whoever may cancel
it. The first completion settles the result and every later one is refused.

A cancellation is a completion followed, if it was the one that settled the result,
by an abort. The abort goes to the queue of the connection that drives the exchange;
before a connection is attached it is parked and delivered on attaching, and after
the connection was handed back it goes nowhere.
-/

namespace HttpExchange

/-- What an execution's future yields. -/
inductive Result where
  | success
  | failure (fault : Fault)
  deriving DecidableEq, Repr

/-- Where an abort can reach the exchange. -/
inductive AbortSlot where
  | unleased
  | leased
  | parked (abort : Failure)
  | released
  deriving DecidableEq, Repr

/-- `isSettled` says that the sending side of the result was used up; `result` is what
was sent; `queue` holds the aborts sent to the exchange and not yet taken. -/
structure Completion where
  execution : ExecutionId
  isSettled : Bool
  result : Option Result
  slot : AbortSlot
  queue : List Failure
  deriving DecidableEq, Repr

namespace Completion

def fresh (execution : ExecutionId) : Completion := ⟨execution, false, none, .unleased, []⟩

/-- Settles the result; answers whether it was still open. -/
def complete (c : Completion) (result : Result) : Bool × Completion :=
  if c.isSettled then (false, c)
  else (true, { c with isSettled := true, result := some result })

/-- A connection was leased. A parked abort is delivered to it. -/
def attach (c : Completion) : Completion :=
  match c.slot with
  | .parked abort => { c with slot := .leased, queue := c.queue ++ [abort] }
  | _ => { c with slot := .leased }

/-- The connection was handed back. -/
def detach (c : Completion) : Completion := { c with slot := .released }

/-- Sends an abort to wherever it can reach the exchange. -/
def abort (c : Completion) (failure : Failure) : Completion :=
  match c.slot with
  | .unleased => { c with slot := .parked failure }
  | .leased => { c with queue := c.queue ++ [failure] }
  | .parked _ => c
  | .released => c

def cancellation (c : Completion) : Failure := .cancelled c.execution

/-- Completes with a cancellation; answers whether that settled the result. -/
def cancel (c : Completion) : Bool × Completion :=
  match c.complete (.failure c.cancellation.classify) with
  | (true, settled) => (true, settled.abort c.cancellation)
  | (false, settled) => (false, settled)

/-- The next abort for the exchange. -/
def takeAbort (c : Completion) : Option Failure × Completion :=
  match c.queue with
  | [] => (none, c)
  | abort :: rest => (some abort, { c with queue := rest })

/-- What the future answers: nothing yet, the result, or that the sending side went
away without one. -/
def await (c : Completion) : Option Result :=
  match c.result with
  | some result => some result
  | none => if c.isSettled then some (.failure Failure.abandoned.classify) else none

end Completion

end HttpExchange
