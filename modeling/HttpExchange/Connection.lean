import HttpExchange.Transport

/-!
A connection as a pool hands it out: a transport with its identity, the protocol that
was negotiated on it, whether it is still open, and the next stream to use.
-/

namespace HttpExchange

/-- The identity a pool gives a connection. -/
structure ConnectionId where
  value : Nat
  deriving DecidableEq, Repr

def ConnectionId.text (id : ConnectionId) : String := "conn-" ++ toString id.value

structure Connection (σ : Type) where
  id : ConnectionId
  negotiated : String
  transport : σ
  isOpen : Bool
  nextStream : UInt32

namespace Connection

variable {σ : Type}

/-- A fresh connection is open and starts with stream one. -/
def ofTransport (id : ConnectionId) (negotiated : String) (transport : σ) : Connection σ :=
  ⟨id, negotiated, transport, true, 1⟩

/-- The largest stream number there is. -/
def lastStream : UInt32 := 4294967295

/-- Two further than `n`, but never beyond the largest stream number. -/
def streamAfter (n : UInt32) : UInt32 := if n ≤ lastStream - 2 then n + 2 else lastStream

def allocateStream (c : Connection σ) : StreamId × Connection σ :=
  (⟨c.nextStream⟩, { c with nextStream := streamAfter c.nextStream })

/-- A closed connection must not be used again. -/
def markClosed (c : Connection σ) : Connection σ := { c with isOpen := false }

/-- Asks the transport to close. The connection counts as closed from then on, even if
the transport is not ready to close or fails to. -/
def close [Transport σ] (c : Connection σ) : Readiness × Connection σ :=
  let closed := Transport.close c.transport
  (closed.1, { c with transport := closed.2, isOpen := false })

end Connection

end HttpExchange
