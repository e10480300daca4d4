import HttpExchange.Failure.NetError
import HttpExchange.StreamFrame

/-!
What an exchange needs from a connection: to ask whether it takes a frame, to hand it
one, to flush, to close, and to take the next frame it received. Any of these but the
handing over may find the connection not ready.

A transport is a state together with these five operations. The only law is that
what was received is finite: every frame taken leaves a smaller `backlog`.
-/

namespace HttpExchange

/-- What a connection answers when asked to make room, to flush or to close. -/
inductive Readiness where
  | pending
  | done
  | failed (error : NetError)
  deriving DecidableEq, Repr

/-- What a connection answers when asked for a received frame. -/
inductive Arrival where
  | pending
  | frame (frame : Inbound)
  | failed (error : NetError)
  | closed
  deriving DecidableEq, Repr

class Transport (σ : Type) where
  ready : σ → Readiness × σ
  send : σ → Outbound → Option NetError × σ
  flush : σ → Readiness × σ
  close : σ → Readiness × σ
  receive : σ → Arrival × σ
  backlog : σ → Nat
  receive_backlog : ∀ (s : σ) (frame : Inbound),
    (receive s).1 = .frame frame → backlog (receive s).2 < backlog s

end HttpExchange
