import HttpExchange.Transport

/-!
A transport whose answers are set from outside. It takes as many frames as its
capacity says, fails where an error is set, holds back flushing and closing while told
to, and yields the received frames it was given.
-/

namespace HttpExchange.Bench

/-- What waits to be received. The end of the stream stays where it is. -/
inductive Parcel where
  | frame (frame : Inbound)
  | failed (error : NetError)
  | closed
  deriving DecidableEq, Repr

structure Wire where
  capacity : Option Nat
  readyError : Option NetError
  sendError : Option NetError
  flushError : Option NetError
  closeError : Option NetError
  holdsFlush : Bool
  holdsClose : Bool
  inbound : List Parcel
  deriving DecidableEq, Repr

/-- Changes to a wire. Absent settings stay as they are. -/
structure WireChange where
  capacity : Option (Option Nat)
  readyError : Option (Option NetError)
  sendError : Option (Option NetError)
  flushError : Option (Option NetError)
  closeError : Option (Option NetError)
  holdsFlush : Option Bool
  holdsClose : Option Bool
  inbound : List Parcel
  deriving DecidableEq, Repr

namespace Wire

/-- Takes everything and has received nothing. -/
def idle : Wire := ⟨none, none, none, none, none, false, false, []⟩

/-- The settings of a change, with its parcels behind those already waiting. -/
def apply (w : Wire) (change : WireChange) : Wire where
  capacity := change.capacity.getD w.capacity
  readyError := change.readyError.getD w.readyError
  sendError := change.sendError.getD w.sendError
  flushError := change.flushError.getD w.flushError
  closeError := change.closeError.getD w.closeError
  holdsFlush := change.holdsFlush.getD w.holdsFlush
  holdsClose := change.holdsClose.getD w.holdsClose
  inbound := w.inbound ++ change.inbound

def ready (w : Wire) : Readiness :=
  match w.readyError with
  | some error => .failed error
  | none => if w.capacity = some 0 then .pending else .done

def send (w : Wire) : Option NetError × Wire :=
  match w.sendError with
  | some error => (some error, w)
  | none => (none, { w with capacity := w.capacity.map (· - 1) })

def flush (w : Wire) : Readiness :=
  match w.flushError with
  | some error => .failed error
  | none => if w.holdsFlush then .pending else .done

def close (w : Wire) : Readiness :=
  match w.closeError with
  | some error => .failed error
  | none => if w.holdsClose then .pending else .done

def receive (w : Wire) : Arrival × Wire :=
  match w.inbound with
  | [] => (.pending, w)
  | .frame frame :: rest => (.frame frame, { w with inbound := rest })
  | .failed error :: rest => (.failed error, { w with inbound := rest })
  | .closed :: _ => (.closed, w)

theorem receive_shorter (w : Wire) (frame : Inbound) (h : w.receive.1 = .frame frame) :
    w.receive.2.inbound.length < w.inbound.length := by
  unfold receive at h ⊢
  split at h <;> simp_all

end Wire

instance : Transport Wire where
  ready w := (w.ready, w)
  send w _ := w.send
  flush w := (w.flush, w)
  close w := (w.close, w)
  receive := Wire.receive
  backlog w := w.inbound.length
  receive_backlog := Wire.receive_shorter

end HttpExchange.Bench
