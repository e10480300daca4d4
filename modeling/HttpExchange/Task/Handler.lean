import HttpExchange.Message
import HttpExchange.Task.Completion

/-!
The callbacks an execution makes to its response handler. All a handler can do to the
execution is to cancel it and to break off, both from within a callback; a `Handler`
says for each callback which of these it does, in this order.
-/

namespace HttpExchange

inductive Callback where
  | headers (head : ResponseHead)
  | data (bytes : Bytes)
  | trailers (fields : Headers)
  | complete
  | failed (fault : Fault)
  deriving DecidableEq, Repr

inductive CallbackKind where
  | headers
  | data
  | trailers
  | complete
  | failed
  deriving DecidableEq, Repr

namespace Callback

def kind : Callback → CallbackKind
  | headers _ => .headers
  | data _ => .data
  | trailers _ => .trailers
  | complete => .complete
  | failed _ => .failed

/-- The callback that delivers an event; the end of a response has none of its own. -/
def ofEvent? : ResponseEvent → Option Callback
  | .head head => some (.headers head)
  | .data bytes => some (.data bytes)
  | .trailers fields => some (.trailers fields)
  | .finish => none

end Callback

/-- What a handler does at the end of a callback. -/
structure Reaction where
  cancels : Bool
  breaksOff : Bool
  deriving DecidableEq, Repr

abbrev Handler := Callback → Reaction

namespace Handler

/-- The handler that only listens. -/
def quiet : Handler := fun _ => ⟨false, false⟩

/-- The handler that cancels on one kind of callback and breaks off on another. -/
def ofKinds (cancelOn breakOffOn : Option CallbackKind) : Handler := fun callback =>
  ⟨cancelOn = some callback.kind, breakOffOn = some callback.kind⟩

end Handler

end HttpExchange
