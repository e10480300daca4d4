import HttpExchange.Json.Value
import HttpExchange.Task.Handler

/-!
A response gathered in memory from the callbacks of its execution. The response can be
taken once it is complete and has a head; taking it leaves neither head nor body
behind. The body can be read as text or as JSON at any time.
-/

namespace HttpExchange

structure Collector where
  head : Option ResponseHead
  body : Bytes
  trailers : Option Headers
  isComplete : Bool
  hasFailed : Bool
  deriving DecidableEq, Repr

/-- A response that was taken. -/
structure Response where
  head : ResponseHead
  body : Bytes
  deriving DecidableEq, Repr

namespace Collector

def empty : Collector := ⟨none, [], none, false, false⟩

def receive (c : Collector) : Callback → Collector
  | .headers head => { c with head := some head }
  | .data bytes => { c with body := c.body ++ bytes }
  | .trailers fields => { c with trailers := some fields }
  | .complete => { c with isComplete := true }
  | .failed _ => { c with hasFailed := true }

def status (c : Collector) : Option Nat := c.head.map ResponseHead.status

def take (c : Collector) : Option Response × Collector :=
  if c.isComplete then
    match c.head with
    | some head => (some ⟨head, c.body⟩, { c with head := none, body := [] })
    | none => (none, c)
  else (none, c)

def text (c : Collector) : String := Utf8.readLossy c.body

def json (c : Collector) : Except Json.Problem Json.Value := Json.read c.body

end Collector

end HttpExchange
