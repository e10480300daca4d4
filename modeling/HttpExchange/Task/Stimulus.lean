import HttpExchange.Task.Execution

/-!
Everything that can happen to an execution from outside: its task is polled or dropped,
the pool answers, a caller cancels, the connection changes, and the body gains items and
may come to its end. A history of an execution is a list of such stimuli, and `play` is
what the execution does over it.
-/

namespace HttpExchange

inductive Stimulus (σ : Type) where
  | poll (now : Instant)
  | drop
  | answer (answer : Except LeaseError (Connection σ))
  | cancel
  | transport (connection : ConnectionId) (change : σ → σ)
  | feed (items : List BodyItem) (close : Bool)

namespace Connection

variable {σ : Type}

/-- Changes the transport of the connection `id` and of no other. -/
def changeTransport (c : Connection σ) (id : ConnectionId) (change : σ → σ) : Connection σ :=
  if c.id = id then { c with transport := change c.transport } else c

end Connection

/-- Adds items to the producer, and may then end it. -/
def MeteredBody.feed (b : MeteredBody) (items : List BodyItem) (close : Bool) : MeteredBody :=
  let fed := b.producer.feed items
  { b with producer := if close then fed.close else fed }

namespace Stage

variable {σ : Type}

def mapConnection (f : Connection σ → Connection σ) : Stage σ → Stage σ
  | exchanging x lease => .exchanging x ⟨lease.connection.map f⟩
  | closing connection ending body => .closing (f connection) ending body
  | stage => stage

def mapBody (f : MeteredBody → MeteredBody) : Stage σ → Stage σ
  | exchanging x lease =>
    .exchanging { x with frames := { x.frames with body := f x.frames.body } } lease
  | closing connection ending body => .closing connection ending (body.map f)
  | gone departure body => .gone departure (body.map f)
  | stage => stage

/-- The connections a task holds. -/
def connections : Stage σ → List (Connection σ)
  | exchanging _ lease => lease.connection.toList
  | closing connection _ _ => [connection]
  | _ => []

/-- The request body, once it was produced, and whether the task let go of its producer. -/
def body? : Stage σ → Option (MeteredBody × Bool)
  | exchanging x _ => some (x.frames.body, x.frames.body.isReleased)
  | closing _ _ body => body.map fun b => (b, b.isReleased)
  | gone _ body => body.map fun b => (b, true)
  | _ => none

end Stage

namespace Acquisition

variable {σ : Type}

def mapConnection (f : Connection σ → Connection σ) : Acquisition σ → Acquisition σ
  | granted connection => .granted (f connection)
  | acquisition => acquisition

def connections : Acquisition σ → List (Connection σ)
  | granted connection => [connection]
  | _ => []

end Acquisition

namespace Execution

variable {σ : Type}

def mapConnections (e : Execution σ) (f : Connection σ → Connection σ) : Execution σ :=
  { e with
    stage := e.stage.mapConnection f
    acquisition := e.acquisition.mapConnection f
    returned := e.returned.map f
    lost := e.lost.map f }

/-- All connections an execution holds, will get, has to hand back, or has lost. -/
def connections (e : Execution σ) : List (Connection σ) :=
  e.stage.connections ++ e.acquisition.connections ++ e.returned ++ e.lost

variable [Transport σ]

def respond (e : Execution σ) : Stimulus σ → Run σ
  | .poll now => e.poll now
  | .drop => e.drop
  | .answer answer => (e.answer answer, [])
  | .cancel => e.cancel
  | .transport id change => (e.mapConnections (·.changeTransport id change), [])
  | .feed items close => ({ e with stage := e.stage.mapBody (·.feed items close) }, [])

/-- The execution after a history, and all it did. -/
def play (e : Execution σ) : List (Stimulus σ) → Run σ
  | [] => (e, [])
  | stimulus :: rest =>
    let responded := e.respond stimulus
    (responded.1.play rest).after responded.2

end Execution

end HttpExchange
