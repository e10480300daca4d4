import HttpExchange.Bench.Member
import HttpExchange.ExecutionIds

/-!
Executions side by side over one pool of resting connections and one clock. Changes
act on the world from outside. Whenever some have been made, all tasks run until none
can make progress, the connections handed back go to rest in the pool, and the results
that have become known are shown. Executions do not see one another except through the
pool, and that only while a change is made, so the order in which their tasks run makes
no difference.
-/

namespace HttpExchange.Bench

/-- What the pool answers to an execution. -/
inductive Answer where
  | connection (id : ConnectionId)
  | refusal (error : LeaseError)
  | pending
  deriving DecidableEq, Repr

/-- What an execution is started with, apart from its request. -/
structure Launch where
  timeouts : Timeouts
  handler : Handler
  answer : Answer

inductive Change where
  | execute (request : Request) (isFed : Bool) (launch : Launch)
  | again (member : Nat) (launch : Launch)
  | lease (member : Nat) (answer : Answer)
  | wire (connection : ConnectionId) (change : WireChange)
  | feed (member : Nat) (items : List BodyItem) (close : Bool)
  | cancel (member : Nat)
  | dropFuture (member : Nat)
  | advance (span : Duration)

structure World where
  now : Instant
  ids : ExecutionIds
  pool : List (Connection Wire)
  members : List Member

/-- What a snapshot shows. Events are grouped by execution, and connections are in the
order of their identities. -/
structure Snapshot where
  events : List (Nat × Event)
  members : List MemberStatus
  inbound : List (ConnectionId × Nat)
  resting : List (ConnectionId × Bool)
  now : Instant
  deriving DecidableEq, Repr

/-- A snapshot after each step, one after shutting down, and what the handlers gathered. -/
structure Report where
  snapshots : List Snapshot
  last : Snapshot
  collected : List Collector
  deriving DecidableEq, Repr

/-- The pool's refusal of a connection that is not there. -/
def nothingResting : LeaseError := .ofMessage .other "no connection scripted"

/-- The pool's refusal when it goes away. -/
def poolShutDown : LeaseError := .ofMessage .closed "pool shut down"

namespace World

def ofPool (pool : List (Connection Wire)) : World := ⟨.start, .fresh, pool, []⟩

/-- Takes a connection out of the pool. -/
def takeResting (w : World) (id : ConnectionId) : Option (Connection Wire) × World :=
  (w.pool.find? (·.id = id), { w with pool := w.pool.filter (·.id ≠ id) })

/-- What the pool answers, if it answers at once, and the pool without what it gave. -/
def resolve (w : World) : Answer → Option (Except LeaseError (Connection Wire)) × World
  | .pending => (none, w)
  | .refusal error => (some (.error error), w)
  | .connection id =>
    match w.takeResting id with
    | (some connection, rest) => (some (.ok connection), rest)
    | (none, rest) => (some (.error nothingResting), rest)

def updateMember (w : World) (index : Nat) (f : Member → Member) : World :=
  { w with members := w.members.modify index f }

def execute (w : World) (request : Request) (isFed : Bool) (launch : Launch) : World :=
  let resolved := w.resolve launch.answer
  let numbered := resolved.2.ids.next
  let acquisition := (resolved.1.map Acquisition.ofAnswer).getD .waiting
  let started := Execution.start numbered.1 request launch.timeouts launch.handler acquisition
  let member := Member.record ⟨started.1, isFed, [], true, false, .empty⟩ started
  let member := { member with events := member.events ++ [.started numbered.1] }
  { resolved.2 with ids := numbered.2, members := resolved.2.members ++ [member] }

/-- Answers an execution that is still waiting for its connection. -/
def lease (w : World) (index : Nat) (answer : Answer) : World :=
  match w.members[index]? with
  | none => w
  | some member =>
    match member.execution.acquisition with
    | .waiting =>
      match w.resolve answer with
      | (some resolved, rest) => rest.updateMember index fun m => m.respond (.answer resolved)
      | (none, rest) => rest
    | _ => w

/-- Changes the wire of a connection, wherever the connection is. -/
def changeWire (w : World) (id : ConnectionId) (change : WireChange) : World :=
  { w with
    pool := w.pool.map fun c => c.changeTransport id (·.apply change)
    members := w.members.map fun m => m.respond (.transport id (·.apply change)) }

def apply (w : World) : Change → World
  | .execute request isFed launch => w.execute request isFed launch
  | .again index launch =>
    match w.members[index]? with
    | none => w
    | some member => w.execute member.execution.request member.isFed launch
  | .lease index answer => w.lease index answer
  | .wire connection change => w.changeWire connection change
  | .feed index items close => w.updateMember index (·.feed items close)
  | .cancel index => w.updateMember index fun m => m.respond .cancel
  | .dropFuture index => w.updateMember index fun m => { m with hasFuture := false }
  | .advance span => { w with now := w.now.advance span }

/-- Connections handed back go to rest. -/
def collectReturned (w : World) : World :=
  { w with
    pool := w.pool ++ w.members.flatMap (·.execution.returned)
    members := w.members.map fun m =>
      { m with execution := { m.execution with returned := [] } } }

/-- Runs all tasks until none can make progress. -/
def settle (w : World) : World :=
  let settled := w.members.map fun m => m.settle w.now m.mostPolls
  collectReturned { w with members := settled }

/-- Drops every task that has not gone away. -/
def shutDown (w : World) : World :=
  let dropped := w.members.map fun m => m.respond .drop
  collectReturned { w with members := dropped }

def observe (w : World) : World := { w with members := w.members.map Member.observe }

def connections (w : World) : List (Connection Wire) :=
  w.pool ++ w.members.flatMap (·.execution.connections)

def byId (connections : List (Connection Wire)) : List (Connection Wire) :=
  connections.mergeSort fun a b => a.id.value ≤ b.id.value

def snapshot (w : World) : Snapshot where
  events := w.members.zipIdx.flatMap fun (member, index) =>
    member.events.map fun event => (index, event)
  members := w.members.map Member.status
  inbound := (byId w.connections).map fun c => (c.id, c.transport.inbound.length)
  resting := (byId w.pool).map fun c => (c.id, c.isOpen)
  now := w.now

/-- Forgets the events that a snapshot has shown. -/
def forget (w : World) : World :=
  { w with members := w.members.map fun m => { m with events := [] } }

/-- Makes the changes of one step, with nothing running between them, and settles. -/
def step (w : World) (changes : List Change) : World :=
  (changes.foldl apply w).settle.observe

/-- Goes through the steps, then shuts down. -/
def run (w : World) : List (List Change) → Report
  | [] =>
    let ended := w.shutDown.observe
    ⟨[], ended.snapshot, ended.members.map Member.collector⟩
  | changes :: rest =>
    let stepped := w.step changes
    let report := stepped.forget.run rest
    { report with snapshots := stepped.snapshot :: report.snapshots }

end World

end HttpExchange.Bench
