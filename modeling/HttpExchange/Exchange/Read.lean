import HttpExchange.Exchange.Basic

/-!
Reading the response. Queued events are delivered one by one; when none is left the
next received frame is decoded into the queue. A frame that yields an event counts as
progress. The end of the response stops the reading, and whatever is queued behind it
is never delivered.
-/

namespace HttpExchange

/-- How a delivery ended: all events delivered, the end of the response reached, or the
handler broke off. -/
inductive DeliveryTurn where
  | drained
  | ended
  | crashed
  deriving DecidableEq, Repr

structure Delivery where
  rest : List ResponseEvent
  completion : Completion
  actions : List Action
  turn : DeliveryTurn

/-- How a part of a poll left the exchange. -/
inductive Turn where
  | pending
  | ended (outcome : Outcome)
  | crashed
  deriving DecidableEq, Repr

/-- A part of a poll: what it left, and what was done. -/
structure Step (ρ : Type) where
  exchange : Exchange
  resource : ρ
  completion : Completion
  actions : List Action
  turn : Turn

/-- The same step with something done before it. -/
def Step.after {ρ : Type} (step : Step ρ) (actions : List Action) : Step ρ :=
  { step with actions := actions ++ step.actions }

/-- Hands queued events to the handler, up to the end of the response. -/
def Handler.deliver (h : Handler) : List ResponseEvent → Completion → Delivery
  | [], c => ⟨[], c, [], .drained⟩
  | event :: rest, c =>
    match Callback.ofEvent? event with
    | none => ⟨rest, c, [.responseEnd], .ended⟩
    | some callback =>
      let called := h.call callback c
      if called.brokeOff then ⟨rest, called.completion, called.actions, .crashed⟩
      else
        let later := h.deliver rest called.completion
        { later with actions := called.actions ++ later.actions }

namespace Exchange

variable {σ : Type} [Transport σ]

/-- Events that were received count as progress. -/
def noteProgress? (x : Exchange) (now : Instant) : Option Exchange :=
  if x.events.isEmpty then some x
  else (x.idle.readProgress? now).map fun idle => { x with idle := idle }

/-- What `noteProgress?` does to the timers. -/
def progressActions (x : Exchange) : List Action :=
  if x.events.isEmpty then [] else [.timer .readProgress]

/-- Delivers and receives until nothing more is there. -/
def readFrames (x : Exchange) (s : σ) (h : Handler) (c : Completion) (now : Instant) : Step σ :=
  let delivery := h.deliver x.events c
  let c := delivery.completion
  let delivered := { x with events := delivery.rest }
  match delivery.turn with
  | .ended => ⟨delivered, s, c, delivery.actions, .ended .complete⟩
  | .crashed => ⟨delivered, s, c, delivery.actions, .crashed⟩
  | .drained =>
    let received := Transport.receive s
    let before := delivery.actions ++ [.receive received.1]
    match _ : received.1 with
    | .pending => ⟨delivered, received.2, c, before, .pending⟩
    | .failed error => ⟨delivered, received.2, c, before, .ended (.failed (.net error))⟩
    | .closed =>
      ⟨delivered, received.2, c, before, .ended (.failed (.net .connectionClosed))⟩
    | .frame frame =>
      let decoded := x.pipeline.decode frame delivered.events
      let queued := { delivered with events := decoded.1 }
      match decoded.2 with
      | some failure => ⟨queued, received.2, c, before, .ended (.failed failure)⟩
      | none =>
        let before := before ++ queued.progressActions
        match queued.noteProgress? now with
        | none => ⟨queued, received.2, c, before, .crashed⟩
        | some next => (next.readFrames received.2 h c now).after before
  termination_by Transport.backlog s
  decreasing_by exact Transport.receive_backlog _ _ ‹_›

/-- Reads on a lease. -/
def readOn (x : Exchange) (lease : Lease σ) (h : Handler) (c : Completion) (now : Instant) :
    Step (Lease σ) :=
  match lease.connection with
  | none =>
    let delivery := h.deliver x.events c
    let delivered := { x with events := delivery.rest }
    let turn :=
      match delivery.turn with
      | .ended => .ended .complete
      | .crashed => .crashed
      | .drained => .ended (.failed (.net .socketNotConnected))
    ⟨delivered, lease, delivery.completion, delivery.actions, turn⟩
  | some connection =>
    let step := x.readFrames connection.transport h c now
    ⟨step.exchange, ⟨some { connection with transport := step.resource }⟩, step.completion,
      step.actions, step.turn⟩

/-- The read part of a poll. -/
def pollRead (x : Exchange) (lease : Lease σ) (h : Handler) (c : Completion) (now : Instant) :
    Step (Lease σ) :=
  if x.isReading then x.readOn lease h c now else ⟨x, lease, c, [], .pending⟩

end Exchange

end HttpExchange
