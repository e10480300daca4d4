import HttpExchange.Proofs.Driving
import HttpExchange.Proofs.WriteLoop

/-!
How long one poll of an exchange goes on. It goes from the write loop to the read loop, in which a
round that is followed by another takes a received frame and delivers what is queued, event by
event, and from there to the timers. So it ends, whatever the transport answers, and the result it
ends with is the one that the exchange computes.
-/

namespace HttpExchange

variable {σ : Type}

/-- Where the delivery of queued events stands, with what was done before. -/
structure DeliveryPoint where
  events : List ResponseEvent
  completion : Completion
  before : List Action

namespace DeliveryPoint

/-- One round of the delivery: one event. -/
def round (h : Handler) (point : DeliveryPoint) : Round DeliveryPoint Delivery :=
  match point.events with
  | [] => .last ⟨[], point.completion, point.before, .drained⟩
  | event :: rest =>
    match Callback.ofEvent? event with
    | none => .last ⟨rest, point.completion, point.before ++ [.responseEnd], .ended⟩
    | some callback =>
      let called := h.call callback point.completion
      let before := point.before ++ called.actions
      if called.brokeOff then .last ⟨rest, called.completion, before, .crashed⟩
      else .again ⟨rest, called.completion, before⟩

/-- What the delivery comes to. -/
def result (h : Handler) (point : DeliveryPoint) : Delivery :=
  let delivery := h.deliver point.events point.completion
  { delivery with actions := point.before ++ delivery.actions }

theorem result_eq_settle (h : Handler) (point : DeliveryPoint) :
    point.result h = (point.round h).settle (result h) := by
  obtain ⟨events, c, before⟩ := point
  cases events with
  | nil => simp [result, round, Handler.deliver, Round.settle]
  | cons event rest =>
      cases callback : Callback.ofEvent? event with
      | none => simp [result, round, Handler.deliver, callback, Round.settle]
      | some callback =>
          simp only [result, round, Handler.deliver, callback]
          split <;> simp [Round.settle, result]

theorem events_of_again {h : Handler} {point next : DeliveryPoint}
    (goesOn : point.round h = .again next) : next.events.length < point.events.length := by
  unfold round at goesOn
  split at goesOn
  · cases goesOn
  · rename_i event rest events
    rw [events]
    split at goesOn
    · cases goesOn
    · dsimp only at goesOn
      split at goesOn <;> cases goesOn
      exact Nat.lt_succ_self _

end DeliveryPoint

/-- A delivery ends, after one round for each queued event and one more at most. -/
theorem Handler.deliver_loops (h : Handler) (events : List ResponseEvent) (c : Completion) :
    ∃ rounds, Loops (DeliveryPoint.round h) ⟨events, c, []⟩ rounds (h.deliver events c) ∧
      rounds ≤ events.length + 1 :=
  Loops.of_rank (fun _ _ => DeliveryPoint.events_of_again) (DeliveryPoint.result_eq_settle h)
    ⟨events, c, []⟩

/-- Where a pass of the read loop begins, with what was done before it. -/
structure ReadPoint (σ : Type) where
  exchange : Exchange
  transport : σ
  completion : Completion
  before : List Action

namespace ReadPoint

variable [Transport σ]

/-- One round of the read loop: what is queued is delivered, and a frame is taken. -/
def round (h : Handler) (now : Instant) (point : ReadPoint σ) : Round (ReadPoint σ) (Step σ) :=
  let delivery := h.deliver point.exchange.events point.completion
  let delivered := { point.exchange with events := delivery.rest }
  let before := point.before ++ delivery.actions
  match delivery.turn with
  | .ended => .last ⟨delivered, point.transport, delivery.completion, before, .ended .complete⟩
  | .crashed => .last ⟨delivered, point.transport, delivery.completion, before, .crashed⟩
  | .drained =>
    let received := Transport.receive point.transport
    let before := before ++ [.receive received.1]
    match received.1 with
    | .pending => .last ⟨delivered, received.2, delivery.completion, before, .pending⟩
    | .failed error =>
      .last ⟨delivered, received.2, delivery.completion, before, .ended (.failed (.net error))⟩
    | .closed =>
      .last ⟨delivered, received.2, delivery.completion, before,
        .ended (.failed (.net .connectionClosed))⟩
    | .frame frame =>
      let decoded := point.exchange.pipeline.decode frame delivered.events
      let queued := { delivered with events := decoded.1 }
      match decoded.2 with
      | some failure =>
        .last ⟨queued, received.2, delivery.completion, before, .ended (.failed failure)⟩
      | none =>
        let before := before ++ queued.progressActions
        match queued.noteProgress? now with
        | none => .last ⟨queued, received.2, delivery.completion, before, .crashed⟩
        | some next => .again ⟨next, received.2, delivery.completion, before⟩

def rank (point : ReadPoint σ) : Nat := Transport.backlog point.transport

/-- What the read loop comes to. -/
def result (h : Handler) (now : Instant) (point : ReadPoint σ) : Step σ :=
  (point.exchange.readFrames point.transport h point.completion now).after point.before

theorem result_eq_settle (h : Handler) (now : Instant) (point : ReadPoint σ) :
    point.result h now = (point.round h now).settle (result h now) := by
  obtain ⟨x, s, c, before⟩ := point
  simp only [result, round]
  rw [Exchange.readFrames]
  cases (h.deliver x.events c).turn with
  | ended | crashed => rfl
  | drained =>
      dsimp only
      split
      all_goals
        rename_i received
        simp only [received]
      · simp [Round.settle, Step.after]
      · simp [Round.settle, Step.after]
      · simp [Round.settle, Step.after]
      · rename_i frame
        cases (x.pipeline.decode frame (h.deliver x.events c).rest).2 with
        | some failure => simp [Round.settle, Step.after]
        | none =>
            dsimp only
            generalize Exchange.noteProgress? _ now = noted
            cases noted with
            | none => simp [Round.settle, Step.after]
            | some next => simp [Round.settle, Step.after, result]

/-- A round that is not the last one takes a received frame. -/
theorem rank_of_again {h : Handler} {now : Instant} {point next : ReadPoint σ}
    (goesOn : point.round h now = .again next) :
    next.rank < point.rank := by
  unfold round at goesOn
  dsimp only at goesOn
  split at goesOn
  · cases goesOn
  · cases goesOn
  · split at goesOn
    · cases goesOn
    · cases goesOn
    · cases goesOn
    · rename_i frame received
      split at goesOn
      · cases goesOn
      · split at goesOn <;> cases goesOn
        exact Transport.receive_backlog _ _ received

end ReadPoint

/-- The read loop ends, after one round for each received frame and one more at most. -/
theorem Exchange.readFrames_loops [Transport σ] (x : Exchange) (s : σ) (h : Handler)
    (c : Completion) (now : Instant) :
    ∃ rounds, Loops (ReadPoint.round h now) ⟨x, s, c, []⟩ rounds (x.readFrames s h c now) ∧
      rounds ≤ Transport.backlog s + 1 := by
  obtain ⟨rounds, loops, few⟩ := Loops.of_rank (fun _ _ => ReadPoint.rank_of_again)
    (ReadPoint.result_eq_settle h now) ⟨x, s, c, []⟩
  exact ⟨rounds, loops, few⟩

/-- Where a poll stands: at its beginning, in the write loop, behind it, or in the read loop,
with what was done before the loop. -/
inductive PollPoint (σ : Type) where
  | starts (x : Exchange) (lease : Lease σ) (c : Completion)
  | writes (connection : Connection σ) (c : Completion) (point : WritePoint σ)
  | written (step : WriteStep (Lease σ)) (c : Completion)
  | reads (connection : Connection σ) (before : List Action) (point : ReadPoint σ)

/-- A lease of the same connection after its transport was used. -/
def Connection.leased (connection : Connection σ) (transport : σ) : Lease σ :=
  ⟨some { connection with transport := transport }⟩

/-- What is left to receive on a lease. -/
def Lease.backlog [Transport σ] (lease : Lease σ) : Nat :=
  lease.connection.elim 0 fun connection => Transport.backlog connection.transport

/-- The timers are checked if there is more to read. -/
def Step.checked (step : Step (Lease σ)) (now : Instant) : Step (Lease σ) :=
  match step.turn with
  | .pending =>
    (step.exchange.pollTimers step.resource step.completion now).after step.actions
  | _ => step

/-- Reads begin once the request is written. -/
def WriteStep.concluded {ρ : Type} (step : WriteStep ρ) (now : Instant) : WriteStep ρ :=
  match step.turn with
  | .written =>
    let written := step.exchange.requestWritten now
    ⟨written.1, step.resource, step.actions ++ written.2, .written⟩
  | _ => step

namespace PollPoint

variable [Transport σ] (h : Handler) (now : Instant)

/-- The way from the write loop to the read loop, or past it. -/
def beginRead (x : Exchange) (lease : Lease σ) (c : Completion) (before : List Action) :
    Round (PollPoint σ) (Step (Lease σ)) :=
  if x.isReading then
    match lease.connection with
    | none => .last (((x.readOn ⟨none⟩ h c now).checked now).after before)
    | some connection => .again (.reads connection before ⟨x, connection.transport, c, []⟩)
  else
    let unread : Step (Lease σ) := ⟨x, lease, c, [], .pending⟩
    .last ((unread.checked now).after before)

/-- One round of a poll: one of a loop in it, or the way from one loop to the next. -/
def round : PollPoint σ → Round (PollPoint σ) (Step (Lease σ))
  | .starts x lease c =>
    let taken := c.takeAbort
    match taken.1 with
    | some abort => .last ⟨x, lease, taken.2, [.control (some abort)], .ended (.aborted abort)⟩
    | none =>
      if x.writeState = .done then .again (.written ⟨x, lease, [], .written⟩ taken.2)
      else
        match lease.connection with
        | none =>
          .again (.written ⟨x, lease, [], .failed (.writeFailed .socketNotConnected)⟩ taken.2)
        | some connection =>
          .again (.writes connection taken.2 (.begins ⟨x, connection.transport, []⟩))
  | .writes connection c point =>
    (point.round now).within (.writes connection c) fun step =>
      let leased : WriteStep (Lease σ) :=
        ⟨step.exchange, connection.leased step.resource, step.actions, step.turn⟩
      .again (.written (leased.concluded now) c)
  | .written step c =>
    let before := .control none :: step.actions
    match step.turn with
    | .failed failure =>
      .last ⟨step.exchange, step.resource, c, before, .ended (.writeFailed failure)⟩
    | .crashed => .last ⟨step.exchange, step.resource, c, before, .crashed⟩
    | .pending | .written => beginRead h now step.exchange step.resource c before
  | .reads connection before point =>
    (point.round h now).within (.reads connection before) fun step =>
      let leased : Step (Lease σ) :=
        ⟨step.exchange, connection.leased step.resource, step.completion, step.actions,
          step.turn⟩
      .last ((leased.checked now).after before)

variable {h now} in
/-- Behind the write loop a poll ends, after one round for each received frame and two more at
most. -/
theorem beginRead_loops {point : PollPoint σ} {x : Exchange} {lease : Lease σ} {c : Completion}
    {before : List Action} (begins : round h now point = beginRead h now x lease c before) :
    ∃ rounds, Loops (round h now) point rounds
        ((x.pollAfterWrite lease h c now).after before) ∧ rounds ≤ lease.backlog + 2 := by
  have checked : x.pollAfterWrite lease h c now = (x.pollRead lease h c now).checked now := rfl
  rw [checked]
  cases reading : x.isReading with
  | false =>
      refine ⟨1, .last ?_, by omega⟩
      simp [begins, beginRead, reading, Exchange.pollRead]
  | true =>
      obtain ⟨connection⟩ := lease
      cases connection with
      | none =>
          refine ⟨1, .last ?_, by omega⟩
          simp [begins, beginRead, reading, Exchange.pollRead]
      | some connection =>
          obtain ⟨rounds, loops, few⟩ := x.readFrames_loops connection.transport h c now
          have later : Loops (round h now)
              (.reads connection before ⟨x, connection.transport, c, []⟩) rounds
              (((x.pollRead ⟨some connection⟩ h c now).checked now).after before) := by
            refine loops.within_last (round h now) (.reads connection before) (fun _ => rfl) ?_
            simp [Exchange.pollRead, reading, Exchange.readOn, Connection.leased]
          refine ⟨rounds + 1, .again ?_ later, Nat.add_le_add_right few 1⟩
          simp [begins, beginRead, reading]

/-- A poll goes on to the reading unless the writing ended it. -/
theorem written_loops (x : Exchange) (lease : Lease σ) (c : Completion) :
    ∃ rounds, Loops (round h now) (.written (x.pollWrite lease now) c) rounds
        ((x.pollParts lease h c now).after [.control none]) ∧
      rounds ≤ (x.pollWrite lease now).resource.backlog + 2 := by
  cases turn : (x.pollWrite lease now).turn with
  | failed failure | crashed =>
      refine ⟨1, .last ?_, by omega⟩
      simp [round, turn, Exchange.pollParts, Step.after]
  | pending | written =>
      have begins : round h now (.written (x.pollWrite lease now) c) =
          beginRead h now (x.pollWrite lease now).exchange (x.pollWrite lease now).resource c
            (.control none :: (x.pollWrite lease now).actions) := by
        simp [round, turn]
      obtain ⟨rounds, loops, few⟩ := beginRead_loops begins
      refine ⟨rounds, ?_, few⟩
      simpa [Exchange.pollParts, turn, Step.after] using loops

/-- A poll ends, whatever the transport answers. -/
theorem starts_loops (x : Exchange) (lease : Lease σ) (c : Completion) :
    ∃ rounds, Loops (round h now) (.starts x lease c) rounds (x.poll lease h c now) ∧
      rounds ≤ x.frames.body.producer.items.length +
        (x.pollWrite lease now).resource.backlog + 8 := by
  cases abort : c.takeAbort.1 with
  | some abort =>
      refine ⟨1, .last ?_, by omega⟩
      simp [round, Exchange.poll, abort]
  | none =>
      obtain ⟨rounds, later, few⟩ := written_loops h now x lease c.takeAbort.2
      have poll : x.poll lease h c now =
          (x.pollParts lease h c.takeAbort.2 now).after [.control none] := by
        simp [Exchange.poll, abort]
      rw [poll]
      by_cases done : x.writeState = .done
      · refine ⟨rounds + 1, .again ?_ later, by omega⟩
        simp [round, abort, done, Exchange.pollWrite]
      · obtain ⟨connection⟩ := lease
        cases connection with
        | none =>
            refine ⟨rounds + 1, .again ?_ later, by omega⟩
            simp [round, abort, done, Exchange.pollWrite, Exchange.writeOn]
        | some connection =>
            obtain ⟨passes, loops, bound⟩ := x.continueWrite_loops connection.transport now
            have writes : Loops (round h now)
                (.writes connection c.takeAbort.2 (.begins ⟨x, connection.transport, []⟩))
                (passes + rounds) ((x.pollParts ⟨some connection⟩ h c.takeAbort.2 now).after
                  [.control none]) := by
              refine loops.within_again (round h now) (.writes connection c.takeAbort.2)
                (fun _ => rfl) ?_ later
              simp only [Exchange.pollWrite, done, Exchange.writeOn]
              rfl
            refine ⟨passes + rounds + 1, .again ?_ writes, by omega⟩
            simp [round, abort, done]

end PollPoint

/-- One poll ends, whatever the transport answers and in whatever state it finds the exchange.
The write loop goes round once for each item left of the body and at most five times more, looks
for a frame included; the read loop once for each received frame and at most once more; a
delivery once for each queued event and at most once more. -/
theorem Exchange.poll_ends [Transport σ] (x : Exchange) (lease : Lease σ) (h : Handler)
    (c : Completion) (now : Instant) :
    (∃ rounds, Loops (PollPoint.round h now) (.starts x lease c) rounds (x.poll lease h c now) ∧
      rounds ≤ x.frames.body.producer.items.length +
        (x.pollWrite lease now).resource.backlog + 8) ∧
    (∀ s : σ, ∃ rounds,
      Loops (WritePoint.round now) (.begins ⟨x, s, []⟩) rounds (x.continueWrite s now) ∧
      rounds ≤ x.frames.body.producer.items.length + 5) ∧
    (∀ (reading : Exchange) (s : σ) (d : Completion), ∃ rounds,
      Loops (ReadPoint.round h now) ⟨reading, s, d, []⟩ rounds (reading.readFrames s h d now) ∧
      rounds ≤ Transport.backlog s + 1) ∧
    ∀ (events : List ResponseEvent) (d : Completion), ∃ rounds,
      Loops (DeliveryPoint.round h) ⟨events, d, []⟩ rounds (h.deliver events d) ∧
      rounds ≤ events.length + 1 := by
  refine ⟨PollPoint.starts_loops h now x lease c, ?_, ?_, ?_⟩
  · intro s
    exact x.continueWrite_loops s now
  · intro reading s d
    exact reading.readFrames_loops s h d now
  · intro events d
    exact h.deliver_loops events d

end HttpExchange
