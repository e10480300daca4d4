import HttpExchange.Exchange.Basic

/-!
Writing the request. Frames are taken from the source only when the connection has
room for one, so the body is asked for no more than can be sent. The write timer runs
only while the connection holds the request back; a body with nothing to send does
not count as a stall once everything accepted so far is flushed.
-/

namespace HttpExchange

/-- How an attempt to write left the request. `crashed` is a timer whose new deadline
does not exist. -/
inductive WriteTurn where
  | pending
  | written
  | failed (failure : Failure)
  | crashed
  deriving DecidableEq, Repr

/-- An attempt to write: the exchange and the connection after it, and what was done. -/
structure WriteStep (ρ : Type) where
  exchange : Exchange
  resource : ρ
  actions : List Action
  turn : WriteTurn

/-- The same step with something done before it. -/
def WriteStep.after {ρ : Type} (step : WriteStep ρ) (actions : List Action) : WriteStep ρ :=
  { step with actions := actions ++ step.actions }

namespace Exchange

variable {σ : Type} [Transport σ]

/-- Waits for a connection that holds the request back. -/
def stall (x : Exchange) (s : σ) (now : Instant) : WriteStep σ :=
  ⟨{ x with idle := x.idle.armWrite now }, s, [.timer .armWrite], .pending⟩

/-- Flushes after the last frame. -/
def flushRequest (x : Exchange) (s : σ) (now : Instant) : WriteStep σ :=
  let flushed := Transport.flush s
  let step : WriteStep σ :=
    match flushed.1 with
    | .done => ⟨x, flushed.2, [], .written⟩
    | .failed error => ⟨x, flushed.2, [], .failed (.writeFailed error)⟩
    | .pending => x.stall flushed.2 now
  step.after [.flush flushed.1]

/-- Flushes what was accepted so far while the body has nothing to send. -/
def flushAccepted (x : Exchange) (s : σ) (now : Instant) : WriteStep σ :=
  let flushed := Transport.flush s
  let step : WriteStep σ :=
    match flushed.1 with
    | .done =>
      ⟨{ x with idle := x.idle.removeWrite }, flushed.2, [.timer .removeWrite], .pending⟩
    | .failed error => ⟨x, flushed.2, [], .failed (.writeFailed error)⟩
    | .pending => x.stall flushed.2 now
  step.after [.flush flushed.1]

/-- Writes frames until the connection, the body or the request comes to an end. -/
def writeFrames (x : Exchange) (s : σ) (now : Instant) : WriteStep σ :=
  let room := Transport.ready s
  match room.1 with
  | .failed error => ⟨x, room.2, [.ready room.1], .failed (.writeFailed error)⟩
  | .pending => (x.stall room.2 now).after [.ready room.1]
  | .done =>
    let polled := x.frames.poll
    let taken := { x with frames := polled.source }
    let before := .ready room.1 :: polled.asked.map .produced
    match _ : polled.answer with
    | .failed failure => ⟨taken, room.2, before, .failed failure⟩
    | .pending => (taken.flushAccepted room.2 now).after before
    | .finished =>
      ({ taken with writeState := .flushing }.flushRequest room.2 now).after before
    | .frame frame =>
      let encoded := x.pipeline.encode frame
      let framed := { taken with pipeline := encoded.2 }
      match encoded.1 with
      | none => (framed.writeFrames room.2 now).after before
      | some outbound =>
        let sent := Transport.send room.2 outbound
        let before := before ++ [.write outbound sent.1]
        match sent.1 with
        | some error => ⟨framed, sent.2, before, .failed (.writeFailed error)⟩
        | none =>
          let before := before ++ [.timer .writeProgress]
          match framed.idle.writeProgress? now with
          | none => ⟨framed, sent.2, before, .crashed⟩
          | some idle =>
            ({ framed with idle := idle }.writeFrames sent.2 now).after before
  termination_by x.frames.steps
  decreasing_by all_goals exact FrameSource.poll_steps ‹_›

/-- Goes on with the request where it was left. -/
def continueWrite (x : Exchange) (s : σ) (now : Instant) : WriteStep σ :=
  match x.writeState with
  | .writing => x.writeFrames s now
  | .flushing => x.flushRequest s now
  | .done => ⟨x, s, [], .written⟩

/-- Goes on with the request on a lease. -/
def writeOn (x : Exchange) (lease : Lease σ) (now : Instant) : WriteStep (Lease σ) :=
  match lease.connection with
  | none => ⟨x, lease, [], .failed (.writeFailed .socketNotConnected)⟩
  | some connection =>
    let step := x.continueWrite connection.transport now
    ⟨step.exchange, ⟨some { connection with transport := step.resource }⟩, step.actions,
      step.turn⟩

/-- The request was written and flushed: the write timer goes, and reads begin unless
they have begun before. -/
def requestWritten (x : Exchange) (now : Instant) : Exchange × List Action :=
  let done := { x with writeState := .done, idle := x.idle.removeWrite }
  if done.isReading then (done, [.timer .removeWrite])
  else (done.resumeReads now, [.timer .removeWrite, .timer .installRead])

/-- The write part of a poll. -/
def pollWrite (x : Exchange) (lease : Lease σ) (now : Instant) : WriteStep (Lease σ) :=
  if x.writeState = .done then ⟨x, lease, [], .written⟩
  else
    let step := x.writeOn lease now
    match step.turn with
    | .written =>
      let written := step.exchange.requestWritten now
      ⟨written.1, step.resource, step.actions ++ written.2, .written⟩
    | _ => step

end Exchange

end HttpExchange
