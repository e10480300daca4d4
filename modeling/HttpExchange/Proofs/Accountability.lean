import HttpExchange.Proofs.Metering
import HttpExchange.Proofs.PollLoop

/-!
The account of a body, wherever a poll of its exchange stands. It is closed exactly if the producer
was let go of, so a body turns away neither a chunk nor an error of a producer that it still has.
Every round of a poll keeps that, and with it that the lease has the connection that is needed
there and that the write loop has something to write.
-/

namespace HttpExchange

namespace MeteredBody

/-- The account is closed exactly if the producer was let go of. As long as there is a producer,
every chunk of it is admitted and an error of it is the first to close the account. -/
structure Accountable (b : MeteredBody) : Prop where
  released : b.isReleased = b.allowance.done
  admits : b.isReleased = false → ∀ chunk, (b.allowance.accept chunk).1.isSome = true
  closes : b.isReleased = false → b.allowance.close.1 = true

variable {b : MeteredBody}

theorem accountable_of_released (released : b.isReleased = b.allowance.done) :
    b.Accountable where
  released := released
  admits kept chunk := by
    rw [released] at kept
    simp [Allowance.accept, kept]
  closes kept := by
    rw [released] at kept
    simp [Allowance.close, kept]

theorem accountable_ofProducer (headers : Headers) (producer : Producer) :
    (ofProducer headers producer).Accountable :=
  accountable_of_released rfl

theorem Accountable.feed (h : b.Accountable) (items : List BodyItem) (close : Bool) :
    (b.feed items close).Accountable :=
  accountable_of_released h.released

theorem Accountable.poll (h : b.Accountable) : b.poll.body.Accountable := by
  cases ended : b.isOver with
  | true =>
      rw [poll_of_over ended]
      exact h
  | false =>
      rw [poll_of_unfinished ended]
      exact accountable_of_released rfl

theorem Accountable.play (h : b.Accountable) (history : List BodyStimulus) :
    (b.play history).body.Accountable := by
  induction history generalizing b with
  | nil => exact h
  | cons stimulus rest ih =>
      cases stimulus with
      | poll => exact ih h.poll
      | feed items close => exact ih (h.feed items close)

end MeteredBody

namespace FramePoint

/-- The body as it is at a point of the loop. -/
def body : FramePoint → MeteredBody
  | .asks source _ => source.body
  | .ends body _ => body

theorem round_accountable {point : FramePoint} (h : point.body.Accountable) :
    point.round.Leads (·.body.Accountable) (·.source.body.Accountable) := by
  cases point with
  | ends body asked => exact h
  | asks source asked =>
      have polled : source.body.poll.body.Accountable := MeteredBody.Accountable.poll h
      simp only [round]
      cases source.phase with
      | head head | done => exact h
      | body =>
          dsimp only
          split <;> exact polled

end FramePoint

variable {σ : Type}

namespace WritePoint

/-- The body as it is at a point of the write loop. -/
def body : WritePoint σ → MeteredBody
  | .begins start => start.exchange.frames.body
  | .asks _ point => point.body

/-- How far the request is at a point of the write loop. -/
def writeState : WritePoint σ → WriteState
  | .begins start | .asks start _ => start.exchange.writeState

/-- The write loop has something to write, and an account of its body. -/
structure Sound (point : WritePoint σ) : Prop where
  undone : point.writeState ≠ .done
  body : point.body.Accountable

variable [Transport σ]

theorem use_sound {start : WriteStart σ} (undone : start.exchange.writeState ≠ .done)
    {polled : FramePoll} (h : polled.source.body.Accountable) (now : Instant) :
    (use now start polled).Leads Sound (·.exchange.frames.body.Accountable) := by
  have flushed (x : Exchange) (s : σ) (before : List Action)
      (h : x.frames.body.Accountable) :
      ((x.flushAccepted s now).after before).exchange.frames.body.Accountable := by
    simp only [Exchange.flushAccepted, WriteStep.after]
    split <;> exact h
  unfold use WriteStart.use
  cases polled.answer with
  | failed failure => exact h
  | pending => exact flushed _ _ _ h
  | finished =>
      have flushing : WriteState.flushing ≠ .done := by decide
      exact ⟨flushing, h⟩
  | frame frame =>
      dsimp only
      cases (start.exchange.pipeline.encode frame).1 with
      | none => exact ⟨undone, h⟩
      | some outbound =>
          dsimp only
          split
          · exact h
          · split
            · exact h
            · exact ⟨undone, h⟩

theorem asks_sound {start : WriteStart σ} (undone : start.exchange.writeState ≠ .done)
    {point : FramePoint} (h : point.body.Accountable) (now : Instant) :
    (point.round.within (.asks start) (use now start)).Leads Sound
      (·.exchange.frames.body.Accountable) :=
  (FramePoint.round_accountable h).within (fun _ next => ⟨undone, next⟩)
    fun _ polled => use_sound undone polled now

theorem round_sound {point : WritePoint σ} (h : point.Sound) (now : Instant) :
    (point.round now).Leads Sound (·.exchange.frames.body.Accountable) := by
  obtain ⟨undone, body⟩ := h
  cases point with
  | asks start point => exact asks_sound undone body now
  | begins start =>
      have flushed : ((start.exchange.flushRequest start.transport now).after
          start.before).exchange.frames.body.Accountable := by
        simp only [Exchange.flushRequest, WriteStep.after]
        split <;> exact body
      simp only [round]
      cases state : start.exchange.writeState with
      | done => exact absurd state undone
      | flushing => exact flushed
      | writing =>
          dsimp only
          split
          · exact body
          · exact body
          · have asked : (FramePoint.asks start.exchange.frames []).body.Accountable := body
            refine asks_sound ?_ asked now
            exact undone

end WritePoint

theorem ReadPoint.round_accountable [Transport σ] {point : ReadPoint σ}
    (h : point.exchange.frames.body.Accountable) (handler : Handler) (now : Instant) :
    (point.round handler now).Leads (·.exchange.frames.body.Accountable)
      (·.exchange.frames.body.Accountable) := by
  unfold round
  dsimp only
  cases (handler.deliver point.exchange.events point.completion).turn with
  | ended | crashed => exact h
  | drained =>
      cases (Transport.receive point.transport).1 with
      | pending | closed => exact h
      | failed error => exact h
      | frame frame =>
          dsimp only
          split
          · exact h
          · split
            · exact h
            · rename_i noted
              have frames := (Exchange.noteProgress?_frame noted).frames
              change MeteredBody.Accountable _
              rw [frames]
              exact h

namespace PollPoint

/-- The body as it is at a point of a poll. -/
def body : PollPoint σ → MeteredBody
  | .starts x _ _ => x.frames.body
  | .writes _ _ point => point.body
  | .written step _ => step.exchange.frames.body
  | .reads _ _ point => point.exchange.frames.body

/-- Where the connection is taken out of the lease, there is none. -/
def isDisconnected : PollPoint σ → Bool
  | .starts _ lease _ => lease.connection.isNone
  | .written step _ => step.resource.connection.isNone
  | .writes _ _ _ | .reads _ _ _ => false

/-- The write loop is entered, or goes on, although the request is done. -/
def isOverdone : PollPoint σ → Bool
  | .writes _ _ point => point.writeState = .done
  | .starts _ _ _ | .written _ _ | .reads _ _ _ => false

/-- No defensive branch is open. -/
structure Sound (point : PollPoint σ) : Prop where
  connected : point.isDisconnected = false
  undone : point.isOverdone = false
  body : point.body.Accountable

variable [Transport σ] {handler : Handler} {now : Instant}

omit [Transport σ] in
theorem checked_frames (step : Step (Lease σ)) (now : Instant) :
    (step.checked now).exchange.frames = step.exchange.frames := by
  unfold Step.checked
  split <;> rfl

omit [Transport σ] in
theorem concluded_sound {step : WriteStep (Lease σ)} (h : step.exchange.frames.body.Accountable)
    (held : step.resource.connection.isNone = false) (now : Instant) (c : Completion) :
    Sound (.written (step.concluded now) c) := by
  have kept : (step.concluded now).exchange.frames = step.exchange.frames ∧
      (step.concluded now).resource = step.resource := by
    unfold WriteStep.concluded Exchange.requestWritten
    dsimp only
    split
    · split <;> exact ⟨rfl, rfl⟩
    · exact ⟨rfl, rfl⟩
  refine ⟨?_, rfl, ?_⟩
  · simpa only [isDisconnected, kept.2] using held
  · simpa only [body, kept.1] using h

theorem beginRead_sound {x : Exchange} (h : x.frames.body.Accountable) (lease : Lease σ)
    (c : Completion) (before : List Action) :
    (beginRead handler now x lease c before).Leads Sound
      (·.exchange.frames.body.Accountable) := by
  unfold beginRead
  split
  · split
    · have unread : (x.readOn (⟨none⟩ : Lease σ) handler c now).exchange.frames = x.frames := rfl
      simp only [Round.Leads, Step.after, checked_frames, unread]
      exact h
    · exact ⟨rfl, rfl, h⟩
  · simp only [Round.Leads, Step.after, checked_frames]
    exact h

/-- Every round keeps the defensive branches closed. -/
theorem round_sound {point : PollPoint σ} (h : point.Sound) :
    (point.round handler now).Leads Sound (·.exchange.frames.body.Accountable) := by
  cases point with
  | starts x lease c =>
      unfold round
      dsimp only
      split
      · exact h.body
      · split
        · exact ⟨h.connected, rfl, h.body⟩
        · rename_i undone
          split
          -- A lease without its connection is the branch that is dead.
          · rename_i lost
            have connected : lease.connection.isNone = false := h.connected
            simp [lost] at connected
          · exact ⟨rfl, decide_eq_false undone, h.body⟩
  | writes connection c point =>
      have sound : point.Sound := ⟨by simpa [isOverdone] using h.undone, h.body⟩
      refine (WritePoint.round_sound sound now).within (fun next holds => ?_) fun step body => ?_
      · exact ⟨rfl, by simpa [isOverdone] using holds.undone, holds.body⟩
      · exact concluded_sound body rfl now c
  | written step c =>
      unfold round
      dsimp only
      cases step.turn with
      | failed failure => exact h.body
      | crashed => exact h.body
      | pending | written => exact beginRead_sound h.body _ _ _
  | reads connection before point =>
      refine (ReadPoint.round_accountable h.body handler now).within ?_ fun step body => ?_
      · exact fun next holds => ⟨rfl, rfl, holds⟩
      · simp only [Round.Leads, Step.after, checked_frames]
        exact body

omit [Transport σ] in
theorem starts_sound {x : Exchange} {lease : Lease σ} {connection : Connection σ}
    (held : lease.connection = some connection) (h : x.frames.body.Accountable)
    (c : Completion) : Sound (.starts x lease c) :=
  ⟨by simp [isDisconnected, held], rfl, h⟩

end PollPoint

end HttpExchange
