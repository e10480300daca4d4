import HttpExchange.Proofs.Looping
import HttpExchange.Proofs.Rounds

/-!
The write loop of an exchange, told by its rounds. A round is a pass up to the first look for a
frame, or a further look for the frame of that pass. What is left of the body ranks them: a look
that is followed by another takes an empty chunk or the end of the body, and a pass that is
followed by another takes a frame, written or not. So the loop ends, whatever the transport
answers.
-/

namespace HttpExchange

namespace FrameSource

/-- Two for the end marker and what follows it, one more for the head, and one for each item. -/
def rank (s : FrameSource) : Nat :=
  match s.phase with
  | .head _ => s.body.producer.items.length + 4
  | .body => s.body.producer.items.length + 3
  | .done => 1

theorem rank_pos (s : FrameSource) : 0 < s.rank := by
  unfold rank
  split <;> omega

theorem rank_le (s : FrameSource) : s.rank ≤ s.body.producer.items.length + 4 := by
  unfold rank
  split <;> omega

end FrameSource

/-- Where the loop of a frame source stands, with what the producer answered so far: the source
is asked for a frame, or it has come to the end of its body. -/
inductive FramePoint where
  | asks (source : FrameSource) (asked : List BodyAnswer)
  | ends (body : MeteredBody) (asked : List BodyAnswer)

namespace FramePoint

/-- One round of the loop of a frame source. -/
def round : FramePoint → Round FramePoint FramePoll
  | .ends body asked => .last ⟨.frame .finish, asked, ⟨.done, body⟩⟩
  | .asks source asked =>
    match source.phase with
    | .head head => .last ⟨.frame (.head head), asked, { source with phase := .body }⟩
    | .done => .last ⟨.finished, asked, source⟩
    | .body =>
      let polled := source.body.poll
      let asked := asked ++ polled.asked.toList
      match polled.answer with
      | .pending => .last ⟨.pending, asked, ⟨.body, polled.body⟩⟩
      | .data [] => .again (.asks ⟨.body, polled.body⟩ asked)
      | .data (byte :: bytes) =>
        .last ⟨.frame (.data (byte :: bytes)), asked, ⟨.body, polled.body⟩⟩
      | .trailers fields => .last ⟨.frame (.trailers fields), asked, ⟨.body, polled.body⟩⟩
      | .failed error => .last ⟨.failed (.body error), asked, ⟨.done, polled.body⟩⟩
      | .finished => .again (.ends polled.body asked)

/-- What the loop comes to. -/
def poll : FramePoint → FramePoll
  | .ends body asked => ⟨.frame .finish, asked, ⟨.done, body⟩⟩
  | .asks source asked => { source.poll with asked := asked ++ source.poll.asked }

def rank : FramePoint → Nat
  | .ends _ _ => 2
  | .asks source _ => source.rank

theorem rank_pos (point : FramePoint) : 0 < point.rank := by
  cases point with
  | ends => exact Nat.two_pos
  | asks source => exact source.rank_pos

/-- Polling the source is to go round until the loop ends. -/
theorem poll_eq_settle (point : FramePoint) : point.poll = point.round.settle poll := by
  cases point with
  | ends => rfl
  | asks source asked =>
      cases phase : source.phase with
      | head | done => simp [poll, round, FrameSource.poll, phase, Round.settle]
      | body =>
          simp only [poll, round, FrameSource.poll, phase]
          rw [FrameSource.pollBody]
          split
          all_goals
            rename_i answered
            simp [answered, Round.settle, poll, FrameSource.poll]

/-- A round that is not the last one takes an empty chunk or the end of the body. -/
theorem rank_of_again {point next : FramePoint} (goesOn : point.round = .again next) :
    next.rank < point.rank := by
  cases point with
  | ends => cases goesOn
  | asks source asked =>
      cases phase : source.phase with
      | head | done => simp [round, phase] at goesOn
      | body =>
          simp only [round, phase] at goesOn
          simp only [rank, FrameSource.rank, phase]
          split at goesOn <;> cases goesOn
          · rename_i empty
            have shorter := MeteredBody.poll_shorter (b := source.body)
              (by simp [empty]) (by simp [empty])
            simpa using shorter
          · simp

/-- A source that yields a frame has less to come. -/
theorem rank_of_frame {point : FramePoint} {polled : FramePoll} {frame : RequestFrame}
    (ends : point.round = .last polled) (yielded : polled.answer = .frame frame) :
    polled.source.rank < point.rank := by
  cases point with
  | ends =>
      cases ends
      simp [rank, FrameSource.rank]
  | asks source asked =>
      cases phase : source.phase with
      | head =>
          simp only [round, phase] at ends
          cases ends
          simp [rank, FrameSource.rank, phase]
      | done =>
          simp only [round, phase] at ends
          cases ends
          cases yielded
      | body =>
          simp only [round, phase] at ends
          split at ends <;> cases ends
          case h_1 | h_5 => cases yielded
          all_goals
            rename_i answered
            have shorter := MeteredBody.poll_shorter (b := source.body)
              (by simp [answered]) (by simp [answered])
            simpa [rank, FrameSource.rank, phase] using shorter

end FramePoint

variable {σ : Type}

/-- Where a pass of the write loop begins, with what was done before it. -/
structure WriteStart (σ : Type) where
  exchange : Exchange
  transport : σ
  before : List Action

/-- Where the write loop stands: a pass begins, or the source goes on looking for a frame. -/
inductive WritePoint (σ : Type) where
  | begins (start : WriteStart σ)
  | asks (start : WriteStart σ) (point : FramePoint)

namespace WriteStart

def rank (start : WriteStart σ) : Nat :=
  match start.exchange.writeState with
  | .writing => start.exchange.frames.rank
  | .flushing | .done => 0

theorem rank_le (start : WriteStart σ) : start.rank ≤ start.exchange.frames.rank := by
  unfold rank
  split <;> omega

variable [Transport σ]

/-- What the writing comes to from here. -/
def result (now : Instant) (start : WriteStart σ) : WriteStep σ :=
  (start.exchange.continueWrite start.transport now).after start.before

/-- What a pass does with the answer of its source. -/
def use (start : WriteStart σ) (now : Instant) (polled : FramePoll) :
    Round (WriteStart σ) (WriteStep σ) :=
  let taken := { start.exchange with frames := polled.source }
  let before := start.before ++ polled.asked.map .produced
  match polled.answer with
  | .failed failure => .last ⟨taken, start.transport, before, .failed failure⟩
  | .pending => .last ((taken.flushAccepted start.transport now).after before)
  | .finished => .again ⟨{ taken with writeState := .flushing }, start.transport, before⟩
  | .frame frame =>
    let encoded := start.exchange.pipeline.encode frame
    let framed := { taken with pipeline := encoded.2 }
    match encoded.1 with
    | none => .again ⟨framed, start.transport, before⟩
    | some outbound =>
      let sent := Transport.send start.transport outbound
      let before := before ++ [.write outbound sent.1]
      match sent.1 with
      | some error => .last ⟨framed, sent.2, before, .failed (.writeFailed error)⟩
      | none =>
        let before := before ++ [.timer .writeProgress]
        match framed.idle.writeProgress? now with
        | none => .last ⟨framed, sent.2, before, .crashed⟩
        | some idle => .again ⟨{ framed with idle := idle }, sent.2, before⟩

end WriteStart

namespace WritePoint

variable [Transport σ]

def rank : WritePoint σ → Nat
  | .begins start => start.rank
  | .asks _ point => point.rank

/-- What the write loop does with the answer of its source. -/
def use (now : Instant) (start : WriteStart σ) (polled : FramePoll) :
    Round (WritePoint σ) (WriteStep σ) :=
  (start.use now polled).within .begins .last

/-- One round of the write loop: a pass of it, up to the first look for a frame, or a further
look for the frame of this pass. -/
def round (now : Instant) : WritePoint σ → Round (WritePoint σ) (WriteStep σ)
  | .asks start point => point.round.within (.asks start) (use now start)
  | .begins start =>
    match start.exchange.writeState with
    | .done => .last ⟨start.exchange, start.transport, start.before, .written⟩
    | .flushing =>
      .last ((start.exchange.flushRequest start.transport now).after start.before)
    | .writing =>
      let room := Transport.ready start.transport
      let before := start.before ++ [.ready room.1]
      match room.1 with
      | .failed error => .last ⟨start.exchange, room.2, before, .failed (.writeFailed error)⟩
      | .pending => .last ((start.exchange.stall room.2 now).after before)
      | .done =>
        let asking : WriteStart σ := ⟨start.exchange, room.2, before⟩
        (FramePoint.asks start.exchange.frames []).round.within (.asks asking) (use now asking)

/-- What the write loop comes to. -/
def result (now : Instant) : WritePoint σ → WriteStep σ
  | .begins start => start.result now
  | .asks start point => (start.use now point.poll).settle (WriteStart.result now)

end WritePoint

namespace WriteStart

variable [Transport σ] {start next : WriteStart σ} {now : Instant}

/-- A pass goes on with what is left once its frame is yielded, or to the flush. -/
theorem rank_of_use {point : FramePoint} {polled : FramePoll} (ends : point.round = .last polled)
    (goesOn : start.use now polled = .again next) : next.rank < point.rank := by
  unfold use at goesOn
  dsimp only at goesOn
  split at goesOn
  · cases goesOn
  · cases goesOn
  · cases goesOn
    exact point.rank_pos
  · rename_i yielded
    have less := point.rank_of_frame ends yielded
    have source : next.exchange.frames = polled.source := by
      split at goesOn
      · cases goesOn
        rfl
      · split at goesOn
        · cases goesOn
        · split at goesOn <;> cases goesOn
          rfl
    have rank_le := next.rank_le
    rw [source] at rank_le
    omega

/-- The write loop behind the answer of the source. -/
theorem use_settle {x : Exchange} {s : σ} (writing : x.writeState = .writing)
    (room : (Transport.ready s).1 = .done) (before : List Action) :
    (use ⟨x, (Transport.ready s).2, before ++ [.ready .done]⟩ now x.frames.poll).settle
      (result now) = (x.writeFrames s now).after before := by
  cases answered : x.frames.poll.answer with
  | failed failure =>
      rw [Exchange.writeFrames_of_bodyFailed room answered]
      simp [use, answered, Round.settle, WriteStep.after, Exchange.asked, Exchange.askings]
  | pending =>
      rw [Exchange.writeFrames_of_bodyPending room answered]
      simp [use, answered, Round.settle, WriteStep.after, Exchange.asked, Exchange.askings]
  | finished =>
      rw [Exchange.writeFrames_of_finished room answered]
      simp [use, answered, Round.settle, result, Exchange.continueWrite, WriteStep.after,
        Exchange.asked, Exchange.askings]
  | frame frame =>
      cases encoded : (x.pipeline.encode frame).1 with
      | none =>
          rw [Exchange.writeFrames_of_unwritten room answered encoded]
          simp [use, answered, encoded, Round.settle, result, Exchange.continueWrite, writing,
            WriteStep.after, Exchange.asked, Exchange.askings]
      | some outbound =>
          cases sent : (Transport.send (Transport.ready s).2 outbound).1 with
          | some error =>
              rw [Exchange.writeFrames_of_refused room answered encoded sent]
              simp [use, answered, encoded, sent, Round.settle, WriteStep.after, Exchange.asked,
                Exchange.askings]
          | none =>
              cases touched : x.idle.writeProgress? now with
              | none =>
                  rw [Exchange.writeFrames_of_crashed room answered encoded sent touched]
                  simp [use, answered, encoded, sent, touched, Round.settle, WriteStep.after,
                    Exchange.asked, Exchange.askings]
              | some idle =>
                  rw [Exchange.writeFrames_of_taken room answered encoded sent touched]
                  simp [use, answered, encoded, sent, touched, Round.settle, result,
                    Exchange.continueWrite, writing, WriteStep.after, Exchange.asked,
                    Exchange.askings]

end WriteStart

namespace WritePoint

variable [Transport σ] {now : Instant}

/-- A look for a frame comes to what the pass does with the frame. -/
theorem asks_settle (start : WriteStart σ) (point : FramePoint) :
    (point.round.within (.asks start) (use now start)).settle (result now) =
      (start.use now point.poll).settle (WriteStart.result now) := by
  rw [point.poll_eq_settle]
  cases point.round with
  | again next => rfl
  | last polled =>
      simp only [Round.within, Round.settle, use]
      cases start.use now polled <;> rfl

/-- Writing is to go round until the loop ends. -/
theorem result_eq_settle (now : Instant) (point : WritePoint σ) :
    point.result now = (point.round now).settle (result now) := by
  cases point with
  | asks start point => exact (asks_settle start point).symm
  | begins start =>
      obtain ⟨x, s, before⟩ := start
      cases state : x.writeState with
      | done => simp [result, WriteStart.result, Exchange.continueWrite, round, state,
          Round.settle, WriteStep.after]
      | flushing => simp [result, WriteStart.result, Exchange.continueWrite, round, state,
          Round.settle]
      | writing =>
          simp only [result, WriteStart.result, Exchange.continueWrite, round, state]
          cases room : (Transport.ready s).1 with
          | failed error =>
              rw [Exchange.writeFrames_of_failed room]
              rfl
          | pending =>
              rw [Exchange.writeFrames_of_full room]
              simp [Round.settle, WriteStep.after]
          | done =>
              rw [asks_settle]
              exact (WriteStart.use_settle state room before).symm

/-- A look for a frame that is followed by another round. -/
theorem rank_of_asks {start : WriteStart σ} {point : FramePoint} {next : WritePoint σ}
    (goesOn : point.round.within (.asks start) (use now start) = .again next) :
    next.rank < point.rank := by
  cases turn : point.round with
  | again later =>
      rw [turn] at goesOn
      cases goesOn
      exact point.rank_of_again turn
  | last polled =>
      rw [turn] at goesOn
      simp only [Round.within, use] at goesOn
      cases used : start.use now polled with
      | again later =>
          rw [used] at goesOn
          cases goesOn
          exact WriteStart.rank_of_use turn used
      | last step =>
          rw [used] at goesOn
          cases goesOn

/-- A round that is not the last one brings the writing closer to its end. -/
theorem rank_of_again {point next : WritePoint σ} (goesOn : point.round now = .again next) :
    next.rank < point.rank := by
  cases point with
  | asks start point => exact rank_of_asks goesOn
  | begins start =>
      cases state : start.exchange.writeState with
      | done | flushing => simp [round, state] at goesOn
      | writing =>
          simp only [round, state] at goesOn
          split at goesOn
          · cases goesOn
          · cases goesOn
          · have lower := rank_of_asks goesOn
            simpa [rank, FramePoint.rank, WriteStart.rank, state] using lower

end WritePoint

namespace Exchange

variable [Transport σ]

/-- The write loop ends, after one round for each item of the body and five more at most. -/
theorem continueWrite_loops (x : Exchange) (s : σ) (now : Instant) :
    ∃ rounds, Loops (WritePoint.round now) (.begins ⟨x, s, []⟩) rounds (x.continueWrite s now) ∧
      rounds ≤ x.frames.body.producer.items.length + 5 := by
  obtain ⟨rounds, loops, few⟩ := Loops.of_rank (fun _ _ => WritePoint.rank_of_again)
    (WritePoint.result_eq_settle now) (.begins ⟨x, s, []⟩)
  refine ⟨rounds, loops, ?_⟩
  calc rounds ≤ WriteStart.rank ⟨x, s, []⟩ + 1 := few
    _ ≤ x.frames.rank + 1 := Nat.add_le_add_right (WriteStart.rank_le ⟨x, s, []⟩) 1
    _ ≤ x.frames.body.producer.items.length + 5 := Nat.add_le_add_right x.frames.rank_le 1

end Exchange

end HttpExchange
