import HttpExchange.Proofs.Transmission

/-!
When the whole request is with the transport. An exchange counts its request as written exactly
from the flush on that the transport answered after it had accepted every frame of the request,
its end among them. A flush that is answered earlier, while the body has nothing to send, does
not count.
-/

namespace HttpExchange

open Trace

namespace Pipeline

variable {p : Pipeline} {request : Request} {trace more : List Action}

/-- The transport accepted the whole request, with its end, and then flushed. -/
def Flushed (p : Pipeline) (request : Request) (trace : List Action) : Prop :=
  ∃ sending, sending ++ [.flush .done] <+: trace ∧
    isOver request.room (answers sending) = true ∧
    accepted sending = p.reference request.head request.room (answers sending)

theorem Flushed.append (h : p.Flushed request trace) (more : List Action) :
    p.Flushed request (trace ++ more) := by
  obtain ⟨sending, flushed, ended, whole⟩ := h
  exact ⟨sending, flushed.trans (List.prefix_append _ _), ended, whole⟩

/-- Nothing but a flush makes the difference. -/
theorem flushed_append (unflushed : .flush .done ∉ more) :
    p.Flushed request (trace ++ more) ↔ p.Flushed request trace := by
  constructor
  · rintro ⟨sending, flushed, ended, whole⟩
    exact ⟨sending, (mark_isPrefix_append unflushed _ _).mp flushed, ended, whole⟩
  · intro h
    exact h.append more

/-- A flush behind the whole request makes the difference. -/
theorem flushed_concat : p.Flushed request (trace ++ [.flush .done]) ↔
    p.Flushed request trace ∨ isOver request.room (answers trace) = true ∧
      accepted trace = p.reference request.head request.room (answers trace) := by
  constructor
  · rintro ⟨sending, flushed, ended, whole⟩
    rcases (mark_isPrefix_concat _ _).mp flushed with rfl | within
    · exact .inr ⟨ended, whole⟩
    · exact .inl ⟨sending, within, ended, whole⟩
  · rintro (h | ⟨ended, whole⟩)
    · exact h.append _
    · exact ⟨trace, List.prefix_rfl, ended, whole⟩

end Pipeline

namespace MeteredBody

/-- A body fails if its producer does. -/
theorem poll_failed_of_asked {b : MeteredBody} {error : ForeignError}
    (asked : b.poll.asked = some (.failed error)) : b.poll.answer = .failed error := by
  cases ended : b.isOver with
  | true =>
      rw [poll_of_over ended] at asked
      cases asked
  | false =>
      rw [poll_of_open ended] at asked ⊢
      have failed : b.producer.poll.1 = .failed error := Option.some.inj asked
      have not_done : b.allowance.done = false := by
        simp only [isOver, Bool.or_eq_false_iff] at ended
        exact ended.1
      simp [failed, pass, Allowance.close, not_done]

/-- A body that has nothing yet is not over. -/
theorem poll_isOver_of_pending {b : MeteredBody} (waiting : b.poll.answer = .pending) :
    b.poll.body.isOver = false := by
  cases ended : b.isOver with
  | true =>
      rw [poll_of_over ended] at waiting
      cases waiting
  | false =>
      rw [poll_of_open ended] at waiting ⊢
      dsimp only at waiting ⊢
      cases answer : b.producer.poll.1 with
      | pending => exact ended
      | trailers fields | finished =>
          rw [answer] at waiting
          cases waiting
      | data chunk | failed error =>
          rw [answer] at waiting
          unfold pass at waiting
          dsimp only at waiting
          split at waiting <;> cases waiting

end MeteredBody

namespace FrameSource

/-- A source whose producer fails fails with it. -/
theorem poll_unfailed (s : FrameSource) (going : ∀ failure, s.poll.answer ≠ .failed failure)
    (error : ForeignError) : .failed error ∉ s.poll.asked := by
  have body_unfailed (b : MeteredBody) (going : ∀ failure, (pollBody b).answer ≠ .failed failure) :
      .failed error ∉ (pollBody b).asked := by
    have asked_unfailed (b : MeteredBody) (going : b.poll.answer ≠ .failed error) :
        .failed error ∉ b.poll.asked.toList := by
      intro asked
      exact going (MeteredBody.poll_failed_of_asked (Option.mem_toList.mp asked))
    fun_induction pollBody b with
    | case2 b answered later ih =>
        simp only [List.mem_append, not_or]
        exact ⟨asked_unfailed b (by simp [answered]), ih going⟩
    | case5 b failure answered => exact absurd rfl (going _)
    | case1 b answered | case3 b _ _ answered | case4 b _ answered | case6 b answered =>
        exact asked_unfailed b (by simp [answered])
  unfold poll at going ⊢
  cases phase : s.phase with
  | head head | done => exact List.not_mem_nil
  | body =>
      simp only [phase] at going
      exact body_unfailed s.body going

/-- A source waits only for a body that is not over. -/
theorem poll_of_pending {s : FrameSource} (waiting : s.poll.answer = .pending) :
    s.poll.source.phase = .body ∧ s.poll.source.body.isOver = false := by
  have body_pending (b : MeteredBody) (waiting : (pollBody b).answer = .pending) :
      (pollBody b).source.phase = .body ∧ (pollBody b).source.body.isOver = false := by
    fun_induction pollBody b with
    | case1 b answered => exact ⟨rfl, MeteredBody.poll_isOver_of_pending answered⟩
    | case2 b answered later ih => exact ih waiting
    | case3 | case4 | case5 | case6 => cases waiting
  unfold poll at waiting ⊢
  cases phase : s.phase with
  | head head | done =>
      simp only [phase] at waiting
      cases waiting
  | body =>
      simp only [phase] at waiting
      exact body_pending s.body waiting

/-- A source is finished once it is done. -/
theorem poll_of_finished {s : FrameSource} (finished : s.poll.answer = .finished) :
    s.poll.source.phase = .done := by
  have body_unfinished (b : MeteredBody) : (pollBody b).answer ≠ .finished := by
    fun_induction pollBody b with
    | case2 b answered later ih => exact ih
    | _ => simp
  unfold poll at finished ⊢
  cases phase : s.phase with
  | head head =>
      simp only [phase] at finished
      cases finished
  | body =>
      simp only [phase] at finished
      exact absurd finished (body_unfinished s.body)
  | done => exact phase

end FrameSource

namespace Exchange

variable {p : Pipeline} {request : Request} {x y : Exchange} {trace actions : List Action}

/-- Where an exchange stands with its request after all that was done: nothing went wrong so far,
the source is done once there is no frame left to write, and the request counts as written exactly
if it was flushed. -/
structure Writes (p : Pipeline) (request : Request) (x : Exchange) (trace : List Action) :
    Prop where
  sends : ∃ script, Sends (.unsent p request script) x trace
  unrefused : refused trace = []
  unfailed : ∀ error, .failed error ∉ answers trace
  sourceDone : x.writeState ≠ .writing → x.frames.phase = .done
  flushed : x.writeState = .done ↔ p.Flushed request trace

/-- The frames that an exchange on its way offered, and those still to come. -/
theorem Sends.offers {script : List BodyItem} (h : Sends (unsent p request script) x trace) :
    ∃ frames, offered trace = p.wire frames ∧ ∀ later,
      requestFrames request.head request.room (answers trace ++ later) =
        frames ++ x.frames.rest later := by
  obtain ⟨frames, coming, _, wire⟩ := h.sent
  refine ⟨frames, wire, fun later => ?_⟩
  rw [← coming later, unsent_rest]

namespace Writes

/-- An exchange begins with nothing written. -/
theorem ofPreparing (pipeline : x.pipeline = p) (writeState : x.writeState = .writing)
    (frames : x.frames = .ofBody request.head
      (.ofProducer request.head.headers request.content.produce))
    (preparing : Only Action.isPreparing trace) : Writes p request x trace := by
  have offWire := preparing.offWire_of_preparing
  refine ⟨⟨request.content.produce.items, .ofOffWire frames pipeline offWire⟩,
    offWire.refused_eq_nil, ?_, ?_, ?_⟩
  · intro error
    rw [offWire.answers_eq_nil]
    exact List.not_mem_nil
  · exact fun written => absurd writeState written
  · refine iff_of_false (by simp [writeState]) ?_
    rintro ⟨sending, flushed, _, _⟩
    cases preparing _ (flushed.subset (List.mem_append_right _ List.mem_cons_self))

/-- A source that is done yielded the whole request, and the transport took it. -/
theorem whole (h : Writes p request x trace) (done : x.frames.phase = .done) :
    isOver request.room (answers trace) = true ∧
      accepted trace = p.reference request.head request.room (answers trace) := by
  obtain ⟨script, sends⟩ := h.sends
  obtain ⟨frames, wire, coming⟩ := sends.offers
  have all (later : List BodyAnswer) :
      requestFrames request.head request.room (answers trace ++ later) = frames := by
    simpa [FrameSource.rest, done] using coming later
  constructor
  · by_contra unfinished
    have more := bodyFrames_append_finished (by simpa using unfinished) h.unfailed
    have same := (all [.finished]).trans (all []).symm
    rw [requestFrames, requestFrames, List.append_nil, List.cons.injEq, more] at same
    simp at same
  · have some_offered := sends.ordered
    have whole := all []
    rw [List.append_nil] at whole
    rw [h.unrefused, List.append_nil, wire, ← whole] at some_offered
    exact some_offered.symm

/-- As long as the body may go on, its end has not come. -/
theorem unfinished (h : Writes p request x trace) (body : x.frames.phase = .body)
    (going : x.frames.body.isOver = false) : isOver request.room (answers trace) = false := by
  obtain ⟨script, sends⟩ := h.sends
  obtain ⟨frames, _, coming⟩ := sends.offers
  have all (later : List BodyAnswer) :
      requestFrames request.head request.room (answers trace ++ later) =
        frames ++ bodyFrames x.frames.body.allowance.remaining later := by
    simpa [FrameSource.rest, body, MeteredBody.rest_of_open going] using coming later
  by_contra ended
  -- the end that the producer may still announce would have to be sent already
  have same : requestFrames request.head request.room (answers trace ++ [.finished]) =
      requestFrames request.head request.room (answers trace ++ []) := by
    rw [requestFrames, requestFrames, List.append_nil,
      bodyFrames_append_of_over (by simpa using ended)]
  rw [all, all] at same
  cases List.append_cancel_left same

theorem extend (h : Writes p request x trace) (sends : Sends x y actions)
    (unrefused : refused actions = []) (unfailed : ∀ error, .failed error ∉ answers actions)
    (sourceDone : y.writeState ≠ .writing → y.frames.phase = .done)
    (flushed : y.writeState = .done ↔ p.Flushed request (trace ++ actions)) :
    Writes p request y (trace ++ actions) where
  sends := by
    obtain ⟨script, before⟩ := h.sends
    exact ⟨script, before.trans h.unrefused sends⟩
  unrefused := by
    rw [refused_append, h.unrefused, unrefused]
    rfl
  unfailed error := by
    rw [answers_append, List.mem_append, not_or]
    exact ⟨h.unfailed error, unfailed error⟩
  sourceDone := sourceDone
  flushed := flushed

/-- Off the wire nothing but a flush counts. -/
theorem extend_offWire (h : Writes p request x trace) (frames : y.frames = x.frames)
    (pipeline : y.pipeline = x.pipeline) (offWire : Only Action.isOffWire actions)
    (sourceDone : y.writeState ≠ .writing → y.frames.phase = .done)
    (flushed : y.writeState = .done ↔ p.Flushed request (trace ++ actions)) :
    Writes p request y (trace ++ actions) := by
  refine h.extend (.ofOffWire frames pipeline offWire) offWire.refused_eq_nil ?_ sourceDone flushed
  intro error
  rw [offWire.answers_eq_nil]
  exact List.not_mem_nil

/-- What is done off the wire, other than to flush, makes no difference. -/
theorem offWire (h : Writes p request x trace) (frames : y.frames = x.frames)
    (pipeline : y.pipeline = x.pipeline) (writeState : y.writeState = x.writeState)
    (offWire : Only Action.isOffWire actions) (unflushed : .flush .done ∉ actions) :
    Writes p request y (trace ++ actions) := by
  apply h.extend_offWire frames pipeline offWire
  · rw [writeState, frames]
    exact h.sourceDone
  · rw [writeState, Pipeline.flushed_append unflushed]
    exact h.flushed

theorem ofCancel (h : Writes p request x trace) (cancels : Only Action.isCancel actions) :
    Writes p request x (trace ++ actions) := by
  refine h.offWire rfl rfl rfl cancels.preparing_of_cancel.offWire_of_preparing fun member => ?_
  cases cancels _ member

/-- One round of the write loop, which asks for a frame and sends it, and never flushes. -/
theorem round (h : Writes p request x trace) (writing : x.writeState = .writing)
    {answer : FrameAnswer} (polled : x.frames.poll.answer = answer)
    (unfailed : ∀ failure, answer ≠ .failed failure) {room : Readiness} {sending : List Action}
    (sends : Sends x y (.ready room :: x.frames.poll.asked.map .produced ++ sending))
    (unrefused : refused sending = []) (asks_nothing : answers sending = [])
    (unflushed : .flush .done ∉ sending) (undone : y.writeState ≠ .done)
    (sourceDone : y.writeState ≠ .writing → y.frames.phase = .done) :
    Writes p request y
      (trace ++ (.ready room :: x.frames.poll.asked.map .produced ++ sending)) := by
  refine h.extend sends ?_ ?_ sourceDone ?_
  · rw [refused_append, refused_asking, unrefused]
    rfl
  · intro error
    rw [answers_append, answers_asking, asks_nothing, List.append_nil]
    exact x.frames.poll_unfailed (polled ▸ unfailed) error
  · have none_flushed :
        .flush .done ∉ .ready room :: x.frames.poll.asked.map .produced ++ sending := by
      simp [unflushed]
    rw [Pipeline.flushed_append none_flushed, ← h.flushed]
    simp [undone, writing]

/-- A round in which nothing is sent. -/
theorem unsent_round (h : Writes p request x trace) (writing : x.writeState = .writing)
    {answer : FrameAnswer} (polled : x.frames.poll.answer = answer)
    (unfailed : ∀ failure, answer ≠ .failed failure) {room : Readiness}
    (sends : Sends x y (.ready room :: x.frames.poll.asked.map .produced))
    (undone : y.writeState ≠ .done)
    (sourceDone : y.writeState ≠ .writing → y.frames.phase = .done) :
    Writes p request y (trace ++ (.ready room :: x.frames.poll.asked.map .produced)) := by
  rw [← List.append_nil (Action.ready room :: _)] at sends ⊢
  exact h.round writing polled unfailed sends rfl rfl List.not_mem_nil undone sourceDone

/-- A round in which the transport takes a frame. -/
theorem taken_round (h : Writes p request x trace) (writing : x.writeState = .writing)
    {room : Readiness} {frame : RequestFrame} {outbound : Outbound}
    (yielded : x.frames.poll.answer = .frame frame)
    (written : (x.pipeline.encode frame).1 = some outbound) {refusal : Option NetError}
    (taken : refusal = none) (source : y.frames = x.frames.poll.source)
    (pipeline : y.pipeline = (x.pipeline.encode frame).2) (unwritten : y.writeState = .writing) :
    Writes p request y (trace ++ (.ready room :: x.frames.poll.asked.map .produced ++
      [.write outbound refusal] ++ [.timer .writeProgress])) := by
  have sends := taken_sends room yielded written taken source pipeline
  rw [List.append_assoc] at sends ⊢
  refine h.round writing yielded (by simp) sends ?_ rfl (by simp) (by simp [unwritten]) ?_
  · rw [taken]
    rfl
  · exact fun finished => absurd unwritten finished

/-- What the producer is given later changes nothing of what was written. -/
theorem feed (h : Writes p request x trace) (items : List BodyItem) (close : Bool) :
    Writes p request { x with frames := { x.frames with body := x.frames.body.feed items close } }
      trace where
  sends := by
    obtain ⟨script, sends⟩ := h.sends
    exact ⟨script ++ items, sends.feed items close⟩
  unrefused := h.unrefused
  unfailed := h.unfailed
  sourceDone := h.sourceDone
  flushed := h.flushed

end Writes

end Exchange

/-- How a step of the writing leaves the request: there is more to do, or the transport answered
the last flush, or the request failed. -/
inductive WriteStep.Furthers (p : Pipeline) (request : Request) (trace : List Action) {ρ : Type}
    (step : WriteStep ρ) : Prop where
  | goesOn (turn : step.turn = .pending)
      (writes : step.exchange.Writes p request (trace ++ step.actions))
  | flushes (turn : step.turn = .written) (sending : List Action)
      (actions : step.actions = sending ++ [.flush .done])
      (flushing : step.exchange.writeState = .flushing)
      (writes : step.exchange.Writes p request (trace ++ sending))
  | breaks (unwritten : step.turn ≠ .pending ∧ step.turn ≠ .written)

theorem WriteStep.Furthers.after {p : Pipeline} {request : Request} {trace before : List Action}
    {ρ : Type} {step : WriteStep ρ} (h : step.Furthers p request (trace ++ before)) :
    (step.after before).Furthers p request trace := by
  cases h with
  | goesOn turn writes =>
      rw [List.append_assoc] at writes
      exact .goesOn turn writes
  | flushes turn sending actions flushing writes =>
      rw [List.append_assoc] at writes
      refine .flushes turn (before ++ sending) ?_ flushing writes
      rw [List.append_assoc, ← actions]
      rfl
  | breaks unwritten => exact .breaks unwritten

namespace Exchange

variable {σ : Type} [Transport σ] {p : Pipeline} {request : Request} {x : Exchange}
  {trace : List Action}

omit [Transport σ] in
theorem stall_furthers (h : x.Writes p request trace) (s : σ) (now : Instant) :
    (x.stall s now).Furthers p request trace :=
  .goesOn rfl (h.offWire rfl rfl rfl (by simp [stall, Action.isOffWire]) (by simp [stall]))

theorem flushRequest_furthers (h : x.Writes p request trace) (flushing : x.writeState = .flushing)
    (s : σ) (now : Instant) : (x.flushRequest s now).Furthers p request trace := by
  simp only [flushRequest]
  split
  · rename_i flushed
    rw [flushed]
    exact .flushes rfl [] rfl flushing (by rw [List.append_nil]; exact h)
  · exact .breaks (by simp [WriteStep.after])
  · rename_i flushed
    rw [flushed]
    refine .after (stall_furthers ?_ _ now)
    exact h.offWire rfl rfl rfl (by simp [Action.isOffWire]) (by simp)

/-- A flush that is answered while the body may go on is not the last one. -/
theorem flushAccepted_furthers (h : x.Writes p request trace) (writing : x.writeState = .writing)
    (body : x.frames.phase = .body) (going : x.frames.body.isOver = false) (s : σ)
    (now : Instant) : (x.flushAccepted s now).Furthers p request trace := by
  simp only [flushAccepted]
  split
  · rename_i flushed
    rw [flushed]
    refine .goesOn rfl ?_
    have unfinished := h.unfinished body going
    have removes : Action.flush .done ∉ [.timer .removeWrite] := by simp
    refine h.extend_offWire rfl rfl ?_ ?_ ?_
    · simp [WriteStep.after, Action.isOffWire]
    · exact fun unwritten => absurd writing unwritten
    · simp only [WriteStep.after]
      rw [← List.append_assoc, Pipeline.flushed_append removes, Pipeline.flushed_concat,
        ← h.flushed]
      simp [writing, unfinished]
  · exact .breaks (by simp [WriteStep.after])
  · rename_i flushed
    rw [flushed]
    refine .after (stall_furthers ?_ _ now)
    exact h.offWire rfl rfl rfl (by simp [Action.isOffWire]) (by simp)

/-- The write loop, wherever it stops. -/
theorem writeFrames_furthers (h : x.Writes p request trace) (writing : x.writeState = .writing)
    (s : σ) (now : Instant) : (x.writeFrames s now).Furthers p request trace := by
  have undone : x.writeState ≠ .done := by simp [writing]
  -- each round adds to the trace before the next one goes on from there
  fun_induction writeFrames x s now generalizing trace with
  | case1 | case3 | case7 | case8 => exact .breaks (by simp)
  | case2 =>
      refine .after (stall_furthers ?_ _ now)
      exact h.offWire rfl rfl rfl (by simp [Action.isOffWire]) (by simp)
  | case4 =>
      rename_i waiting
      obtain ⟨body, going⟩ := FrameSource.poll_of_pending waiting
      apply WriteStep.Furthers.after
      apply flushAccepted_furthers
      · exact h.unsent_round writing waiting (by simp)
          (unframed_sends _ (by rw [waiting]; rfl) rfl rfl) undone
          fun unwritten => absurd writing unwritten
      · exact writing
      · exact body
      · exact going
  | case5 =>
      rename_i finished
      apply WriteStep.Furthers.after
      refine flushRequest_furthers ?_ rfl _ now
      exact h.unsent_round writing finished (by simp)
        (unframed_sends _ (by rw [finished]; rfl) rfl rfl) (by simp)
        fun _ => FrameSource.poll_of_finished finished
  | case6 =>
      rename_i yielded _ _ unwritten ih
      apply WriteStep.Furthers.after
      refine ih ?_ writing undone
      exact h.unsent_round writing yielded (by simp) (skipped_sends _ yielded unwritten rfl rfl)
        undone fun unwritten => absurd writing unwritten
  | case9 =>
      rename_i yielded _ _ outbound written _ _ accepted _ idle touched ih
      apply WriteStep.Furthers.after
      refine ih ?_ writing undone
      exact h.taken_round writing yielded written accepted rfl rfl writing

theorem continueWrite_furthers (h : x.Writes p request trace) (undone : x.writeState ≠ .done)
    (s : σ) (now : Instant) : (x.continueWrite s now).Furthers p request trace := by
  unfold continueWrite
  cases state : x.writeState with
  | writing => exact writeFrames_furthers h state s now
  | flushing => exact flushRequest_furthers h state s now
  | done => exact absurd state undone

theorem writeOn_furthers (h : x.Writes p request trace) (undone : x.writeState ≠ .done)
    (lease : Lease σ) (now : Instant) : (x.writeOn lease now).Furthers p request trace := by
  unfold writeOn
  cases lease.connection with
  | none => exact .breaks (by simp)
  | some connection =>
      have furthers := continueWrite_furthers h undone connection.transport now
      cases furthers with
      | goesOn turn writes => exact .goesOn turn writes
      | flushes turn sending actions flushing writes =>
          exact .flushes turn sending actions flushing writes
      | breaks unwritten => exact .breaks unwritten

/-- The request counts as written from the flush on that follows the whole of it. -/
theorem requestWritten_writes (h : x.Writes p request trace) (flushing : x.writeState = .flushing)
    (now : Instant) : (x.requestWritten now).1.Writes p request
      (trace ++ ([.flush .done] ++ (x.requestWritten now).2)) := by
  have done := h.sourceDone (by simp [flushing])
  have timers : Only Action.isOffWire (x.requestWritten now).2 ∧
      .flush .done ∉ (x.requestWritten now).2 := by
    unfold requestWritten
    dsimp only
    split <;> simp [Action.isOffWire]
  obtain ⟨frames, pipeline, writeState⟩ : (x.requestWritten now).1.frames = x.frames ∧
      (x.requestWritten now).1.pipeline = x.pipeline ∧
      (x.requestWritten now).1.writeState = .done := by
    unfold requestWritten
    dsimp only
    split <;> exact ⟨rfl, rfl, rfl⟩
  have offWire : Only Action.isOffWire ([.flush .done] ++ (x.requestWritten now).2) :=
    (only_append _ _).mpr ⟨by simp [Action.isOffWire], timers.1⟩
  apply h.extend_offWire frames pipeline offWire
  · rw [frames]
    exact fun _ => done
  · rw [← List.append_assoc, Pipeline.flushed_append timers.2, Pipeline.flushed_concat]
    exact iff_of_true writeState (.inr (h.whole done))

/-- Writing goes on as the request demands, as long as nothing goes wrong. -/
theorem pollWrite_writes (h : x.Writes p request trace) (lease : Lease σ) (now : Instant)
    (going : (x.pollWrite lease now).turn = .pending ∨ (x.pollWrite lease now).turn = .written) :
    (x.pollWrite lease now).exchange.Writes p request
      (trace ++ (x.pollWrite lease now).actions) := by
  by_cases done : x.writeState = .done
  · simp only [pollWrite, done, ↓reduceIte, List.append_nil]
    exact h
  · have furthers := writeOn_furthers h done lease now
    unfold pollWrite at going ⊢
    rw [if_neg done] at going ⊢
    dsimp only at going ⊢
    cases furthers with
    | goesOn turn writes =>
        rw [turn]
        exact writes
    | flushes turn sending actions flushing writes =>
        have written := requestWritten_writes writes flushing now
        rw [turn]
        dsimp only
        rw [actions]
        simpa only [List.append_assoc] using written
    | breaks unwritten =>
        cases turn : (x.writeOn lease now).turn with
        | pending => exact absurd turn unwritten.1
        | written => exact absurd turn unwritten.2
        | failed _ | crashed => simp [turn] at going

end Exchange

end HttpExchange
