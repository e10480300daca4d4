import HttpExchange.Proofs.Driving
import HttpExchange.Proofs.Remaining

/-!
What an exchange sends. The write loop moves frames from the source through the framing to the
transport; nothing is lost between the layers, wherever the loop stops, and no other part of a poll
sends anything.
-/

namespace HttpExchange

open Trace

namespace Exchange

/-- What was done between two moments of an exchange: the frames that are no longer to come
went through the framing to the transport, the last of them possibly in vain, and the answers
this took are the items that the producer has no longer. -/
structure Sends (before after : Exchange) (actions : List Action) : Prop where
  sent : ∃ frames,
    (∀ later, before.frames.rest (answers actions ++ later) = frames ++ after.frames.rest later) ∧
    after.pipeline = before.pipeline.advance frames ∧
    offered actions = before.pipeline.wire frames
  ordered : offered actions = accepted actions ++ refused actions
  atHead : after.frames.isAtHead = true → answers actions = [] ∧ before.frames.isAtHead = true
  items : (answers actions).filterMap BodyAnswer.item? ++
    solidItems after.frames.body.producer.items = solidItems before.frames.body.producer.items

namespace Sends

variable {x y z : Exchange} {first second : List Action}

/-- What is off the wire sends nothing. -/
theorem ofOffWire (frames : y.frames = x.frames) (pipeline : y.pipeline = x.pipeline)
    (offWire : Only Action.isOffWire first) : Sends x y first where
  sent := by
    refine ⟨[], ?_, pipeline, ?_⟩
    · intro later
      rw [offWire.answers_eq_nil, frames]
      rfl
    · rw [offWire.offered_eq_nil, Pipeline.wire_nil]
  ordered := by
    rw [offWire.offered_eq_nil, offWire.accepted_eq_nil, offWire.refused_eq_nil]
    rfl
  atHead atHead := ⟨offWire.answers_eq_nil, by rw [← frames]; exact atHead⟩
  items := by
    rw [offWire.answers_eq_nil, frames]
    rfl

theorem trans (h : Sends x y first) (none_refused : refused first = [])
    (later : Sends y z second) : Sends x z (first ++ second) where
  sent := by
    obtain ⟨frames, coming, pipeline, wire⟩ := h.sent
    obtain ⟨more, then_coming, then_pipeline, then_wire⟩ := later.sent
    refine ⟨frames ++ more, ?_, ?_, ?_⟩
    · intro rest
      rw [answers_append, List.append_assoc, coming, then_coming, List.append_assoc]
    · rw [then_pipeline, pipeline, Pipeline.advance_append]
    · rw [offered_append, wire, then_wire, pipeline, Pipeline.wire_append]
  ordered := by
    rw [offered_append, accepted_append, refused_append, h.ordered, later.ordered, none_refused,
      List.append_nil, List.nil_append, List.append_assoc]
  atHead atHead := by
    obtain ⟨none_later, at_head⟩ := later.atHead atHead
    obtain ⟨none_before, was_at_head⟩ := h.atHead at_head
    rw [answers_append, none_before, none_later]
    exact ⟨rfl, was_at_head⟩
  items := by
    rw [answers_append, List.filterMap_append, List.append_assoc, later.items, h.items]

end Sends

theorem answers_asking (room : Readiness) (asked : List BodyAnswer) :
    answers (.ready room :: asked.map .produced) = asked := by
  induction asked with
  | nil => rfl
  | cons answer rest ih => exact congrArg (answer :: ·) ih

theorem offered_asking (room : Readiness) (asked : List BodyAnswer) :
    offered (.ready room :: asked.map .produced) = [] := by
  simp [offered]

theorem accepted_asking (room : Readiness) (asked : List BodyAnswer) :
    accepted (.ready room :: asked.map .produced) = [] := by
  simp [accepted]

theorem refused_asking (room : Readiness) (asked : List BodyAnswer) :
    refused (.ready room :: asked.map .produced) = [] := by
  simp [refused]

/-- One round of the write loop: the next frame is taken from the source, encoded, and offered
to the transport if there is something to write for it. -/
theorem round_sends {x y : Exchange} (room : Readiness) {sending : List Action}
    (source : y.frames = x.frames.poll.source)
    (pipeline : y.pipeline = x.pipeline.advance x.frames.poll.answer.frame?.toList)
    (asks_nothing : answers sending = [])
    (wire : offered sending = x.pipeline.wire x.frames.poll.answer.frame?.toList)
    (ordered : offered sending = accepted sending ++ refused sending) :
    Sends x y (.ready room :: x.frames.poll.asked.map .produced ++ sending) where
  sent := by
    refine ⟨x.frames.poll.answer.frame?.toList, ?_, pipeline, ?_⟩
    · intro later
      rw [answers_append, answers_asking, asks_nothing, List.append_nil, source]
      exact x.frames.poll_rest later
    · rw [offered_append, offered_asking, wire]
      rfl
  ordered := by
    rw [offered_append, accepted_append, refused_append, offered_asking, accepted_asking,
      refused_asking, ordered]
    rfl
  atHead atHead := by
    rw [source, FrameSource.poll_isAtHead] at atHead
    cases atHead
  items := by
    rw [answers_append, answers_asking, asks_nothing, List.append_nil, source]
    exact x.frames.poll_items

theorem unframed_sends {x y : Exchange} (room : Readiness)
    (none_yielded : x.frames.poll.answer.frame? = none) (source : y.frames = x.frames.poll.source)
    (pipeline : y.pipeline = x.pipeline) :
    Sends x y (.ready room :: x.frames.poll.asked.map .produced) := by
  have nothing : offered [] = x.pipeline.wire x.frames.poll.answer.frame?.toList := by
    rw [none_yielded, Option.toList_none, Pipeline.wire_nil]
    rfl
  have round := round_sends room source (by rw [none_yielded, pipeline]; rfl) rfl nothing rfl
  rwa [List.append_nil] at round

theorem framed_sends {x y : Exchange} (room : Readiness) {frame : RequestFrame}
    (yielded : x.frames.poll.answer = .frame frame) (sending : List Action)
    (source : y.frames = x.frames.poll.source)
    (pipeline : y.pipeline = (x.pipeline.encode frame).2) (asks_nothing : answers sending = [])
    (wire : offered sending = (x.pipeline.encode frame).1.toList)
    (ordered : offered sending = accepted sending ++ refused sending) :
    Sends x y (.ready room :: x.frames.poll.asked.map .produced ++ sending) := by
  have frame_eq : x.frames.poll.answer.frame? = some frame := by
    rw [yielded]
    rfl
  refine round_sends room source ?_ asks_nothing ?_ ordered
  · rw [frame_eq, pipeline]
    rfl
  · rw [frame_eq, wire]
    exact (x.pipeline.wire_singleton frame).symm

/-- A frame that needs nothing written for it. -/
theorem skipped_sends {x y : Exchange} (room : Readiness) {frame : RequestFrame}
    (yielded : x.frames.poll.answer = .frame frame)
    (unwritten : (x.pipeline.encode frame).1 = none) (source : y.frames = x.frames.poll.source)
    (pipeline : y.pipeline = (x.pipeline.encode frame).2) :
    Sends x y (.ready room :: x.frames.poll.asked.map .produced) := by
  have skipped := framed_sends room yielded [] source pipeline rfl (by rw [unwritten]; rfl) rfl
  rwa [List.append_nil] at skipped

/-- A frame that is offered, and taken or refused. -/
theorem offered_sends {x y : Exchange} (room : Readiness) {frame : RequestFrame}
    {outbound : Outbound} (yielded : x.frames.poll.answer = .frame frame)
    (written : (x.pipeline.encode frame).1 = some outbound) (refusal : Option NetError)
    (source : y.frames = x.frames.poll.source)
    (pipeline : y.pipeline = (x.pipeline.encode frame).2) :
    Sends x y (.ready room :: x.frames.poll.asked.map .produced ++ [.write outbound refusal]) := by
  refine framed_sends room yielded _ source pipeline rfl (by rw [written]; rfl) ?_
  cases refusal <;> rfl

/-- A frame that is taken is progress. -/
theorem taken_sends {x y : Exchange} (room : Readiness) {frame : RequestFrame}
    {outbound : Outbound} (yielded : x.frames.poll.answer = .frame frame)
    (written : (x.pipeline.encode frame).1 = some outbound) {refusal : Option NetError}
    (taken : refusal = none) (source : y.frames = x.frames.poll.source)
    (pipeline : y.pipeline = (x.pipeline.encode frame).2) :
    Sends x y (.ready room :: x.frames.poll.asked.map .produced ++ [.write outbound refusal] ++
      [.timer .writeProgress]) := by
  rw [List.append_assoc]
  refine framed_sends room yielded _ source pipeline rfl ?_ ?_
  · rw [written]
    rfl
  · rw [taken]
    rfl

theorem refused_offering (room : Readiness) (asked : List BodyAnswer) (outbound : Outbound)
    {refusal : Option NetError} (taken : refusal = none) :
    refused (.ready room :: asked.map .produced ++ [.write outbound refusal] ++
      [.timer .writeProgress]) = [] := by
  rw [refused_append, refused_append, refused_asking, taken]
  rfl

variable {σ : Type} [Transport σ]

theorem flushRequest_sends (x : Exchange) (s : σ) (now : Instant) :
    Sends x (x.flushRequest s now).exchange (x.flushRequest s now).actions := by
  simp only [flushRequest, WriteStep.after]
  split
  all_goals exact .ofOffWire rfl rfl (by simp [stall, Action.isOffWire])

theorem flushAccepted_sends (x : Exchange) (s : σ) (now : Instant) :
    Sends x (x.flushAccepted s now).exchange (x.flushAccepted s now).actions := by
  simp only [flushAccepted, WriteStep.after]
  split
  all_goals exact .ofOffWire rfl rfl (by simp [stall, Action.isOffWire])

theorem flushRequest_refused (x : Exchange) (s : σ) (now : Instant) :
    refused (x.flushRequest s now).actions = [] := by
  simp only [flushRequest, WriteStep.after]
  split <;> rfl

theorem flushAccepted_refused (x : Exchange) (s : σ) (now : Instant) :
    refused (x.flushAccepted s now).actions = [] := by
  simp only [flushAccepted, WriteStep.after]
  split <;> rfl

/-- The write loop sends what is no longer to come, wherever it stops. -/
theorem writeFrames_sends (x : Exchange) (s : σ) (now : Instant) :
    Sends x (x.writeFrames s now).exchange (x.writeFrames s now).actions := by
  fun_induction writeFrames x s now with
  | case1 => exact .ofOffWire rfl rfl (by simp [Action.isOffWire])
  | case2 => exact .ofOffWire rfl rfl (by simp [WriteStep.after, stall, Action.isOffWire])
  | case3 =>
      rename_i failed
      exact unframed_sends _ (by rw [failed]; rfl) rfl rfl
  | case4 =>
      rename_i waiting
      refine Sends.trans ?_ (refused_asking _ _) (flushAccepted_sends _ _ now)
      exact unframed_sends _ (by rw [waiting]; rfl) rfl rfl
  | case5 =>
      rename_i finished
      refine Sends.trans ?_ (refused_asking _ _) (flushRequest_sends _ _ now)
      exact unframed_sends _ (by rw [finished]; rfl) rfl rfl
  | case6 =>
      rename_i yielded _ _ unwritten ih
      refine Sends.trans ?_ (refused_asking _ _) ih
      exact skipped_sends _ yielded unwritten rfl rfl
  | case7 =>
      rename_i yielded _ _ outbound written _ _ error refusal
      exact offered_sends _ yielded written _ rfl rfl
  | case8 =>
      rename_i yielded _ _ outbound written _ _ accepted _ overdue
      exact taken_sends _ yielded written accepted rfl rfl
  | case9 =>
      rename_i yielded _ _ outbound written _ _ accepted _ idle touched ih
      refine Sends.trans ?_ (refused_offering _ _ outbound accepted) ih
      exact taken_sends _ yielded written accepted rfl rfl

/-- A frame is refused only by a transport that fails, and this ends the writing. -/
theorem writeFrames_refused (x : Exchange) (s : σ) (now : Instant) :
    refused (x.writeFrames s now).actions = [] ∨
      ∃ failure, (x.writeFrames s now).turn = .failed failure := by
  fun_induction writeFrames x s now with
  | case1 | case3 | case7 => exact .inr ⟨_, rfl⟩
  | case2 => exact .inl rfl
  | case4 =>
      refine .inl ?_
      simp only [WriteStep.after]
      rw [refused_append, refused_asking, flushAccepted_refused]
      rfl
  | case5 =>
      refine .inl ?_
      simp only [WriteStep.after]
      rw [refused_append, refused_asking, flushRequest_refused]
      rfl
  | case6 =>
      rename_i ih
      refine ih.imp (fun none_later => ?_) id
      simp only [WriteStep.after]
      rw [refused_append, refused_asking, none_later]
      rfl
  | case8 =>
      rename_i accepted _ _
      exact .inl (refused_offering _ _ _ accepted)
  | case9 =>
      rename_i accepted _ _ _ ih
      refine ih.imp (fun none_later => ?_) id
      simp only [WriteStep.after]
      rw [refused_append, refused_offering _ _ _ accepted, none_later]
      rfl

theorem requestWritten_sends (x : Exchange) (now : Instant) :
    Sends x (x.requestWritten now).1 (x.requestWritten now).2 := by
  unfold requestWritten
  dsimp only
  split
  all_goals exact .ofOffWire rfl rfl (by simp [Action.isOffWire])

theorem writeOn_sends (x : Exchange) (lease : Lease σ) (now : Instant) :
    Sends x (x.writeOn lease now).exchange (x.writeOn lease now).actions ∧
      (refused (x.writeOn lease now).actions = [] ∨
        ∃ failure, (x.writeOn lease now).turn = .failed failure) := by
  unfold writeOn continueWrite
  split
  · exact ⟨.ofOffWire rfl rfl only_nil, .inl rfl⟩
  · split
    · exact ⟨x.writeFrames_sends _ now, x.writeFrames_refused _ now⟩
    · exact ⟨x.flushRequest_sends _ now, .inl (x.flushRequest_refused _ now)⟩
    · exact ⟨.ofOffWire rfl rfl only_nil, .inl rfl⟩

theorem pollWrite_sends (x : Exchange) (lease : Lease σ) (now : Instant) :
    Sends x (x.pollWrite lease now).exchange (x.pollWrite lease now).actions ∧
      (refused (x.pollWrite lease now).actions = [] ∨
        ∃ failure, (x.pollWrite lease now).turn = .failed failure) := by
  obtain ⟨sends, refusal⟩ := x.writeOn_sends lease now
  unfold pollWrite
  split
  · exact ⟨.ofOffWire rfl rfl only_nil, .inl rfl⟩
  · dsimp only
    split
    · rename_i written
      have none_refused := refusal.resolve_right (by simp [written])
      have finished := (x.writeOn lease now).exchange.requestWritten_sends now
      refine ⟨sends.trans none_refused finished, .inl ?_⟩
      rw [refused_append, none_refused]
      unfold requestWritten
      dsimp only
      split <;> rfl
    · exact ⟨sends, refusal⟩

theorem pollAfterWrite_frame (x : Exchange) (lease : Lease σ) (h : Handler) (c : Completion)
    (now : Instant) : ReadFrame x (x.pollAfterWrite lease h c now).exchange := by
  have read := x.pollRead_frame lease h c now
  unfold pollAfterWrite
  dsimp only
  split
  · exact ⟨read.frames, read.pipeline, read.writeState, read.isReading⟩
  · exact read

theorem pollParts_sends (x : Exchange) (lease : Lease σ) (h : Handler) (c : Completion)
    (now : Instant) :
    Sends x (x.pollParts lease h c now).exchange (x.pollParts lease h c now).actions ∧
      (refused (x.pollParts lease h c now).actions = [] ∨
        ∃ outcome, (x.pollParts lease h c now).turn = .ended outcome) := by
  obtain ⟨sends, refusal⟩ := x.pollWrite_sends lease now
  unfold pollParts
  dsimp only
  split
  · exact ⟨sends, .inr ⟨_, rfl⟩⟩
  · rename_i crashed
    exact ⟨sends, refusal.imp_right (by simp [crashed])⟩
  all_goals
    rename_i going
    have none_refused := refusal.resolve_right (by simp [going])
    have frame := pollAfterWrite_frame (x.pollWrite lease now).exchange
      (x.pollWrite lease now).resource h c now
    have offWire := (pollAfterWrite_reading (x.pollWrite lease now).exchange
      (x.pollWrite lease now).resource h c now).offWire_of_reading
    refine ⟨sends.trans none_refused (.ofOffWire frame.frames frame.pipeline offWire), .inl ?_⟩
    rw [Step.after, refused_append, none_refused, offWire.refused_eq_nil]
    rfl

/-- A poll sends what is no longer to come, and has a frame refused only if it ends the
exchange. -/
theorem poll_sends (x : Exchange) (lease : Lease σ) (h : Handler) (c : Completion)
    (now : Instant) :
    Sends x (x.poll lease h c now).exchange (x.poll lease h c now).actions ∧
      (refused (x.poll lease h c now).actions = [] ∨
        ∃ outcome, (x.poll lease h c now).turn = .ended outcome) := by
  have looked (abort : Option Failure) : Only Action.isOffWire [.control abort] := by
    simp [Action.isOffWire]
  unfold poll
  dsimp only
  split
  · exact ⟨.ofOffWire rfl rfl (looked _), .inr ⟨_, rfl⟩⟩
  · obtain ⟨sends, refusal⟩ := x.pollParts_sends lease h c.takeAbort.2 now
    exact ⟨Sends.trans (.ofOffWire rfl rfl (looked none)) rfl sends, refusal⟩

end Exchange

end HttpExchange
