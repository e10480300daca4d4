import HttpExchange.Proofs.Calling
import HttpExchange.Proofs.Delivering

/-!
How a poll finds the end of its exchange. The first answer that ends it, or the end of the response,
is the last thing that the poll finds.
-/

namespace HttpExchange

open Trace

namespace Trace

/-- The last action of a trace is the failure. -/
def EndsIn (p : Pipeline) (failure : Failure) (trace : List Action) : Prop :=
  ∃ front mark, trace = front ++ [mark] ∧ mark.failure? (.ok p) = some failure

variable {p : Pipeline} {failure : Failure} {trace : List Action}

theorem EndsIn.after (h : EndsIn p failure trace) (before : List Action) :
    EndsIn p failure (before ++ trace) := by
  obtain ⟨front, mark, rfl, failed⟩ := h
  exact ⟨before ++ front, mark, by simp, failed⟩

theorem endsIn_singleton (mark : Action) (failed : mark.failure? (.ok p) = some failure) :
    EndsIn p failure [mark] :=
  ⟨[], mark, rfl, failed⟩

end Trace

/-- A source fails because its producer failed, asked last. -/
theorem FrameSource.poll_asked_of_failed {s : FrameSource} {failure : Failure}
    (failed : s.poll.answer = .failed failure) :
    ∃ skipped last, s.poll.asked = skipped ++ [last] ∧ last.failure? = some failure := by
  have body_asked (b : MeteredBody) {error : ForeignError}
      (failed : b.poll.answer = .failed error) :
      ∃ last, b.poll.asked.toList = [last] ∧ last.failure? = some (.body error) := by
    have met := b.poll_failure
    rw [failed] at met
    obtain ⟨last, asked, failing⟩ := Option.bind_eq_some_iff.mp met
    exact ⟨last, by rw [asked]; rfl, failing⟩
  have source_asked (b : MeteredBody) (failed : (pollBody b).answer = .failed failure) :
      ∃ skipped last, (pollBody b).asked = skipped ++ [last] ∧ last.failure? = some failure := by
    fun_induction pollBody b with
    | case2 b answered later ih =>
        obtain ⟨skipped, last, asked, failing⟩ := ih failed
        exact ⟨b.poll.asked.toList ++ skipped, last, by rw [asked, List.append_assoc], failing⟩
    | case5 b error answered =>
        cases failed
        obtain ⟨last, asked, failing⟩ := body_asked b answered
        exact ⟨[], last, asked, failing⟩
    | case1 | case3 | case4 | case6 => cases failed
  unfold poll at failed ⊢
  cases phase : s.phase with
  | head head | done =>
      simp only [phase] at failed
      cases failed
  | body =>
      simp only [phase] at failed
      exact source_asked s.body failed

namespace Exchange

variable {σ : Type} [Transport σ] {p : Pipeline} {failure : Failure}

theorem flushRequest_endsIn (x : Exchange) (s : σ) (now : Instant)
    (failed : (x.flushRequest s now).turn = .failed failure) :
    EndsIn p failure (x.flushRequest s now).actions := by
  simp only [flushRequest, WriteStep.after] at failed ⊢
  split at failed <;> cases failed
  rename_i error answered
  rw [answered]
  exact endsIn_singleton _ rfl

theorem flushAccepted_endsIn (x : Exchange) (s : σ) (now : Instant)
    (failed : (x.flushAccepted s now).turn = .failed failure) :
    EndsIn p failure (x.flushAccepted s now).actions := by
  simp only [flushAccepted, WriteStep.after] at failed ⊢
  split at failed <;> cases failed
  rename_i error answered
  rw [answered]
  exact endsIn_singleton _ rfl

theorem writeFrames_endsIn (x : Exchange) (s : σ) (now : Instant)
    (failed : (x.writeFrames s now).turn = .failed failure) :
    EndsIn p failure (x.writeFrames s now).actions := by
  fun_induction writeFrames x s now with
  | case1 x s room error full =>
      cases failed
      rw [full]
      exact endsIn_singleton _ rfl
  | case2 | case8 => cases failed
  | case3 x s room ready polled taken before cause answered =>
      cases failed
      obtain ⟨skipped, last, asked, failing⟩ := FrameSource.poll_asked_of_failed answered
      simp only [before, polled, asked, List.map_append, List.map_cons, List.map_nil,
        ← List.cons_append]
      exact (endsIn_singleton (.produced last) failing).after _
  | case4 => exact (flushAccepted_endsIn _ _ now failed).after _
  | case5 => exact (flushRequest_endsIn _ _ now failed).after _
  | case6 =>
      rename_i ih
      exact (ih failed).after _
  | case7 x s room ready polled taken before frame yielded encoded framed outbound written sent
      before' error refused =>
      cases failed
      simp only [before', refused]
      exact (endsIn_singleton _ rfl).after _
  | case9 =>
      rename_i ih
      exact (ih failed).after _

theorem pollWrite_endsIn (x : Exchange) {lease : Lease σ} {connection : Connection σ}
    (held : lease.connection = some connection) (now : Instant)
    (failed : (x.pollWrite lease now).turn = .failed failure) :
    EndsIn p failure (x.pollWrite lease now).actions := by
  have continued (failed : (x.continueWrite connection.transport now).turn = .failed failure) :
      EndsIn p failure (x.continueWrite connection.transport now).actions := by
    unfold continueWrite at failed ⊢
    split at failed
    · exact x.writeFrames_endsIn _ now failed
    · exact x.flushRequest_endsIn _ now failed
    · cases failed
  unfold pollWrite writeOn at failed ⊢
  rw [held] at failed ⊢
  split at failed
  · cases failed
  · rename_i undone
    rw [if_neg undone]
    dsimp only at failed ⊢
    split at failed
    · cases failed
    · exact continued failed

theorem readFrames_endsIn {x : Exchange} (same : x.pipeline.decode = p.decode) (s : σ)
    (h : Handler) (c : Completion) (now : Instant)
    (failed : (x.readFrames s h c now).turn.failure? = some failure) :
    EndsIn p failure (x.readFrames s h c now).actions := by
  fun_induction readFrames x s h c now with
  | case1 | case2 | case3 | case7 => cases failed
  | case4 x s c delivery c' delivered drained received before error answered =>
      cases failed
      simp only [before, answered]
      exact (endsIn_singleton _ rfl).after _
  | case5 x s c delivery c' delivered drained received before answered =>
      cases failed
      simp only [before, answered]
      exact (endsIn_singleton _ rfl).after _
  | case6 x s c delivery c' delivered drained received before frame answered decoded queued cause
      refused =>
      cases failed
      simp only [before, answered]
      refine (endsIn_singleton _ ?_).after _
      have rest := Handler.deliver_rest_of_drained drained
      simp only [decoded, delivered, delivery, rest, same] at refused
      exact refused
  | case8 =>
      rename_i noted ih
      have kept := (congrArg Pipeline.decode (noteProgress?_frame noted).pipeline).trans same
      exact (ih kept failed).after _

theorem pollRead_endsIn {x : Exchange} (same : x.pipeline.decode = p.decode) {lease : Lease σ}
    {connection : Connection σ} (held : lease.connection = some connection) (h : Handler)
    (c : Completion) (now : Instant)
    (failed : (x.pollRead lease h c now).turn.failure? = some failure) :
    EndsIn p failure (x.pollRead lease h c now).actions := by
  unfold pollRead readOn at failed ⊢
  split at failed
  · rename_i reads
    rw [if_pos reads]
    simp only [held] at failed ⊢
    exact readFrames_endsIn same _ h c now failed
  · cases failed

/-- The failure that ends a poll is the last thing that it finds. -/
theorem poll_endsIn {x : Exchange} (same : x.pipeline.decode = p.decode) {lease : Lease σ}
    {connection : Connection σ} (held : lease.connection = some connection) (h : Handler)
    (c : Completion) (now : Instant)
    (failed : (x.poll lease h c now).turn.failure? = some failure) :
    EndsIn p failure (x.poll lease h c now).actions := by
  obtain ⟨still, still_held, -⟩ := Option.map_eq_some_iff.mp
    ((x.pollWrite_lease lease now).trans (congrArg (Option.map Connection.bare) held))
  have kept : (x.pollWrite lease now).exchange.pipeline.decode = p.decode := by
    obtain ⟨frames, -, pipeline, -⟩ := (x.pollWrite_sends lease now).1.sent
    rw [pipeline, Pipeline.decode_advance, same]
  have writing (failed : (x.pollWrite lease now).turn = .failed failure) :
      EndsIn p failure (x.pollWrite lease now).actions := x.pollWrite_endsIn held now failed
  have behind (failed : ((x.pollWrite lease now).exchange.pollAfterWrite
        (x.pollWrite lease now).resource h c.takeAbort.2 now).turn.failure? = some failure) :
      EndsIn p failure ((x.pollWrite lease now).exchange.pollAfterWrite
        (x.pollWrite lease now).resource h c.takeAbort.2 now).actions := by
    unfold pollAfterWrite at failed ⊢
    dsimp only at failed ⊢
    split at failed
    · simp only [Step.after, pollTimers] at failed ⊢
      refine (endsIn_singleton _ ?_).after _
      split at failed
      · cases failed
      · rename_i cause due
        rw [due]
        cases cause <;> exact failed
    · exact pollRead_endsIn kept still_held h _ now failed
  unfold poll at failed ⊢
  dsimp only at failed ⊢
  cases aborted : c.takeAbort.1 with
  | some abort =>
      rw [aborted] at failed
      cases failed
      exact endsIn_singleton _ rfl
  | none =>
      rw [aborted] at failed
      refine EndsIn.after ?_ [.control none]
      unfold pollParts at failed ⊢
      dsimp only [Step.after] at failed ⊢
      cases turn : (x.pollWrite lease now).turn with
      | failed cause =>
          rw [turn] at failed
          cases failed
          exact writing turn
      | crashed =>
          rw [turn] at failed
          cases failed
      | pending | written =>
          rw [turn] at failed
          exact (behind failed).after _

end Exchange

/-- What a poll finds: nothing that ends the exchange if it goes on or breaks off, and otherwise
the end of the response or a failure, last. -/
inductive Step.Halts (p : Pipeline) {ρ : Type} (step : Step ρ) : Prop where
  | going (going : ∀ outcome, step.turn ≠ .ended outcome)
      (passing : Only (Action.isPassing p) step.actions)
  | completes (turn : step.turn = .ended .complete) (front : List Action)
      (actions : step.actions = front ++ [.responseEnd]) (passing : Only (Action.isPassing p) front)
  | fails (outcome : Outcome) (failure : Failure) (turn : step.turn = .ended outcome)
      (failed : outcome.failure? = some failure) (front : List Action) (mark : Action)
      (actions : step.actions = front ++ [mark]) (passing : Only (Action.isPassing p) front)

/-- What neither fails nor finds the end of the response. -/
theorem Trace.only_passing {p : Pipeline} {trace : List Action}
    (unfailed : failures (.ok p) trace = []) (unended : .responseEnd ∉ trace) :
    Only (Action.isPassing p) trace := by
  intro action member
  have passing := List.filterMap_eq_nil_iff.mp unfailed action member
  cases action with
  | responseEnd => exact absurd member unended
  | _ => exact Option.isNone_iff_eq_none.mpr passing

theorem Exchange.poll_halts {σ : Type} [Transport σ] {p : Pipeline} {x : Exchange}
    (same : x.pipeline.decode = p.decode) (empty : x.events = []) {lease : Lease σ}
    {connection : Connection σ} (held : lease.connection = some connection) (h : Handler)
    (c : Completion) (now : Instant) : (x.poll lease h c now).Halts p := by
  have finds := x.poll_findsEnd lease h c now
  have failures := (Exchange.poll_hears same empty held h c now).failures
  have ends {failure : Failure} (failed : (x.poll lease h c now).turn.failure? = some failure) :
      EndsIn p failure (x.poll lease h c now).actions :=
    Exchange.poll_endsIn same held h c now failed
  generalize x.poll lease h c now = step at *
  obtain ⟨next, resource, completion, actions, turn⟩ := step
  dsimp only at finds failures ends
  cases turn with
  | pending =>
      exact .going nofun (only_passing failures (finds.unmarked nofun))
  | crashed =>
      exact .going nofun (only_passing failures (finds.unmarked nofun))
  | ended outcome =>
      cases failed : outcome.failure? with
      | none =>
          cases outcome with
          | complete =>
              cases finds with
              | going unmarked going => exact absurd rfl going
              | found unmarked found =>
                  refine .completes rfl _ rfl (only_passing ?_ unmarked)
                  rw [failures_append] at failures
                  exact (List.append_eq_nil_iff.mp failures).1
          | writeFailed failure | failed failure | aborted failure => cases failed
      | some failure =>
          obtain ⟨front, mark, rfl, failing⟩ := ends failed
          have unmarked : .responseEnd ∉ front := by
            refine fun member => finds.unmarked ?_ (List.mem_append_left _ member)
            intro complete
            cases complete
            cases failed
          refine .fails outcome failure rfl failed front mark rfl (only_passing ?_ unmarked)
          have only : Trace.failures (.ok p) front ++ [failure] = [failure] := by
            have met : Trace.failures (.ok p) [mark] = [failure] :=
              List.filterMap_cons_some failing
            rw [← met, ← failures_append, met, failures]
            simp [Turn.failure?, failed]
          exact List.append_left_eq_self.mp only

end HttpExchange
