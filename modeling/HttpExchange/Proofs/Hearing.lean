import HttpExchange.Proofs.Flushing
import HttpExchange.Proofs.Heard
import HttpExchange.Proofs.Rounds

/-!
What an exchange hears. The handler is called with the events of the received frames, each once
and in order, up to the end of the response. Of all the answers that an exchange gets in a poll at
most the last is a failure, and a poll fails with nothing else.
-/

namespace HttpExchange

open Trace

namespace Exchange

variable {σ : Type} [Transport σ] (framing : Except Failure Pipeline)

theorem failures_asking {room : Readiness} (open_ : room = .done) (asked : List BodyAnswer) :
    failures framing (.ready room :: asked.map .produced) =
      asked.filterMap BodyAnswer.failure? := by
  subst open_
  exact List.filterMap_map

theorem flushRequest_failures (x : Exchange) (s : σ) (now : Instant) :
    failures framing (x.flushRequest s now).actions =
      (x.flushRequest s now).turn.failure?.toList := by
  simp only [flushRequest]
  split <;> rename_i flushed <;> rw [flushed] <;> rfl

theorem flushAccepted_failures (x : Exchange) (s : σ) (now : Instant) :
    failures framing (x.flushAccepted s now).actions =
      (x.flushAccepted s now).turn.failure?.toList := by
  simp only [flushAccepted]
  split <;> rename_i flushed <;> rw [flushed] <;> rfl

/-- The write loop fails exactly with the failure that it met. -/
theorem writeFrames_failures (x : Exchange) (s : σ) (now : Instant) :
    failures framing (x.writeFrames s now).actions =
      (x.writeFrames s now).turn.failure?.toList := by
  have asking {room : Readiness} (open_ : room = .done) {x : Exchange} {answer : FrameAnswer}
      (polled : x.frames.poll.answer = answer) :
      failures framing (.ready room :: x.frames.poll.asked.map .produced) =
        answer.failure?.toList := by
    rw [failures_asking framing open_, FrameSource.poll_failure, polled]
  fun_induction writeFrames x s now with
  | case1 x s room error failed =>
      rw [failed]
      rfl
  | case2 x s room full =>
      rw [full]
      rfl
  | case3 x s room ready polled taken before failure failed => exact asking ready failed
  | case4 x s room ready polled taken before waiting =>
      simp only [WriteStep.after, before]
      rw [failures_append, asking ready waiting, flushAccepted_failures]
      rfl
  | case5 x s room ready polled taken before finished =>
      simp only [WriteStep.after, before]
      rw [failures_append, asking ready finished, flushRequest_failures]
      rfl
  | case6 x s room ready polled taken before frame yielded encoded framed skipped ih =>
      simp only [WriteStep.after, before]
      rw [failures_append, asking ready yielded, ih]
      rfl
  | case7 x s room ready polled taken before frame yielded encoded framed outbound written sent
      before' error refused =>
      simp only [before', before]
      rw [failures_append, asking ready yielded, refused]
      rfl
  | case8 x s room ready polled taken before frame yielded encoded framed outbound written sent
      before' accepted before'' lost =>
      simp only [before'', before', before]
      rw [failures_append, failures_append, asking ready yielded, accepted]
      rfl
  | case9 x s room ready polled taken before frame yielded encoded framed outbound written sent
      before' accepted before'' idle touched ih =>
      simp only [WriteStep.after, before'', before', before]
      rw [failures_append, failures_append, failures_append, asking ready yielded, accepted, ih]
      rfl

theorem pollWrite_failures (x : Exchange) {lease : Lease σ} {connection : Connection σ}
    (held : lease.connection = some connection) (now : Instant) :
    failures framing (x.pollWrite lease now).actions =
      (x.pollWrite lease now).turn.failure?.toList := by
  have written : failures framing (x.writeOn lease now).actions =
      (x.writeOn lease now).turn.failure?.toList := by
    unfold writeOn continueWrite
    rw [held]
    dsimp only
    split
    · exact x.writeFrames_failures framing _ now
    · exact x.flushRequest_failures framing _ now
    · rfl
  unfold pollWrite
  split
  · rfl
  · dsimp only
    split
    · rename_i turn
      rw [failures_append, written, turn]
      unfold requestWritten
      dsimp only
      split <;> rfl
    · exact written

end Exchange

/-- What was heard while reading with these events queued before: the handler was called with the
queued events and those of the received frames, the end among them ends the reading, and nothing
but a failure that was met fails it. -/
structure Step.Hears (p : Pipeline) (queue : List ResponseEvent) {ρ : Type} (step : Step ρ) :
    Prop where
  failures : failures (.ok p) step.actions = step.turn.failure?.toList
  callbacks : step.turn ≠ .crashed →
    callbacks step.actions = Callback.ofEvents (queue ++ p.events (received step.actions))
  finished : step.turn ≠ .crashed →
    (.finish ∈ queue ++ p.events (received step.actions) ↔ step.turn = .ended .complete)
  drained : step.turn = .pending → step.exchange.events = []

/-- Nothing is heard where nothing is received. -/
theorem Step.Hears.ofSilent {p : Pipeline} {ρ : Type} {step : Step ρ}
    (uncalled : Trace.callbacks step.actions = []) (unreceived : received step.actions = [])
    (failed : Trace.failures (.ok p) step.actions = step.turn.failure?.toList)
    (incomplete : step.turn ≠ .ended .complete)
    (empty : step.turn = .pending → step.exchange.events = []) : step.Hears p [] where
  failures := failed
  callbacks _ := by
    rw [uncalled, unreceived]
    rfl
  finished _ := by
    rw [unreceived]
    exact iff_of_false List.not_mem_nil incomplete
  drained := empty

/-- A round that received a frame, and the reading behind it. -/
theorem Step.Hears.after {p : Pipeline} {ρ : Type} {step : Step ρ}
    {queued events : List ResponseEvent} (later : step.Hears p queued) {before : List Action}
    (unfinished : .finish ∉ events)
    (told : Trace.callbacks before = Callback.ofEvents events)
    (unfailed : Trace.failures (.ok p) before = [])
    (taken : p.events (received before) = queued) : (step.after before).Hears p events where
  failures := by
    rw [Step.after, failures_append, unfailed]
    exact later.failures
  callbacks whole := by
    rw [Step.after, callbacks_append, told, later.callbacks whole, received_append,
      Pipeline.events_append, taken, ← Callback.ofEvents_append_of_open unfinished]
  finished whole := by
    rw [Step.after, received_append, Pipeline.events_append, taken, List.mem_append,
      or_iff_right unfinished]
    exact later.finished whole
  drained := later.drained

namespace Handler

/-- What a delivery comes to, unless the handler breaks off. -/
theorem deliver_hears (h : Handler) (events : List ResponseEvent) (c : Completion)
    (whole : (h.deliver events c).turn ≠ .crashed) :
    callbacks (h.deliver events c).actions = Callback.ofEvents events ∧
      (.finish ∈ events ↔ (h.deliver events c).turn = .ended) := by
  have called (callback : Callback) (c : Completion) :
      callbacks (h.call callback c).actions = [callback] := by
    unfold call
    dsimp only
    split <;> rfl
  fun_induction deliver h events c with
  | case1 c => exact ⟨rfl, by simp⟩
  | case2 event rest c unspoken =>
      cases event <;> cases unspoken
      exact ⟨rfl, by simp⟩
  | case3 => exact absurd rfl whole
  | case4 event rest c callback made called' calm later ih =>
      obtain ⟨told, finished⟩ := ih whole
      refine ⟨?_, ?_⟩
      · rw [callbacks_append, called, told, Callback.ofEvents_cons made]
        rfl
      · have other : .finish ≠ event := fun same => by rw [← same] at made; cases made
        rw [List.mem_cons, or_iff_right other]
        exact finished

theorem deliver_quiet (h : Handler) (events : List ResponseEvent) (c : Completion)
    (framing : Except Failure Pipeline) :
    failures framing (h.deliver events c).actions = [] ∧
      received (h.deliver events c).actions = [] := by
  have called (callback : Callback) (c : Completion) :
      failures framing (h.call callback c).actions = [] ∧
        received (h.call callback c).actions = [] := by
    unfold call
    dsimp only
    split <;> exact ⟨rfl, rfl⟩
  fun_induction deliver h events c with
  | case1 | case2 => exact ⟨rfl, rfl⟩
  | case3 event rest c callback made => exact called callback c
  | case4 event rest c callback made called' calm later ih =>
      obtain ⟨unfailed, unreceived⟩ := called callback c
      rw [failures_append, received_append, unfailed, unreceived, ih.1, ih.2]
      exact ⟨rfl, rfl⟩

/-- A delivery that left nothing queued, and the answer of the transport behind it. -/
theorem deliver_all {h : Handler} {events : List ResponseEvent} {c : Completion}
    (drained : (h.deliver events c).turn = .drained) (framing : Except Failure Pipeline)
    (arrival : Arrival) :
    let actions := (h.deliver events c).actions ++ [.receive arrival]
    .finish ∉ events ∧ callbacks actions = Callback.ofEvents events ∧
      failures framing actions = failures framing [.receive arrival] ∧
      received actions = received [.receive arrival] := by
  obtain ⟨told, finished⟩ := h.deliver_hears events c (by simp [drained])
  obtain ⟨unfailed, unreceived⟩ := h.deliver_quiet events c framing
  intro actions
  refine ⟨by simp [finished, drained], ?_, ?_, ?_⟩
  · rw [callbacks_append, told]
    exact List.append_nil _
  · rw [failures_append, unfailed, List.nil_append]
  · rw [received_append, unreceived, List.nil_append]

end Handler

namespace Exchange

variable {σ : Type} [Transport σ] {p : Pipeline}

omit [Transport σ] in
theorem noteProgress?_events {x next : Exchange} {now : Instant}
    (noted : x.noteProgress? now = some next) : next.events = x.events := by
  unfold noteProgress? at noted
  split at noted
  · cases noted
    rfl
  · obtain ⟨idle, _, rfl⟩ := Option.map_eq_some_iff.mp noted
    rfl

omit [Transport σ] in
theorem progressActions_quiet (x : Exchange) :
    callbacks x.progressActions = [] ∧ received x.progressActions = [] ∧
      failures (.ok p) x.progressActions = [] := by
  unfold progressActions
  split <;> exact ⟨rfl, rfl, rfl⟩

omit [Transport σ] in
/-- A round that ends with the answer of the transport. -/
theorem round_hears {h : Handler} {events : List ResponseEvent} {c next : Completion}
    (drained : (h.deliver events c).turn = .drained) {got arrival : Arrival}
    (arrived : got = arrival) {x : Exchange} (empty : x.events = []) {turn : Turn}
    (incomplete : turn ≠ .ended .complete)
    (uneventful : p.events (received [.receive arrival]) = [])
    (failed : failures (.ok p) [.receive arrival] = turn.failure?.toList) (s : σ) :
    Step.Hears p events ⟨x, s, next, (h.deliver events c).actions ++ [.receive got], turn⟩ := by
  subst arrived
  obtain ⟨unfinished, told, met, taken⟩ := Handler.deliver_all drained (.ok p) got
  refine ⟨met.trans failed, fun _ => ?_, fun _ => ?_, fun _ => empty⟩
  · rw [taken, uneventful, List.append_nil]
    exact told
  · rw [taken, uneventful, List.append_nil]
    exact iff_of_false unfinished incomplete

theorem readFrames_hears {x : Exchange} (same : x.pipeline.decode = p.decode) (s : σ)
    (h : Handler) (c : Completion) (now : Instant) :
    (x.readFrames s h c now).Hears p x.events := by
  -- what is queued is delivered before anything is received, so a round begins with no event left
  have decoding {x : Exchange} (same : x.pipeline.decode = p.decode) {c : Completion}
      (drained : (h.deliver x.events c).turn = .drained) (frame : Inbound) :
      x.pipeline.decode frame (h.deliver x.events c).rest = p.decode frame [] := by
    rw [same, Handler.deliver_rest_of_drained drained]
  fun_induction readFrames x s h c now with
  | case1 x s c delivery c' delivered ended =>
      obtain ⟨told, finished⟩ := h.deliver_hears x.events c (by rw [ended]; rintro ⟨⟩)
      obtain ⟨unfailed, unreceived⟩ := h.deliver_quiet x.events c (.ok p)
      refine ⟨unfailed, fun _ => ?_, fun _ => ?_, by rintro ⟨⟩⟩
      · rw [unreceived]
        exact told.trans (congrArg _ (List.append_nil _).symm)
      · rw [unreceived]
        exact iff_of_true (by simpa [Pipeline.events] using finished.mpr ended) rfl
  | case2 x s c delivery c' delivered crashed =>
      exact ⟨(h.deliver_quiet x.events c (.ok p)).1, fun whole => absurd rfl whole,
        fun whole => absurd rfl whole, by rintro ⟨⟩⟩
  | case3 x s c delivery c' delivered drained got before arrived =>
      refine round_hears drained arrived (Handler.deliver_rest_of_drained drained :) ?_ rfl rfl
        got.2
      rintro ⟨⟩
  | case4 x s c delivery c' delivered drained got before error arrived =>
      refine round_hears drained arrived (Handler.deliver_rest_of_drained drained :) ?_ rfl rfl
        got.2
      rintro ⟨⟩
  | case5 x s c delivery c' delivered drained got before arrived =>
      refine round_hears drained arrived (Handler.deliver_rest_of_drained drained :) ?_ rfl rfl
        got.2
      rintro ⟨⟩
  | case6 x s c delivery c' delivered drained got before frame arrived decoded queued failure
      refused =>
      have decoded_eq := decoding same drained frame
      have failing : (p.decode frame []).2 = some failure := decoded_eq ▸ refused
      have nothing := Pipeline.decode_of_refused failing
      have empty : queued.events = [] := (congrArg Prod.fst decoded_eq).trans nothing
      refine round_hears drained arrived empty ?_ ?_ ?_ got.2
      · rintro ⟨⟩
      · simp [Pipeline.events, nothing]
      · simp [failing, Turn.failure?, Outcome.failure?]
  | case7 x s c delivery c' delivered drained got before frame arrived decoded queued accepted
      before' lost =>
      obtain ⟨-, -, failed, -⟩ := Handler.deliver_all drained (.ok p) got.1
      have decoded_eq := decoding same drained frame
      have passing : (p.decode frame []).2 = none := decoded_eq ▸ accepted
      refine ⟨?_, fun whole => absurd rfl whole, fun whole => absurd rfl whole, by rintro ⟨⟩⟩
      refine (failures_append _ _ _).trans ?_
      rw [failed, arrived, (progressActions_quiet _).2.2]
      simp [passing, Turn.failure?]
  | case8 x s c delivery c' delivered drained got before frame arrived decoded queued accepted
      before' next noted ih =>
      obtain ⟨unfinished, told, failed, taken⟩ := Handler.deliver_all drained (.ok p) got.1
      have decoded_eq := decoding same drained frame
      have passing : (p.decode frame []).2 = none := decoded_eq ▸ accepted
      obtain ⟨quiet, unreceived, unfailed⟩ := progressActions_quiet (p := p) queued
      have queue : next.events = (p.decode frame []).1 :=
        (noteProgress?_events noted).trans (congrArg Prod.fst decoded_eq)
      have later := ih ((congrArg _ (noteProgress?_frame noted).pipeline).trans same)
      refine later.after unfinished ?_ ?_ ?_
      · refine (callbacks_append _ _).trans ?_
        rw [told, quiet, List.append_nil]
      · refine (failures_append _ _ _).trans ?_
        rw [failed, unfailed, arrived]
        simp [passing]
      · rw [queue]
        refine (congrArg p.events (received_append _ _)).trans ?_
        rw [taken, unreceived, arrived]
        simp [Pipeline.events]

theorem pollRead_hears {x : Exchange} (same : x.pipeline.decode = p.decode)
    (empty : x.events = []) {lease : Lease σ} {connection : Connection σ}
    (held : lease.connection = some connection) (h : Handler) (c : Completion) (now : Instant) :
    (x.pollRead lease h c now).Hears p [] := by
  unfold pollRead
  split
  · have read := readFrames_hears same connection.transport h c now
    rw [empty] at read
    unfold readOn
    rw [held]
    exact ⟨read.failures, read.callbacks, read.finished, read.drained⟩
  · exact .ofSilent rfl rfl rfl nofun fun _ => empty

theorem pollAfterWrite_hears {x : Exchange} (same : x.pipeline.decode = p.decode)
    (empty : x.events = []) {lease : Lease σ} {connection : Connection σ}
    (held : lease.connection = some connection) (h : Handler) (c : Completion) (now : Instant) :
    (x.pollAfterWrite lease h c now).Hears p [] := by
  have read := pollRead_hears same empty held h c now
  unfold pollAfterWrite
  dsimp only
  split
  · rename_i goes_on
    have told := read.callbacks (by rw [goes_on]; rintro ⟨⟩)
    have finished := read.finished (by rw [goes_on]; rintro ⟨⟩)
    have failed := read.failures
    rw [goes_on] at finished failed
    have checked (fired : Option Failure) :
        received ((x.pollRead lease h c now).actions ++ [.timerCheck fired]) =
          received (x.pollRead lease h c now).actions :=
      (received_append _ _).trans (List.append_nil _)
    refine ⟨?_, fun _ => ?_, fun _ => ?_, fun _ => read.drained goes_on⟩
    · refine (failures_append _ _ _).trans ?_
      rw [failed]
      simp only [Step.after, pollTimers]
      split
      · rename_i undue
        simp [undue, Turn.failure?]
      · rename_i failure due
        rw [due]
        cases failure <;> rfl
    · refine (callbacks_append _ _).trans ?_
      rw [told]
      simp only [Step.after, pollTimers, checked]
      exact List.append_nil _
    · simp only [Step.after, pollTimers, checked]
      refine iff_of_false (by simpa using finished) ?_
      split
      · rintro ⟨⟩
      · rename_i failure due
        cases failure <;> rintro ⟨⟩
  · exact read

theorem flushRequest_events (x : Exchange) (s : σ) (now : Instant) :
    (x.flushRequest s now).exchange.events = x.events := by
  simp only [flushRequest, WriteStep.after]
  split <;> rfl

theorem writeFrames_events (x : Exchange) (s : σ) (now : Instant) :
    (x.writeFrames s now).exchange.events = x.events := by
  fun_induction writeFrames x s now with
  | case4 =>
      simp only [flushAccepted, WriteStep.after]
      split <;> rfl
  | case5 => exact flushRequest_events _ _ now
  | case6 =>
      rename_i ih
      exact ih
  | case9 =>
      rename_i ih
      exact ih
  | _ => rfl

/-- Writing delivers nothing and queues nothing. -/
theorem pollWrite_events (x : Exchange) (lease : Lease σ) (now : Instant) :
    (x.pollWrite lease now).exchange.events = x.events := by
  have written : (x.writeOn lease now).exchange.events = x.events := by
    unfold writeOn continueWrite
    split
    · rfl
    · split
      · exact x.writeFrames_events _ now
      · exact x.flushRequest_events _ now
      · rfl
  unfold pollWrite
  split
  · rfl
  · dsimp only
    split
    · unfold requestWritten
      dsimp only
      split <;> exact written
    · exact written

/-- What a poll of an exchange comes to. -/
theorem poll_hears {x : Exchange} (same : x.pipeline.decode = p.decode) (empty : x.events = [])
    {lease : Lease σ} {connection : Connection σ} (held : lease.connection = some connection)
    (h : Handler) (c : Completion) (now : Instant) : (x.poll lease h c now).Hears p [] := by
  have writing := x.pollWrite_writing lease now
  have failed := x.pollWrite_failures (.ok p) held now
  obtain ⟨still, still_held, -⟩ := Option.map_eq_some_iff.mp
    ((x.pollWrite_lease lease now).trans (congrArg (Option.map Connection.bare) held))
  have reads : (x.pollWrite lease now).exchange.pipeline.decode = p.decode := by
    obtain ⟨frames, -, pipeline, -⟩ := (x.pollWrite_sends lease now).1.sent
    rw [pipeline, Pipeline.decode_advance, same]
  have behind := pollAfterWrite_hears reads ((x.pollWrite_events lease now).trans empty)
    still_held h c.takeAbort.2 now
  have looked : callbacks ([.control none] ++ (x.pollWrite lease now).actions) = [] ∧
      received ([.control none] ++ (x.pollWrite lease now).actions) = [] :=
    ⟨writing.callbacks_eq_nil, writing.received_eq_nil⟩
  unfold poll
  dsimp only
  split
  · exact .ofSilent rfl rfl rfl (by rintro ⟨⟩) (by rintro ⟨⟩)
  · unfold pollParts
    dsimp only
    split
    · rename_i turn
      rw [turn] at failed
      exact .ofSilent looked.1 looked.2 failed (by rintro ⟨⟩) (by rintro ⟨⟩)
    · rename_i turn
      rw [turn] at failed
      exact .ofSilent looked.1 looked.2 failed (by rintro ⟨⟩) (by rintro ⟨⟩)
    all_goals
      rename_i turn
      rw [turn] at failed
      have unfailed : failures (.ok p) ([.control none] ++ (x.pollWrite lease now).actions) = [] :=
        failed
      have whole := behind.after List.not_mem_nil looked.1 unfailed (by rw [looked.2]; rfl)
      simpa only [Step.after, List.append_assoc] using whole

end Exchange

end HttpExchange
