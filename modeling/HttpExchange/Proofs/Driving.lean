import HttpExchange.Proofs.Trace

/-!
What one poll of an exchange can do. Its actions are those of driving: it never deals with the
pool, never closes the connection and never makes the last callback. The connection stays in
its lease, and nothing but its transport changes. Reading leaves the request as it was.
-/

namespace HttpExchange

/-- All of a connection but its transport. -/
def Connection.bare {σ : Type} (c : Connection σ) : Connection Unit :=
  ⟨c.id, c.negotiated, (), c.isOpen, c.nextStream⟩

@[simp]
theorem Connection.bare_changeTransport {σ : Type} (c : Connection σ) (id : ConnectionId)
    (change : σ → σ) : (c.changeTransport id change).bare = c.bare := by
  unfold Connection.changeTransport
  split <;> rfl

open Trace

namespace Handler

theorem call_receiving (h : Handler) (callback : Callback) (c : Completion)
    (passing : callback.isVerdict = false) :
    Only Action.isReceiving (h.call callback c).actions := by
  unfold call
  dsimp only
  split <;> simp [Action.isReceiving, passing]

/-- The callbacks of events are not the last ones. -/
theorem ofEvent?_passing {event : ResponseEvent} {callback : Callback}
    (made : Callback.ofEvent? event = some callback) : callback.isVerdict = false := by
  cases event <;> cases made <;> rfl

theorem deliver_receiving (h : Handler) (events : List ResponseEvent) (c : Completion) :
    Only Action.isReceiving (h.deliver events c).actions := by
  fun_induction deliver h events c with
  | case1 => exact only_nil
  | case2 => simp [Action.isReceiving]
  | case3 event rest c callback made =>
      exact h.call_receiving callback c (ofEvent?_passing made)
  | case4 event rest c callback made called broke later ih =>
      exact (only_append _ _).mpr ⟨h.call_receiving callback c (ofEvent?_passing made), ih⟩

end Handler

namespace Exchange

variable {σ : Type} [Transport σ]

/-- Reading touches the timers and the queue of events, and nothing else of the exchange. -/
structure ReadFrame (before after : Exchange) : Prop where
  frames : after.frames = before.frames
  pipeline : after.pipeline = before.pipeline
  writeState : after.writeState = before.writeState
  isReading : after.isReading = before.isReading

theorem ReadFrame.trans {first second third : Exchange} (h : ReadFrame first second)
    (later : ReadFrame second third) : ReadFrame first third :=
  ⟨later.frames.trans h.frames, later.pipeline.trans h.pipeline,
    later.writeState.trans h.writeState, later.isReading.trans h.isReading⟩

theorem noteProgress?_frame {x next : Exchange} {now : Instant}
    (noted : x.noteProgress? now = some next) : ReadFrame x next := by
  unfold noteProgress? at noted
  split at noted
  · cases noted
    exact ⟨rfl, rfl, rfl, rfl⟩
  · obtain ⟨idle, _, rfl⟩ := Option.map_eq_some_iff.mp noted
    exact ⟨rfl, rfl, rfl, rfl⟩

theorem progressActions_receiving (x : Exchange) : Only Action.isReceiving x.progressActions := by
  unfold progressActions
  split <;> simp [Action.isReceiving]

theorem readFrames_receiving (x : Exchange) (s : σ) (h : Handler) (c : Completion)
    (now : Instant) : Only Action.isReceiving (x.readFrames s h c now).actions := by
  have received (x : Exchange) (c : Completion) (arrival : Arrival) :
      Only Action.isReceiving ((h.deliver x.events c).actions ++ [.receive arrival]) :=
    (only_append _ _).mpr ⟨h.deliver_receiving x.events c, by simp [Action.isReceiving]⟩
  fun_induction readFrames x s h c now with
  | case1 | case2 => exact h.deliver_receiving _ _
  | case3 | case4 | case5 | case6 => exact received _ _ _
  | case7 =>
      exact (only_append _ _).mpr ⟨received _ _ _, progressActions_receiving _⟩
  | case8 =>
      rename_i ih
      refine (only_append _ _).mpr ⟨?_, ih⟩
      exact (only_append _ _).mpr ⟨received _ _ _, progressActions_receiving _⟩

theorem readFrames_frame (x : Exchange) (s : σ) (h : Handler) (c : Completion)
    (now : Instant) : ReadFrame x (x.readFrames s h c now).exchange := by
  fun_induction readFrames x s h c now with
  | case8 =>
      rename_i noted ih
      have hnext := noteProgress?_frame noted
      refine ReadFrame.trans ?_ ih
      exact ⟨hnext.frames, hnext.pipeline, hnext.writeState, hnext.isReading⟩
  | _ => exact ⟨rfl, rfl, rfl, rfl⟩

theorem pollRead_receiving (x : Exchange) (lease : Lease σ) (h : Handler) (c : Completion)
    (now : Instant) : Only Action.isReceiving (x.pollRead lease h c now).actions := by
  unfold pollRead
  split
  · unfold readOn
    split
    · exact h.deliver_receiving x.events c
    · exact x.readFrames_receiving _ h c now
  · exact only_nil

theorem pollRead_frame (x : Exchange) (lease : Lease σ) (h : Handler) (c : Completion)
    (now : Instant) : ReadFrame x (x.pollRead lease h c now).exchange := by
  unfold pollRead
  split
  · unfold readOn
    split
    · exact ⟨rfl, rfl, rfl, rfl⟩
    · exact x.readFrames_frame _ h c now
  · exact ⟨rfl, rfl, rfl, rfl⟩

theorem pollRead_lease (x : Exchange) (lease : Lease σ) (h : Handler) (c : Completion)
    (now : Instant) :
    (x.pollRead lease h c now).resource.connection.map Connection.bare =
      lease.connection.map Connection.bare := by
  unfold pollRead
  split
  · unfold readOn
    split
    · rfl
    · rename_i connection held
      rw [held]
      rfl
  · rfl

omit [Transport σ] in
theorem stall_writing (x : Exchange) (s : σ) (now : Instant) :
    Only Action.isWriting (x.stall s now).actions := by
  simp [stall, Action.isWriting]

theorem flushRequest_writing (x : Exchange) (s : σ) (now : Instant) :
    Only Action.isWriting (x.flushRequest s now).actions := by
  simp only [flushRequest, WriteStep.after, only_append]
  refine ⟨by simp [Action.isWriting], ?_⟩
  split
  · exact only_nil
  · exact only_nil
  · exact x.stall_writing _ now

theorem flushAccepted_writing (x : Exchange) (s : σ) (now : Instant) :
    Only Action.isWriting (x.flushAccepted s now).actions := by
  simp only [flushAccepted, WriteStep.after, only_append]
  refine ⟨by simp [Action.isWriting], ?_⟩
  split
  · simp [Action.isWriting]
  · exact only_nil
  · exact x.stall_writing _ now

/-- Asking for room and for the next frame. -/
theorem asking_writing (room : Readiness) (asked : List BodyAnswer) :
    Only Action.isWriting (.ready room :: asked.map .produced) := by
  refine (only_cons _ _).mpr ⟨rfl, ?_⟩
  intro action member
  obtain ⟨answer, _, rfl⟩ := List.mem_map.mp member
  rfl

theorem writeFrames_writing (x : Exchange) (s : σ) (now : Instant) :
    Only Action.isWriting (x.writeFrames s now).actions := by
  have offering (room : Readiness) (asked : List BodyAnswer) (frame : Outbound)
      (refusal : Option NetError) :
      Only Action.isWriting (.ready room :: asked.map .produced ++ [.write frame refusal]) :=
    (only_append _ _).mpr ⟨asking_writing room asked, by simp [Action.isWriting]⟩
  have progressing (room : Readiness) (asked : List BodyAnswer) (frame : Outbound)
      (refusal : Option NetError) :
      Only Action.isWriting (.ready room :: asked.map .produced ++ [.write frame refusal] ++
        [.timer .writeProgress]) :=
    (only_append _ _).mpr ⟨offering room asked frame refusal, by simp [Action.isWriting]⟩
  fun_induction writeFrames x s now with
  | case1 => simp [Action.isWriting]
  | case2 => simp [WriteStep.after, Action.isWriting, stall_writing]
  | case3 => exact asking_writing _ _
  | case4 => exact (only_append _ _).mpr ⟨asking_writing _ _, flushAccepted_writing _ _ _⟩
  | case5 => exact (only_append _ _).mpr ⟨asking_writing _ _, flushRequest_writing _ _ _⟩
  | case6 =>
      rename_i ih
      exact (only_append _ _).mpr ⟨asking_writing _ _, ih⟩
  | case7 => exact offering _ _ _ _
  | case8 => exact progressing _ _ _ _
  | case9 =>
      rename_i ih
      exact (only_append _ _).mpr ⟨progressing _ _ _ _, ih⟩

theorem pollWrite_writing (x : Exchange) (lease : Lease σ) (now : Instant) :
    Only Action.isWriting (x.pollWrite lease now).actions := by
  have written : Only Action.isWriting (x.writeOn lease now).actions := by
    unfold writeOn continueWrite
    split
    · exact only_nil
    · split
      · exact x.writeFrames_writing _ now
      · exact x.flushRequest_writing _ now
      · exact only_nil
  unfold pollWrite
  split
  · exact only_nil
  · dsimp only
    split
    · refine (only_append _ _).mpr ⟨written, ?_⟩
      unfold requestWritten
      dsimp only
      split <;> simp [Action.isWriting]
    · exact written

theorem pollWrite_lease (x : Exchange) (lease : Lease σ) (now : Instant) :
    (x.pollWrite lease now).resource.connection.map Connection.bare =
      lease.connection.map Connection.bare := by
  have written : (x.writeOn lease now).resource.connection.map Connection.bare =
      lease.connection.map Connection.bare := by
    unfold writeOn
    split
    · rfl
    · rename_i connection held
      rw [held]
      rfl
  unfold pollWrite
  split
  · rfl
  · dsimp only
    split <;> exact written

theorem pollAfterWrite_reading (x : Exchange) (lease : Lease σ) (h : Handler) (c : Completion)
    (now : Instant) : Only Action.isReading (x.pollAfterWrite lease h c now).actions := by
  have read := (x.pollRead_receiving lease h c now).reading_of_receiving
  unfold pollAfterWrite
  dsimp only
  split
  · exact (only_append _ _).mpr ⟨read, by simp [pollTimers, Action.isReading]⟩
  · exact read

theorem pollAfterWrite_lease (x : Exchange) (lease : Lease σ) (h : Handler) (c : Completion)
    (now : Instant) :
    (x.pollAfterWrite lease h c now).resource.connection.map Connection.bare =
      lease.connection.map Connection.bare := by
  have read := x.pollRead_lease lease h c now
  unfold pollAfterWrite
  dsimp only
  split <;> exact read

/-- Whatever an exchange meets in a poll, all it does is drive itself. -/
theorem poll_driving (x : Exchange) (lease : Lease σ) (h : Handler) (c : Completion)
    (now : Instant) : Only Action.isDriving (x.poll lease h c now).actions := by
  have write := (x.pollWrite_writing lease now).driving_of_writing
  unfold poll
  dsimp only
  split
  · simp [Action.isDriving]
  · refine (only_append [.control none] _).mpr ⟨by simp [Action.isDriving], ?_⟩
    unfold pollParts
    dsimp only
    split
    · exact write
    · exact write
    all_goals
      have read := pollAfterWrite_reading (x.pollWrite lease now).exchange
        (x.pollWrite lease now).resource h c.takeAbort.2 now
      exact (only_append _ _).mpr ⟨write, read.driving_of_reading⟩

/-- A poll leaves the connection in the lease, and all of it but the transport as it was. -/
theorem poll_lease (x : Exchange) (lease : Lease σ) (h : Handler) (c : Completion)
    (now : Instant) :
    (x.poll lease h c now).resource.connection.map Connection.bare =
      lease.connection.map Connection.bare := by
  have write := x.pollWrite_lease lease now
  unfold poll
  dsimp only
  split
  · rfl
  · unfold pollParts
    dsimp only [Step.after]
    split
    · exact write
    · exact write
    all_goals exact (pollAfterWrite_lease _ _ h _ now).trans write

end Exchange

end HttpExchange
