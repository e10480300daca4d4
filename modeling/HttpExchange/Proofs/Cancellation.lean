import HttpExchange.Proofs.Driving

/-!
Cancellations while an exchange is driven. The completion of an execution is settled exactly
if the trace shows a cancellation that won, and the aborts on their way to the exchange are
those of this cancellation. An exchange that ends without an abort ends with a failure of its
own, which is never a cancellation.
-/

namespace HttpExchange

open Trace

def Failure.isCancellation : Failure → Bool
  | cancelled _ => true
  | _ => false

/-- The exchange came to its own end, and not to that of an abort. -/
def Outcome.isOrdinary : Outcome → Bool
  | complete => true
  | writeFailed failure | failed failure => !failure.isCancellation
  | aborted _ => false

def Turn.isOrdinary : Turn → Bool
  | ended outcome => outcome.isOrdinary
  | pending | crashed => true

def WriteTurn.isOrdinary : WriteTurn → Bool
  | failed failure => !failure.isCancellation
  | pending | written | crashed => true

/-- A body fails with an error of its producer. -/
theorem FrameSource.poll_failed {s : FrameSource} {failure : Failure}
    (failed : s.poll.answer = .failed failure) : failure.isCancellation = false := by
  have body_failed (b : MeteredBody) (failed : (pollBody b).answer = .failed failure) :
      failure.isCancellation = false := by
    fun_induction pollBody b with
    | case2 b answered later ih => exact ih failed
    | case5 b error answered =>
        cases failed
        rfl
    | _ => cases failed
  unfold poll at failed
  split at failed
  · cases failed
  · exact body_failed s.body failed
  · cases failed

/-- A frame that cannot be decoded is a failure of the network. -/
theorem Pipeline.decode_failed {p : Pipeline} {frame : Inbound} {queue : List ResponseEvent}
    {failure : Failure} (failed : (p.decode frame queue).2 = some failure) :
    ∃ error, failure = .net error := by
  have own_failed (frame : StreamFrame)
      (failed : StreamReader.ownEvents frame = .error failure) : ∃ error, failure = .net error := by
    unfold StreamReader.ownEvents at failed
    split at failed <;> cases failed <;> exact ⟨_, rfl⟩
  cases p with
  | single =>
      cases frame with
      | single event => cases failed
      | multiplexed frame =>
          cases failed
          exact ⟨_, rfl⟩
  | multiplexed writer reader =>
      cases frame with
      | single event =>
          cases failed
          exact ⟨_, rfl⟩
      | multiplexed frame =>
          simp only [decode, StreamReader.decode] at failed
          split at failed
          · cases failed
          · rename_i error errored
            cases failed
            unfold StreamReader.events at errored
            split at errored
            · exact own_failed frame errored
            · cases errored

namespace Exchange

variable {σ : Type} [Transport σ]

theorem flushRequest_ordinary (x : Exchange) (s : σ) (now : Instant) :
    (x.flushRequest s now).turn.isOrdinary = true := by
  simp only [flushRequest, WriteStep.after]
  split <;> rfl

theorem flushAccepted_ordinary (x : Exchange) (s : σ) (now : Instant) :
    (x.flushAccepted s now).turn.isOrdinary = true := by
  simp only [flushAccepted, WriteStep.after]
  split <;> rfl

theorem writeFrames_ordinary (x : Exchange) (s : σ) (now : Instant) :
    (x.writeFrames s now).turn.isOrdinary = true := by
  fun_induction writeFrames x s now with
  | case1 | case2 | case7 | case8 => rfl
  | case3 =>
      rename_i failure failed
      have ordinary := FrameSource.poll_failed failed
      simp [WriteTurn.isOrdinary, ordinary]
  | case4 => exact flushAccepted_ordinary _ _ _
  | case5 => exact flushRequest_ordinary _ _ _
  | case6 =>
      rename_i ih
      exact ih
  | case9 =>
      rename_i ih
      exact ih

theorem pollWrite_ordinary (x : Exchange) (lease : Lease σ) (now : Instant) :
    (x.pollWrite lease now).turn.isOrdinary = true := by
  have written : (x.writeOn lease now).turn.isOrdinary = true := by
    unfold writeOn continueWrite
    split
    · rfl
    · split
      · exact x.writeFrames_ordinary _ now
      · exact x.flushRequest_ordinary _ now
      · rfl
  unfold pollWrite
  split
  · rfl
  · dsimp only
    split
    · rfl
    · exact written

theorem readFrames_ordinary (x : Exchange) (s : σ) (h : Handler) (c : Completion)
    (now : Instant) : (x.readFrames s h c now).turn.isOrdinary = true := by
  fun_induction readFrames x s h c now with
  | case6 =>
      rename_i failure failed
      obtain ⟨error, rfl⟩ := Pipeline.decode_failed failed
      rfl
  | case8 =>
      rename_i ih
      exact ih
  | _ => rfl

theorem pollRead_ordinary (x : Exchange) (lease : Lease σ) (h : Handler) (c : Completion)
    (now : Instant) : (x.pollRead lease h c now).turn.isOrdinary = true := by
  unfold pollRead
  split
  · unfold readOn
    split
    · dsimp only
      split <;> rfl
    · exact x.readFrames_ordinary _ h c now
  · rfl

omit [Transport σ] in
/-- A timer that is due is a failure of its own. -/
theorem pollTimers_ordinary (x : Exchange) (lease : Lease σ) (c : Completion) (now : Instant) :
    (x.pollTimers lease c now).turn.isOrdinary = true := by
  have of_timer (timer : IdleTimer) :
      (outcomeOfTimer timer.failure).isOrdinary = true := by
    unfold IdleTimer.failure
    split <;> rfl
  have of_due {failure : Failure} (due : (x.idle.poll now).1 = some failure) :
      (outcomeOfTimer failure).isOrdinary = true := by
    unfold IdleWatch.poll at due
    split at due
    · cases due
      exact of_timer _
    · split at due
      · cases due
        exact of_timer _
      · cases due
  unfold pollTimers
  dsimp only
  split
  · rfl
  · rename_i failure due
    exact of_due due

theorem pollAfterWrite_ordinary (x : Exchange) (lease : Lease σ) (h : Handler) (c : Completion)
    (now : Instant) : (x.pollAfterWrite lease h c now).turn.isOrdinary = true := by
  unfold pollAfterWrite
  dsimp only
  split
  · exact (x.pollRead lease h c now).exchange.pollTimers_ordinary
      (x.pollRead lease h c now).resource (x.pollRead lease h c now).completion now
  · exact x.pollRead_ordinary lease h c now

theorem pollParts_ordinary (x : Exchange) (lease : Lease σ) (h : Handler) (c : Completion)
    (now : Instant) : (x.pollParts lease h c now).turn.isOrdinary = true := by
  have write := x.pollWrite_ordinary lease now
  unfold pollParts
  dsimp only
  split
  · rename_i failure failed
    rw [failed] at write
    exact write
  · rfl
  all_goals exact pollAfterWrite_ordinary _ _ h c now

omit [Transport σ] in
theorem progressActions_uncancelled (x : Exchange) : ¬Cancelled x.progressActions := by
  unfold progressActions
  split <;> simp [Cancelled]

/-- Behind the look at the control queue no abort is taken. -/
theorem pollParts_aborts (x : Exchange) (lease : Lease σ) (h : Handler) (c : Completion)
    (now : Instant) : aborts (x.pollParts lease h c now).actions = [] := by
  have write := (x.pollWrite_writing lease now).inert_of_writing.aborts_eq_nil
  have read := (pollAfterWrite_reading (x.pollWrite lease now).exchange
    (x.pollWrite lease now).resource h c now).aborts_eq_nil_of_reading
  unfold pollParts
  dsimp only
  split
  · exact write
  · exact write
  all_goals
    rw [Step.after, aborts_append, List.append_eq_nil_iff]
    exact ⟨write, read⟩

/-- A poll either takes an abort and ends with it, or finds none and, if it ends, ends in its
own way. -/
theorem poll_abort (x : Exchange) (lease : Lease σ) (h : Handler) (c : Completion)
    (now : Instant) :
    (∃ abort ∈ c.queue, (x.poll lease h c now).turn = .ended (.aborted abort) ∧
      aborts (x.poll lease h c now).actions = [abort]) ∨
    ((x.poll lease h c now).turn.isOrdinary = true ∧
      aborts (x.poll lease h c now).actions = []) := by
  unfold poll
  cases queue : c.queue with
  | cons abort rest =>
      refine .inl ⟨abort, List.mem_cons_self, ?_, ?_⟩ <;> simp [Completion.takeAbort, queue]
  | nil =>
      have none_taken : c.takeAbort = (none, c) := by simp [Completion.takeAbort, queue]
      refine .inr ?_
      rw [none_taken]
      exact ⟨x.pollParts_ordinary lease h c now, x.pollParts_aborts lease h c now⟩

end Exchange

/-- What cancellations and looks at the control queue keep. Nothing else that belongs to driving
an exchange touches its completion. -/
structure Completion.Steady (Holds : Completion → List Action → Prop) : Prop where
  extend : ∀ {c : Completion} {trace : List Action} (actions : List Action), Holds c trace →
    ¬Cancelled actions → Holds c (trace ++ actions)
  cancel : ∀ {c : Completion} {trace : List Action}, Holds c trace →
    Holds c.cancel.2 (trace ++ [.cancel c.cancel.1])
  takeAbort : ∀ {c : Completion} {trace : List Action}, Holds c trace → Holds c.takeAbort.2 trace

namespace Completion.Steady

variable {Holds : Completion → List Action → Prop} {c : Completion} {trace : List Action}

/-- Within a callback a handler can do no more than cancel. -/
theorem call (steady : Steady Holds) (h : Holds c trace) (handler : Handler)
    (callback : Callback) :
    Holds (handler.call callback c).completion
      (trace ++ (handler.call callback c).actions) := by
  unfold Handler.call
  dsimp only
  split
  · have made := steady.extend [.callback callback] h (by simp [Cancelled])
    simpa using steady.cancel made
  · exact steady.extend _ h (by simp [Cancelled])

theorem deliver (steady : Steady Holds) (h : Holds c trace) (handler : Handler)
    (events : List ResponseEvent) :
    Holds (handler.deliver events c).completion
      (trace ++ (handler.deliver events c).actions) := by
  fun_induction Handler.deliver handler events c generalizing trace with
  | case1 c => simpa using h
  | case2 event rest c ended => exact steady.extend _ h (by simp [Cancelled])
  | case3 => exact steady.call h handler _
  | case4 =>
      rename_i ih
      have next := ih (steady.call h handler _)
      rw [List.append_assoc] at next
      exact next

variable {σ : Type} [Transport σ]

theorem readFrames (steady : Steady Holds) (h : Holds c trace) (x : Exchange) (s : σ)
    (handler : Handler) (now : Instant) :
    Holds (x.readFrames s handler c now).completion
      (trace ++ (x.readFrames s handler c now).actions) := by
  have received {c : Completion} {trace : List Action} (h : Holds c trace) (x : Exchange)
      (arrival : Arrival) : Holds (handler.deliver x.events c).completion
        (trace ++ ((handler.deliver x.events c).actions ++ [.receive arrival])) := by
    rw [← List.append_assoc]
    exact steady.extend _ (steady.deliver h handler x.events) (by simp [Cancelled])
  have noted {c : Completion} {trace : List Action} (h : Holds c trace)
      (x queued : Exchange) (arrival : Arrival) :
      Holds (handler.deliver x.events c).completion
        (trace ++ ((handler.deliver x.events c).actions ++ [.receive arrival] ++
          queued.progressActions)) := by
    rw [← List.append_assoc]
    exact steady.extend _ (received h x arrival) queued.progressActions_uncancelled
  fun_induction Exchange.readFrames x s handler c now generalizing trace with
  | case1 | case2 => exact steady.deliver h handler _
  | case3 | case4 | case5 | case6 => exact received h _ _
  | case7 => exact noted h _ _ _
  | case8 =>
      rename_i ih
      simp only [Step.after]
      rw [← List.append_assoc trace]
      exact ih (noted h _ _ _)

theorem pollRead (steady : Steady Holds) (h : Holds c trace) (x : Exchange) (lease : Lease σ)
    (handler : Handler) (now : Instant) :
    Holds (x.pollRead lease handler c now).completion
      (trace ++ (x.pollRead lease handler c now).actions) := by
  unfold Exchange.pollRead
  split
  · unfold Exchange.readOn
    split
    · exact steady.deliver h handler x.events
    · exact steady.readFrames h x _ handler now
  · simpa using h

theorem pollAfterWrite (steady : Steady Holds) (h : Holds c trace) (x : Exchange)
    (lease : Lease σ) (handler : Handler) (now : Instant) :
    Holds (x.pollAfterWrite lease handler c now).completion
      (trace ++ (x.pollAfterWrite lease handler c now).actions) := by
  have read := steady.pollRead h x lease handler now
  unfold Exchange.pollAfterWrite
  dsimp only
  split
  · have checked := steady.extend [.timerCheck ((x.pollRead lease handler c now).exchange.idle.poll
      now).1] read (by simp [Cancelled])
    rw [List.append_assoc] at checked
    exact checked
  · exact read

theorem pollParts (steady : Steady Holds) (h : Holds c trace) (x : Exchange) (lease : Lease σ)
    (handler : Handler) (now : Instant) :
    Holds (x.pollParts lease handler c now).completion
      (trace ++ (x.pollParts lease handler c now).actions) := by
  have written := steady.extend _ h
    (x.pollWrite_writing lease now).inert_of_writing.not_cancelled
  unfold Exchange.pollParts
  dsimp only
  split
  · exact written
  · exact written
  all_goals
    have read := steady.pollAfterWrite written (x.pollWrite lease now).exchange
      (x.pollWrite lease now).resource handler now
    rw [List.append_assoc] at read
    exact read

theorem poll (steady : Steady Holds) (h : Holds c trace) (x : Exchange) (lease : Lease σ)
    (handler : Handler) (now : Instant) :
    Holds (x.poll lease handler c now).completion
      (trace ++ (x.poll lease handler c now).actions) := by
  have taken := steady.extend [.control c.takeAbort.1] (steady.takeAbort h) (by simp [Cancelled])
  unfold Exchange.poll
  dsimp only
  split
  · rename_i abort found
    rw [found] at taken
    exact taken
  · rename_i found
    rw [found] at taken
    have went_on := steady.pollParts taken x lease handler now
    rw [List.append_assoc] at went_on
    exact went_on

/-! What speaks of the completion alone needs no trace. -/

variable {Keeps : Completion → Prop}

omit [Transport σ] in
theorem call_keeps (steady : Steady fun c _ => Keeps c) (h : Keeps c) (handler : Handler)
    (callback : Callback) : Keeps (handler.call callback c).completion :=
  @call _ c [] steady h handler callback

theorem poll_keeps (steady : Steady fun c _ => Keeps c) (h : Keeps c) (x : Exchange)
    (lease : Lease σ) (handler : Handler) (now : Instant) :
    Keeps (x.poll lease handler c now).completion :=
  @poll _ c [] σ _ steady h x lease handler now

end Completion.Steady

/-- The completion is settled exactly if a cancellation won, and then with it, and otherwise has
no result; the aborts that wait or are parked are its own. -/
structure Completion.Candid (id : ExecutionId) (c : Completion) (trace : List Action) : Prop where
  execution : c.execution = id
  uncancelled : ¬Cancelled trace → c.isSettled = false ∧ c.result = none
  cancelled : Cancelled trace →
    c.isSettled = true ∧ c.result = some (.failure (Failure.cancelled id).classify)
  queued : ∀ abort ∈ c.queue, abort = .cancelled id
  parked : ∀ abort, c.slot = .parked abort → abort = .cancelled id

theorem Completion.fresh_candid (id : ExecutionId) {trace : List Action}
    (uncancelled : ¬Cancelled trace) : (fresh id).Candid id trace where
  execution := rfl
  uncancelled _ := ⟨rfl, rfl⟩
  cancelled cancelled := absurd cancelled uncancelled
  queued abort member := by cases member
  parked abort parked := by cases parked

namespace Completion.Candid

variable {id : ExecutionId} {c : Completion} {trace : List Action}

theorem extend (h : Candid id c trace) (actions : List Action) (quiet : ¬Cancelled actions) :
    Candid id c (trace ++ actions) where
  execution := h.execution
  uncancelled := by
    intro uncancelled
    rw [cancelled_append, not_or] at uncancelled
    exact h.uncancelled uncancelled.1
  cancelled := by
    intro cancelled
    rw [cancelled_append] at cancelled
    exact h.cancelled (cancelled.resolve_right quiet)
  queued := h.queued
  parked := h.parked

/-- Sending the abort of a cancellation leaves the result alone. -/
theorem sendAbort (h : Candid id c trace) : Candid id (c.abort (.cancelled id)) trace := by
  unfold abort
  cases slot : c.slot with
  | unleased =>
      refine ⟨h.execution, h.uncancelled, h.cancelled, h.queued, ?_⟩
      intro abort parked
      cases parked
      rfl
  | leased =>
      refine ⟨h.execution, h.uncancelled, h.cancelled, ?_, ?_⟩
      · intro abort member
        rcases List.mem_append.mp member with waiting | sent
        · exact h.queued abort waiting
        · exact List.mem_singleton.mp sent
      · intro abort parked
        cases parked
  | parked _ | released => exact h

/-- As long as the task is there its future yields something exactly if a cancellation won. -/
theorem await_isSome_iff (h : Candid id c trace) : c.await.isSome = true ↔ Cancelled trace := by
  by_cases cancelled : Cancelled trace
  · obtain ⟨_, yields⟩ := h.cancelled cancelled
    simp [await, yields, cancelled]
  · obtain ⟨unsettled, no_result⟩ := h.uncancelled cancelled
    simp [await, unsettled, no_result, cancelled]

theorem cancel (h : Candid id c trace) : Candid id c.cancel.2 (trace ++ [.cancel c.cancel.1]) := by
  cases settled : c.isSettled with
  | true =>
      have refused : c.cancel = (false, c) := by
        simp [Completion.cancel, complete, settled]
      rw [refused]
      exact h.extend _ (by simp [Cancelled])
  | false =>
      have won : c.cancel = (true, { c with
          isSettled := true
          result := some (.failure c.cancellation.classify) }.abort c.cancellation) := by
        simp [Completion.cancel, complete, settled]
      rw [won, show c.cancellation = .cancelled id by rw [cancellation, h.execution]]
      apply sendAbort
      refine ⟨h.execution, ?_, fun _ => ⟨rfl, rfl⟩, h.queued, h.parked⟩
      intro uncancelled
      simp [Cancelled] at uncancelled

/-- A parked abort is delivered to the connection that is leased. -/
theorem attach (h : Candid id c trace) : Candid id c.attach trace := by
  unfold Completion.attach
  cases slot : c.slot with
  | parked abort =>
      refine ⟨h.execution, h.uncancelled, h.cancelled, ?_, fun _ parked => by cases parked⟩
      intro other member
      rcases List.mem_append.mp member with waiting | delivered
      · exact h.queued other waiting
      · rw [List.mem_singleton.mp delivered]
        exact h.parked abort slot
  | unleased | leased | released =>
      exact ⟨h.execution, h.uncancelled, h.cancelled, h.queued, fun _ parked => by cases parked⟩

theorem detach (h : Candid id c trace) : Candid id c.detach trace :=
  ⟨h.execution, h.uncancelled, h.cancelled, h.queued, fun _ parked => by cases parked⟩

theorem takeAbort (h : Candid id c trace) : Candid id c.takeAbort.2 trace := by
  unfold Completion.takeAbort
  cases queue : c.queue with
  | nil => exact h
  | cons abort rest =>
      refine ⟨h.execution, h.uncancelled, h.cancelled, ?_, h.parked⟩
      intro other member
      exact h.queued other (by rw [queue]; exact List.mem_cons_of_mem _ member)

theorem steady (id : ExecutionId) : Steady (Candid id) where
  extend actions h quiet := h.extend actions quiet
  cancel h := h.cancel
  takeAbort h := h.takeAbort

end Completion.Candid

end HttpExchange
