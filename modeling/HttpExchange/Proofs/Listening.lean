import HttpExchange.Proofs.Attending
import HttpExchange.Proofs.Listened

/-!
What an exchange hears of its response, and when. The read timer runs from the poll on that reads
for the first time. A poll in which a received frame stood for an event puts it off by a period from
then; frames that stand for nothing leave it alone. It fires only in a poll that came to its timers
without anything else to end the exchange.
-/

namespace HttpExchange

open Trace

variable {σ : Type}

namespace Exchange

theorem noteProgress?_read {x next : Exchange} {now : Instant}
    (noted : x.noteProgress? now = some next) :
    next.idle.read = x.idle.heardFrom (!x.events.isEmpty) now := by
  unfold noteProgress? at noted
  split at noted
  · rename_i empty
    cases noted
    simp [IdleWatch.heardFrom, empty]
  · rename_i queued
    obtain ⟨idle, touched, rfl⟩ := Option.map_eq_some_iff.mp noted
    simp only [IdleWatch.heardFrom, queued, IdleWatch.readProgress?_eq_some touched, Bool.not_false]
    rfl

variable [Transport σ]

/-- The read loop puts the read timer off if a frame stood for an event. -/
theorem readFrames_read (x : Exchange) (s : σ) (h : Handler) (c : Completion) (now : Instant)
    (waits : (x.readFrames s h c now).turn = .pending) :
    (x.readFrames s h c now).exchange.idle.read =
      x.idle.heardFrom (learned x.pipeline (x.readFrames s h c now).actions) now := by
  fun_induction readFrames x s h c now with
  | case3 x s c delivery _ delivered drained got before arrived =>
      obtain ⟨-, -, -, taken⟩ := Handler.deliver_all drained (.ok x.pipeline) got.1
      have nothing : learned x.pipeline before = false := by
        unfold learned
        rw [show received before = _ from taken, arrived]
        rfl
      rw [nothing]
      rfl
  | case8 x s c delivery _ delivered drained got asked frame arrived decoded queued accepted
      before next noted ih =>
      obtain ⟨-, -, -, taken⟩ := Handler.deliver_all drained (.ok x.pipeline) got.1
      have empty : delivered.events = [] := Handler.deliver_rest_of_drained drained
      have spoken : learned x.pipeline before = !queued.events.isEmpty := by
        have received_one : received before = [frame] := by
          refine (received_append _ _).trans ?_
          rw [taken, arrived, (progressActions_quiet (p := x.pipeline) queued).2.1]
          rfl
        simp [learned, received_one, queued, decoded, empty]
      have same : next.pipeline = x.pipeline := (noteProgress?_frame noted).pipeline
      have read : next.idle.read = x.idle.heardFrom (!queued.events.isEmpty) now :=
        noteProgress?_read noted
      refine (ih waits).trans ?_
      rw [same, IdleWatch.heardFrom_again read, ← spoken, ← learned_append]
      rfl
  | _ => cases waits

theorem pollRead_read (x : Exchange) {lease : Lease σ} {connection : Connection σ}
    (held : lease.connection = some connection) (h : Handler) (c : Completion) (now : Instant)
    (reads : x.isReading = true) (waits : (x.pollRead lease h c now).turn = .pending) :
    (x.pollRead lease h c now).exchange.idle.read =
      x.idle.heardFrom (learned x.pipeline (x.pollRead lease h c now).actions) now := by
  unfold pollRead readOn at waits ⊢
  rw [if_pos reads] at waits ⊢
  simp only [held] at waits ⊢
  exact x.readFrames_read _ h c now waits

variable {x : Exchange} {lease : Lease σ} {connection : Connection σ} {h : Handler}
  {c : Completion} {now : Instant}

theorem pollWrite_unlistened (x : Exchange) (lease : Lease σ) (now : Instant) :
    listened (x.pollWrite lease now).actions = false :=
  (x.pollWrite_writing lease now).unlistened fun _ => rfl

/-- Only the read part of a poll reads. -/
theorem Completes.listened_eq (completes : x.Completes lease h c now) :
    listened (x.poll lease h c now).actions = listened (x.reading lease h c now).actions := by
  rw [completes.poll_eq]
  have silent (checked : Option Failure) : listened [.timerCheck checked] = false := rfl
  have looked (later : List Action) : listened (.control none :: later) = listened later := rfl
  simp only [Step.after, pollTimers, looked, listened_append, pollWrite_unlistened, silent,
    Bool.false_or, Bool.or_false]

theorem Completes.learned_eq (completes : x.Completes lease h c now) (p : Pipeline) :
    learned p (x.poll lease h c now).actions = learned p (x.reading lease h c now).actions := by
  rw [completes.poll_eq]
  have silent (checked : Option Failure) : learned p [.timerCheck checked] = false := rfl
  have looked (later : List Action) : learned p (.control none :: later) = learned p later := rfl
  simp only [Step.after, pollTimers, looked, learned_append,
    learned_of_unlistened p (x.pollWrite_unlistened lease now), silent, Bool.false_or,
    Bool.or_false]

/-- Neither writing nor reading changes how frames are read. -/
theorem reading_decode (x : Exchange) (lease : Lease σ) (h : Handler) (c : Completion)
    (now : Instant) : (x.reading lease h c now).exchange.pipeline.decode = x.pipeline.decode := by
  obtain ⟨frames, -, pipeline, -⟩ := (x.pollWrite_sends lease now).1.sent
  have frame : ReadFrame (x.pollWrite lease now).exchange (x.reading lease h c now).exchange :=
    pollRead_frame _ _ h _ now
  rw [frame.pipeline, pipeline, Pipeline.decode_advance]

/-- Where an exchange stands with its response after polls: it has not read yet, as its request is
not written, or it reads, and its read timer is due as the polls say. -/
inductive Listens (timeouts : Timeouts) (polls : List (Instant × List Action)) (x : Exchange) :
    Prop where
  | silent (off : x.isReading = false) (unread : x.idle.read = none)
      (undone : x.writeState ≠ .done) (unasked : Unasked polls)
  | reads (on : x.isReading = true) (asked : ¬Unasked polls)
      (due : x.idle.read.map IdleTimer.deadline = timeouts.readDue x.pipeline polls)

variable {timeouts : Timeouts} {polls : List (Instant × List Action)} {trace : List Action}

/-- An exchange that reads on puts its timer off by what it heard. -/
theorem Completes.listens_of_reading (completes : x.Completes lease h c now)
    (held : lease.connection = some connection)
    (serves : (x.pollWrite lease now).exchange.idle.Serves timeouts)
    (on : (x.pollWrite lease now).exchange.isReading = true)
    (due : (x.pollWrite lease now).exchange.idle.read.map IdleTimer.deadline =
      (timeouts.readDue x.pipeline polls).or
        ((IdleWatch.started .read timeouts.read now).map IdleTimer.deadline))
    (alike : Alike trace (x.poll lease h c now).actions) :
    (x.reading lease h c now).exchange.Listens timeouts (polls ++ [(now, trace)]) := by
  obtain ⟨still, still_held, -⟩ := Option.map_eq_some_iff.mp
    ((x.pollWrite_lease lease now).trans (congrArg (Option.map Connection.bare) held))
  obtain ⟨-, earlier, actions⟩ := pollRead_waits _ still_held h c.takeAbort.2 now on completes.waits
  have frame : ReadFrame (x.pollWrite lease now).exchange (x.reading lease h c now).exchange :=
    pollRead_frame _ _ h _ now
  have decodes := x.reading_decode lease h c now
  have asked : listened trace = true := by
    rw [alike.listened, completes.listened_eq]
    change listened (Exchange.pollRead _ _ _ _ _).actions = true
    rw [actions, listened_append]
    simp [listened, Action.isReceive]
  have read := pollRead_read _ still_held h c.takeAbort.2 now on completes.waits
  refine .reads (frame.isReading.trans on) (fun unasked => ?_) ?_
  · have unlistened := unasked (now, trace) (by simp)
    rw [asked] at unlistened
    cases unlistened
  · rw [timeouts.readDue_congr decodes, ← serves.readDue due asked, alike.learned,
      completes.learned_eq, ← learned_congr decodes, frame.pipeline]
    exact congrArg (Option.map IdleTimer.deadline) read

/-- An exchange that reads from this poll on. -/
structure Resumes (timeouts : Timeouts) (polls : List (Instant × List Action)) (now : Instant)
    (x : Exchange) : Prop where
  on : x.isReading = true
  read : x.idle.read = IdleWatch.started .read timeouts.read now
  unasked : Unasked polls

/-- A poll that comes to its timers leaves the read timer due as the polls say. -/
theorem Completes.listens (completes : x.Completes lease h c now)
    (held : lease.connection = some connection) (serves : x.idle.Serves timeouts)
    (unneeded : x.Unneeded) (stands : x.Listens timeouts polls ∨ x.Resumes timeouts polls now)
    (alike : Alike trace (x.poll lease h c now).actions) :
    (x.reading lease h c now).exchange.Listens timeouts (polls ++ [(now, trace)]) := by
  have served := (pollWrite_leaves unneeded lease now).serves serves
  have kept (on : x.isReading = true) : WriteFrame x (x.pollWrite lease now).exchange :=
    x.pollWrite_frame lease now (.inl on)
  have none_due (unasked : Unasked polls) : timeouts.readDue x.pipeline polls = none := by
    unfold Timeouts.readDue
    split
    · rfl
    · exact readDueAfter_of_unasked _ _ unasked
  rcases stands with (⟨off, unread, undone, unasked⟩ | ⟨on, asked, due⟩) | ⟨on, read, unasked⟩
  · rcases completes.wrote with waits | written
    · have frame := x.pollWrite_frame lease now (.inr (by simp [waits]))
      have still_off := frame.isReading.trans off
      have unchanged : x.reading lease h c now =
          ⟨(x.pollWrite lease now).exchange, (x.pollWrite lease now).resource, c.takeAbort.2, [],
            .pending⟩ := by
        unfold reading pollRead
        rw [if_neg (by simp [still_off])]
      have unlistened : listened trace = false := by
        rw [alike.listened, completes.listened_eq, unchanged]
        rfl
      rw [unchanged]
      exact .silent still_off (frame.read.trans unread)
        (x.pollWrite_pauses lease now waits).undone (unasked.concat unlistened)
    · have ends := pollWrite_of_end undone lease now written
      refine completes.listens_of_reading held served ?_ ?_ alike
      · rw [ends]
        exact (requestWritten_done _ now).2
      · rw [pollWrite_read_of_end serves undone off lease now written, none_due unasked]
        rfl
  · have frame := kept on
    refine completes.listens_of_reading held served (frame.isReading.trans on) ?_ alike
    rw [frame.read, due]
    unfold Timeouts.readDue IdleWatch.started
    cases timeouts.read.isZero with
    | true => rfl
    | false =>
        obtain ⟨deadline, known⟩ := Option.isSome_iff_exists.mp
          (readDueAfter_isSome x.pipeline timeouts.read asked)
        simp [known]
  · have frame := kept on
    refine completes.listens_of_reading held served (frame.isReading.trans on) ?_ alike
    rw [frame.read, read, none_due unasked]
    rfl

/-- A poll that comes to its timers leaves the write timer due as the polls say. -/
theorem Completes.stalls (completes : x.Completes lease h c now)
    (serves : x.idle.Serves timeouts) (unneeded : x.Unneeded)
    (due : x.idle.write.map IdleTimer.deadline = timeouts.writeDue (streak polls))
    (alike : Alike trace (x.poll lease h c now).actions) :
    (x.reading lease h c now).exchange.idle.write.map IdleTimer.deadline =
      timeouts.writeDue (streak (polls ++ [(now, trace)])) := by
  have rests : (x.reading lease h c now).exchange.idle.write =
      (x.pollWrite lease now).exchange.idle.write := (pollRead_rests _ _ h _ now).write
  have timer := ((pollWrite_leaves unneeded lease now).goesOn completes.wrote).2
  have receives : Only Action.isReceiving (x.reading lease h c now).actions :=
    pollRead_receiving _ _ h _ now
  have idle := receives.reading_of_receiving.idle_of_reading
  have polled : stalled (x.poll lease h c now).actions =
        stalled (x.pollWrite lease now).actions ∧
      progressed (x.poll lease h c now).actions =
        progressed (x.pollWrite lease now).actions := by
    rw [completes.poll_eq]
    have checked (fired : Option Failure) : Idle [.timerCheck fired] := ⟨rfl, rfl⟩
    have looked (later : List Action) : stalled (.control none :: later) = stalled later ∧
        progressed (.control none :: later) = progressed later := ⟨rfl, rfl⟩
    simp only [Step.after, pollTimers, stalled_append, progressed_append, (looked _).1,
      (looked _).2, idle.1, idle.2, (checked _).1, (checked _).2, Bool.or_false, and_self]
  rw [rests, timer]
  cases held : stalled (x.pollWrite lease now).actions with
  | true =>
      rw [streak_concat_of_stalled (alike.stalled.trans (polled.1.trans held)), if_pos rfl,
        ← polled.2, ← alike.progressed]
      exact IdleWatch.heldBack_due serves due now _
  | false =>
      rw [streak_concat_of_unstalled (alike.stalled.trans (polled.1.trans held)),
        timeouts.writeDue_nil]
      rfl

end Exchange

/-- A poll that finds the exchange over because of the read timer, and of nothing else: the timer
is due as the polls say, this one included, no abort was taken and nothing else failed, the
response did not end, and the write timer is not due. -/
structure Trace.ReadExpires (p : Pipeline) (timeouts : Timeouts)
    (polls : List (Instant × List Action)) (now : Instant) (actions : List Action)
    (failure : Failure) : Prop where
  cause : failure = .readIdle timeouts.read
  due : ∃ deadline ∈ timeouts.readDue p polls, deadline.isDue now = true
  unaborted : aborts actions = []
  alone : failures (.ok p) actions = [failure]
  unended : .responseEnd ∉ actions
  moving : ∀ deadline ∈ timeouts.writeDue (streak polls), deadline.isDue now = false

namespace Exchange

variable [Transport σ] {p : Pipeline} {x : Exchange} {lease : Lease σ} {connection : Connection σ}
  {h : Handler} {c : Completion} {now : Instant} {timeouts : Timeouts}
  {polls : List (Instant × List Action)} {trace : List Action} {failure : Failure}

/-- Only the read timer ends a poll of an exchange with a read timeout. -/
theorem poll_expires (same : x.pipeline.decode = p.decode) (empty : x.events = [])
    (held : lease.connection = some connection) (serves : x.idle.Serves timeouts)
    (unneeded : x.Unneeded) (own : ∀ abort ∈ c.queue, abort.isIdle = false)
    (stands : x.Listens timeouts polls ∨ x.Resumes timeouts polls now)
    (stalls : x.idle.write.map IdleTimer.deadline = timeouts.writeDue (streak polls))
    (alike : Alike trace (x.poll lease h c now).actions)
    (met : failure ∈ failures (.ok p) (x.poll lease h c now).actions)
    (timeout : failure.category = .readTimeout) :
    ReadExpires p timeouts (polls ++ [(now, trace)]) now (x.poll lease h c now).actions
      failure := by
  have hears := poll_hears same empty held h c now
  have finds := x.poll_findsEnd lease h c now
  obtain ⟨period, rfl⟩ := failure.eq_idle_of_category.2 timeout
  have failed : (x.poll lease h c now).turn.failure? = some (.readIdle period) := by
    rw [hears.failures] at met
    exact Option.mem_toList.mp met
  obtain ⟨action, member, meets⟩ := List.mem_filterMap.mp met
  -- an abort is never the failure of a timer
  have none_taken : aborts (x.poll lease h c now).actions = [] := by
    rcases x.poll_abort lease h c now with ⟨abort, waited, turn, -⟩ | ⟨-, none_taken⟩
    · rw [turn] at failed
      obtain rfl : abort = .readIdle period := Option.some.inj failed
      cases own _ waited
    · exact none_taken
  have checked : .timerCheck (some (.readIdle period)) ∈ (x.poll lease h c now).actions := by
    rcases Action.of_idle meets rfl with rfl | rfl
    · exact member
    · have taken : .readIdle period ∈ aborts (x.poll lease h c now).actions :=
        List.mem_filterMap.mpr ⟨_, member, rfl⟩
      rw [none_taken] at taken
      cases taken
  have completes := (x.poll_completes lease h c now).resolve_right fun ended => ended.2 _ checked
  have listens := completes.listens held serves unneeded stands alike
  have writes := completes.stalls serves unneeded stalls alike
  have fired : ((x.reading lease h c now).exchange.idle.poll now).1 = some (.readIdle period) := by
    rw [completes.poll_eq] at failed
    simp only [Step.after, pollTimers] at failed
    cases check : ((x.reading lease h c now).exchange.idle.poll now).1 with
    | none =>
        rw [check] at failed
        cases failed
    | some cause =>
        rw [check] at failed
        cases cause <;> exact failed
  have served : (x.reading lease h c now).exchange.idle.Serves timeouts :=
    (pollRead_rests _ _ h _ now).serves ((pollWrite_leaves unneeded lease now).serves serves)
  obtain ⟨rfl, ⟨timer, running, isDue⟩, undue⟩ := served.poll_readIdle fired
  refine ⟨rfl, ?_, none_taken, ?_, finds.unmarked fun ended => ?_, fun deadline late => ?_⟩
  · cases listens with
    | silent _ unread _ _ =>
        rw [unread] at running
        cases running
    | reads _ _ due =>
        rw [running, timeouts.readDue_congr ((x.reading_decode lease h c now).trans same)] at due
        exact ⟨timer.deadline, due.symm, isDue⟩
  · rw [hears.failures, failed]
    rfl
  · rw [ended] at failed
    cases failed
  · rw [← writes] at late
    obtain ⟨other, runs, rfl⟩ := Option.map_eq_some_iff.mp late
    exact undue other runs

/-- An exchange that goes on is as its reading left it. -/
theorem Completes.exchange_of_pending (completes : x.Completes lease h c now)
    (turn : (x.poll lease h c now).turn = .pending) :
    (x.poll lease h c now).exchange = (x.reading lease h c now).exchange := by
  rw [completes.poll_eq] at turn ⊢
  simp only [Step.after, pollTimers] at turn ⊢
  split at turn
  · rename_i undue
    rw [IdleWatch.poll_of_undue undue]
  · cases turn

omit [Transport σ] in
/-- A poll that leaves the exchange in progress read if reads are on. -/
theorem Waits.listened_eq (h : x.Waits now trace) : listened trace = x.isReading := by
  cases h with
  | intro writing reading sends receives pauses drained unread undue =>
      have looked (later : List Action) : listened (.control none :: later) = listened later := rfl
      have checked : listened [.timerCheck none] = false := rfl
      rw [looked, listened_append, listened_append, sends.unlistened fun _ => rfl, checked]
      cases on : x.isReading with
      | true =>
          obtain ⟨-, earlier, rfl⟩ := drained on
          simp [listened, Action.isReceive]
      | false =>
          rw [unread on]
          rfl

/-- An exchange begins without a word read. -/
theorem stands_of_begin {request : Request} (unasked : Unasked polls)
    (writeState : x.writeState = .writing) (isReading : x.isReading = request.isFullDuplex)
    (read : x.idle.read =
      if request.isFullDuplex then IdleWatch.started .read timeouts.read now else none) :
    x.Listens timeouts polls ∨ x.Resumes timeouts polls now := by
  cases duplex : request.isFullDuplex with
  | true =>
      rw [duplex] at isReading read
      exact .inr ⟨isReading, read, unasked⟩
  | false =>
      rw [duplex] at isReading read
      exact .inl (.silent isReading read (by simp [writeState]) unasked)

end Exchange

end HttpExchange
