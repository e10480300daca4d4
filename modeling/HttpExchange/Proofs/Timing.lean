import HttpExchange.Proofs.Settlement
import HttpExchange.Proofs.Timers

/-!
What an exchange does to its idle timers. Writing, reading and whole polls leave them timers of the
configured periods. Only recording progress can break a poll off, at a time from which the clock
cannot show a whole period.

The write timer stands for a connection that holds the request back. A poll that is held back
leaves it running: started if it did not run before, and else put off if the connection took
anything. A poll that is not held back leaves none.
-/

namespace HttpExchange

open Trace

/-- What a step of the writing does to the timers. -/
structure WriteStep.Times (w : IdleWatch) (now : Instant) {ρ : Type} (step : WriteStep ρ) :
    Prop where
  serves : ∀ {periods}, w.Serves periods → step.exchange.idle.Serves periods
  pending : step.turn = .pending → step.exchange.writeState ≠ .done ∧
    step.exchange.idle.write =
      if stalled step.actions then w.heldBack (progressed step.actions) now else none
  unstalled : step.turn ≠ .pending → stalled step.actions = false
  crashed : ∀ {periods}, w.Serves periods → step.turn = .crashed →
    now.after? periods.write = none

/-- What the writing left of the timers, once the rest of a poll is reached. -/
structure WriteStep.Leaves (w : IdleWatch) (now : Instant) {ρ : Type} (step : WriteStep ρ) :
    Prop where
  serves : ∀ {periods}, w.Serves periods → step.exchange.idle.Serves periods
  goesOn : step.turn = .pending ∨ step.turn = .written →
    (stalled step.actions = true → step.exchange.writeState ≠ .done) ∧
    step.exchange.idle.write =
      if stalled step.actions then w.heldBack (progressed step.actions) now else none
  crashed : ∀ {periods}, w.Serves periods → step.turn = .crashed →
    now.after? periods.write = none

namespace WriteStep.Times

variable {w next : IdleWatch} {now : Instant} {ρ : Type} {step : WriteStep ρ}

/-- Writing that comes to an end without a stall leaves the timers to what follows. -/
theorem ofEnded (timers : step.exchange.idle = w) (ended : step.turn ≠ .pending)
    (whole : step.turn ≠ .crashed) (moving : stalled step.actions = false) :
    step.Times w now where
  serves := fun serves => timers ▸ serves
  pending := fun turn => absurd turn ended
  unstalled := fun _ => moving
  crashed := fun _ turn => absurd turn whole

theorem after (h : step.Times w now) {before : List Action} (idle : Idle before) :
    (step.after before).Times w now where
  serves := h.serves
  pending := by
    simpa only [WriteStep.after, stalled_append, progressed_append, idle.1, idle.2,
      Bool.false_or] using h.pending
  unstalled := by
    simpa only [WriteStep.after, stalled_append, idle.1, Bool.false_or] using h.unstalled
  crashed := h.crashed

theorem afterProgress (h : step.Times next now) (touched : w.writeProgress? now = some next)
    {before : List Action} (moving : stalled before = false) (progress : progressed before = true) :
    (step.after before).Times w now where
  serves := fun serves => h.serves (serves.writeProgress touched)
  pending := fun turn => by
    obtain ⟨undone, timer⟩ := h.pending turn
    refine ⟨undone, ?_⟩
    rw [IdleWatch.heldBack_of_progress touched] at timer
    simpa only [WriteStep.after, stalled_append, progressed_append, moving, progress,
      Bool.false_or, Bool.true_or] using timer
  unstalled := by
    simpa only [WriteStep.after, stalled_append, moving, Bool.false_or] using h.unstalled
  crashed := fun serves => h.crashed (serves.writeProgress touched)

end WriteStep.Times

namespace Exchange

variable {σ : Type} [Transport σ] {x : Exchange}

omit [Transport σ] in
theorem stall_times (undone : x.writeState ≠ .done) (s : σ) (now : Instant) {before : List Action}
    (held : stalled before = true) (unsent : progressed before = false) :
    ((x.stall s now).after before).Times x.idle now where
  serves := fun serves => serves.armWrite now
  pending := fun _ => by
    have quiet : progressed (x.stall s now).actions = false := rfl
    refine ⟨undone, ?_⟩
    simp only [WriteStep.after, stalled_append, progressed_append, held, unsent, quiet,
      Bool.true_or, Bool.or_self, ↓reduceIte]
    exact congrArg IdleWatch.write (x.idle.armWrite_eq_heldBack now)
  unstalled := fun turn => absurd rfl turn
  crashed := nofun

theorem flushRequest_times (undone : x.writeState ≠ .done) (s : σ) (now : Instant) :
    (x.flushRequest s now).Times x.idle now := by
  simp only [flushRequest]
  split
  · rename_i flushed
    rw [flushed]
    exact .ofEnded rfl (by rintro ⟨⟩) (by rintro ⟨⟩) rfl
  · rename_i error flushed
    rw [flushed]
    exact .ofEnded rfl (by rintro ⟨⟩) (by rintro ⟨⟩) rfl
  · rename_i flushed
    rw [flushed]
    exact stall_times undone _ now rfl rfl

theorem flushAccepted_times (undone : x.writeState ≠ .done) (s : σ) (now : Instant) :
    (x.flushAccepted s now).Times x.idle now := by
  simp only [flushAccepted]
  split
  · rename_i flushed
    rw [flushed]
    exact ⟨fun serves => serves.removeWrite, fun _ => ⟨undone, rfl⟩, fun _ => rfl,
      fun _ crashed => by cases crashed⟩
  · rename_i error flushed
    rw [flushed]
    exact .ofEnded rfl (by rintro ⟨⟩) (by rintro ⟨⟩) rfl
  · rename_i flushed
    rw [flushed]
    exact stall_times undone _ now rfl rfl

/-- The write loop, wherever it stops. -/
theorem writeFrames_times (undone : x.writeState ≠ .done) (s : σ) (now : Instant) :
    (x.writeFrames s now).Times x.idle now := by
  have taking {room : Readiness} (ready : room = .done) (asked : List BodyAnswer)
      (frame : Outbound) {refusal : Option NetError} (taken : refusal = none) :
      stalled (.ready room :: asked.map .produced ++ [.write frame refusal] ++
          [.timer .writeProgress]) = false ∧
        progressed (.ready room :: asked.map .produced ++ [.write frame refusal] ++
          [.timer .writeProgress]) = true := by
    obtain ⟨moving, unsent⟩ := idle_asking ready asked
    subst taken
    rw [stalled_append, stalled_append, progressed_append, progressed_append, moving, unsent]
    exact ⟨rfl, rfl⟩
  -- a frame that was taken puts off the timer for the rounds behind it
  fun_induction writeFrames x s now with
  | case1 x s room error failed =>
      rw [failed]
      exact .ofEnded rfl (by rintro ⟨⟩) (by rintro ⟨⟩) rfl
  | case2 x s room full =>
      rw [full]
      exact stall_times undone room.2 now rfl rfl
  | case3 x s room ready =>
      have idle := idle_asking ready x.frames.poll.asked
      exact .ofEnded rfl (by rintro ⟨⟩) (by rintro ⟨⟩) idle.1
  | case4 x s room ready polled taken =>
      have idle := idle_asking ready x.frames.poll.asked
      exact (flushAccepted_times (x := taken) undone room.2 now).after idle
  | case5 x s room ready =>
      have idle := idle_asking ready x.frames.poll.asked
      have undone : ({ x with
          frames := x.frames.poll.source
          writeState := .flushing } : Exchange).writeState ≠ .done := by rintro ⟨⟩
      exact (flushRequest_times undone room.2 now).after idle
  | case6 x s room ready =>
      rename_i ih
      have idle := idle_asking ready x.frames.poll.asked
      exact (ih undone).after idle
  | case7 x s room ready =>
      have idle := idle_asking ready x.frames.poll.asked
      refine .ofEnded rfl (by rintro ⟨⟩) (by rintro ⟨⟩) ?_
      rw [stalled_append, idle.1]
      rfl
  | case8 x s room ready polled taken before frame yielded encoded framed outbound written sent
      before' accepted before'' lost =>
      refine ⟨id, by rintro ⟨⟩, fun _ => ?_, fun serves _ => serves.writeProgress_lost lost⟩
      exact (taking ready _ _ accepted).1
  | case9 x s room ready polled taken before frame yielded encoded framed outbound written sent
      before' accepted before'' idle touched ih =>
      obtain ⟨moving, progress⟩ :=
        taking ready x.frames.poll.asked outbound accepted
      exact (ih undone).afterProgress touched moving progress

theorem writeOn_times (undone : x.writeState ≠ .done) (lease : Lease σ) (now : Instant) :
    (x.writeOn lease now).Times x.idle now := by
  have continued (s : σ) : (x.continueWrite s now).Times x.idle now := by
    unfold continueWrite
    split
    · exact writeFrames_times undone s now
    · exact flushRequest_times undone s now
    · exact absurd ‹_› undone
  unfold writeOn
  split
  · exact ⟨id, nofun, fun _ => rfl, nofun⟩
  · rename_i connection held
    obtain ⟨serves, pending, unstalled, crashed⟩ := continued connection.transport
    exact ⟨serves, pending, unstalled, crashed⟩

omit [Transport σ] in
theorem requestWritten_timers (x : Exchange) (now : Instant) :
    (x.requestWritten now).1.idle.write = none ∧ stalled (x.requestWritten now).2 = false ∧
      ∀ {periods}, x.idle.Serves periods → (x.requestWritten now).1.idle.Serves periods := by
  unfold requestWritten
  dsimp only
  split
  · exact ⟨rfl, rfl, fun serves => serves.removeWrite⟩
  · exact ⟨rfl, rfl, fun serves => serves.removeWrite.installRead now⟩

/-- A request that is written needs no write timer. -/
def Unneeded (x : Exchange) : Prop := x.writeState = .done → x.idle.write = none

theorem pollWrite_leaves (unneeded : x.Unneeded) (lease : Lease σ) (now : Instant) :
    (x.pollWrite lease now).Leaves x.idle now := by
  unfold pollWrite
  split
  · rename_i done
    exact ⟨id, fun _ => ⟨nofun, unneeded done⟩, nofun⟩
  · rename_i undone
    obtain ⟨serves, pending, unstalled, crashed⟩ := writeOn_times undone lease now
    dsimp only
    split
    · rename_i written
      obtain ⟨timer, quiet, kept⟩ := (x.writeOn lease now).exchange.requestWritten_timers now
      have moving : stalled ((x.writeOn lease now).actions ++
          ((x.writeOn lease now).exchange.requestWritten now).2) = false := by
        rw [stalled_append, unstalled (by simp [written]), quiet]
        rfl
      refine ⟨fun before => kept (serves before), fun _ => ?_, nofun⟩
      dsimp only
      rw [moving]
      exact ⟨nofun, timer⟩
    · rename_i unwritten
      refine ⟨serves, fun turn => ?_, crashed⟩
      obtain ⟨undone, timer⟩ := pending (turn.resolve_right unwritten)
      exact ⟨fun _ => undone, timer⟩

end Exchange

/-- What reading does to the timers. -/
structure Step.Rests (x : Exchange) (h : Handler) (now : Instant) {ρ : Type} (step : Step ρ) :
    Prop where
  serves : ∀ {periods}, x.idle.Serves periods → step.exchange.idle.Serves periods
  write : step.exchange.idle.write = x.idle.write
  crashed : ∀ {periods}, x.idle.Serves periods → step.turn = .crashed →
    (∃ callback, (h callback).breaksOff = true) ∨ now.after? periods.read = none

/-- Only a handler that breaks off ends a delivery so. -/
theorem Handler.deliver_crashed {h : Handler} {events : List ResponseEvent} {c : Completion}
    (crashed : (h.deliver events c).turn = .crashed) :
    ∃ callback, (h callback).breaksOff = true := by
  fun_induction deliver h events c with
  | case1 | case2 => cases crashed
  | case3 event rest c callback made called broke =>
      exact ⟨callback, (h.call_brokeOff callback c).symm.trans broke⟩
  | case4 event rest c callback made called calm later ih => exact ih crashed

namespace Exchange

variable {σ : Type} [Transport σ]

omit [Transport σ] in
theorem noteProgress?_timers {x next : Exchange} {now : Instant}
    (noted : x.noteProgress? now = some next) :
    next.idle.write = x.idle.write ∧
      ∀ {periods}, x.idle.Serves periods → next.idle.Serves periods := by
  unfold noteProgress? at noted
  split at noted
  · cases noted
    exact ⟨rfl, id⟩
  · obtain ⟨idle, touched, rfl⟩ := Option.map_eq_some_iff.mp noted
    refine ⟨?_, fun serves => serves.readProgress touched⟩
    rw [IdleWatch.readProgress?_eq_some touched]

omit [Transport σ] in
theorem noteProgress?_lost {x : Exchange} {now : Instant} {periods : Timeouts}
    (serves : x.idle.Serves periods) (lost : x.noteProgress? now = none) :
    now.after? periods.read = none := by
  unfold noteProgress? at lost
  split at lost
  · cases lost
  · exact serves.readProgress_lost (Option.map_eq_none_iff.mp lost)

theorem readFrames_rests (x : Exchange) (s : σ) (h : Handler) (c : Completion) (now : Instant) :
    (x.readFrames s h c now).Rests x h now := by
  fun_induction readFrames x s h c now with
  | case1 => exact ⟨id, rfl, fun _ crashed => by cases crashed⟩
  | case2 x s c delivery delivered_completion delivered crashed =>
      exact ⟨id, rfl, fun _ _ => .inl (Handler.deliver_crashed crashed)⟩
  | case3 | case4 | case5 | case6 => exact ⟨id, rfl, fun _ crashed => by cases crashed⟩
  | case7 =>
      rename_i lost
      refine ⟨id, rfl, fun serves _ => .inr (noteProgress?_lost ?_ lost)⟩
      exact serves
  | case8 =>
      rename_i noted ih
      obtain ⟨write, serves⟩ := noteProgress?_timers noted
      exact ⟨fun before => ih.serves (serves before), ih.write.trans write,
        fun before => ih.crashed (serves before)⟩

theorem pollRead_rests (x : Exchange) (lease : Lease σ) (h : Handler) (c : Completion)
    (now : Instant) : (x.pollRead lease h c now).Rests x h now := by
  unfold pollRead
  split
  · unfold readOn
    split
    · refine ⟨id, rfl, fun _ turn => .inl ?_⟩
      dsimp only at turn
      split at turn
      · cases turn
      · exact Handler.deliver_crashed ‹_›
      · cases turn
    · rename_i connection held
      obtain ⟨serves, write, crashed⟩ := x.readFrames_rests connection.transport h c now
      exact ⟨serves, write, crashed⟩
  · exact ⟨id, rfl, fun _ crashed => by cases crashed⟩

end Exchange

/-- What a poll does to the timers of an exchange. -/
structure Step.Times (x : Exchange) (h : Handler) (now : Instant) {ρ : Type} (step : Step ρ) :
    Prop where
  serves : ∀ {periods}, x.idle.Serves periods → step.exchange.idle.Serves periods
  timer : step.turn = .pending → step.exchange.idle.write =
    if stalled step.actions then x.idle.heldBack (progressed step.actions) now else none
  undone : step.turn = .pending → stalled step.actions = true → step.exchange.writeState ≠ .done
  unfired : ∀ {periods}, x.idle.Serves periods → stalled step.actions = false →
    ∀ period, .timerCheck (some (.writeIdle period)) ∉ step.actions
  crashed : ∀ {periods}, x.idle.Serves periods → step.turn = .crashed →
    (∃ callback, (h callback).breaksOff = true) ∨
      now.after? periods.write = none ∨ now.after? periods.read = none

/-- An exchange that goes on needs no write timer once its request is written. -/
theorem Step.Times.unneeded {x : Exchange} {h : Handler} {now : Instant} {ρ : Type}
    {step : Step ρ} (times : step.Times x h now) (turn : step.turn = .pending) :
    step.exchange.Unneeded := by
  intro done
  rw [times.timer turn]
  split
  · rename_i held
    exact absurd done (times.undone turn held)
  · rfl

/-- A timer that is due is of the direction whose timer runs. -/
theorem IdleWatch.Serves.poll_writeIdle {w : IdleWatch} {periods : Timeouts}
    (serves : w.Serves periods) (unarmed : w.write = none) (now : Instant) (period : Duration) :
    (w.poll now).1 ≠ some (.writeIdle period) := by
  unfold IdleWatch.poll
  rw [unarmed]
  dsimp only [Option.filter_none]
  split
  · rename_i timer due
    have running : timer ∈ w.read := (Option.filter_eq_some_iff.mp due).1
    intro fired
    have failure := Option.some.inj fired
    unfold IdleTimer.failure at failure
    rw [(serves.read timer running).1] at failure
    cases failure
  · nofun

/-- Timers of which none is due are left as they are. -/
theorem IdleWatch.poll_of_undue {w : IdleWatch} {now : Instant} (undue : (w.poll now).1 = none) :
    (w.poll now).2 = w := by
  unfold IdleWatch.poll at undue ⊢
  split
  · rename_i due
    rw [due] at undue
    cases undue
  · rename_i write
    rw [write] at undue
    split
    · rename_i due
      rw [due] at undue
      cases undue
    · rfl

namespace Exchange

variable {σ : Type} [Transport σ] {x : Exchange} {h : Handler} {now : Instant}

/-- The parts of a poll behind the writing leave the write timer as it is. -/
structure Follows (x : Exchange) (h : Handler) (now : Instant) {ρ : Type} (step : Step ρ) :
    Prop where
  rests : step.turn = .pending → step.exchange.idle.write = x.idle.write
  writeState : step.exchange.writeState = x.writeState
  idle : Idle step.actions
  serves : ∀ {periods}, x.idle.Serves periods → step.exchange.idle.Serves periods
  unfired : ∀ {periods}, x.idle.Serves periods → x.idle.write = none →
    ∀ period, .timerCheck (some (.writeIdle period)) ∉ step.actions
  crashed : ∀ {periods}, x.idle.Serves periods → step.turn = .crashed →
    (∃ callback, (h callback).breaksOff = true) ∨ now.after? periods.read = none

theorem pollAfterWrite_follows (x : Exchange) (lease : Lease σ) (h : Handler) (c : Completion)
    (now : Instant) : x.Follows h now (x.pollAfterWrite lease h c now) := by
  have idle := (x.pollAfterWrite_reading lease h c now).idle_of_reading
  have writeState := (x.pollRead_frame lease h c now).writeState
  have unread (period : Duration) : .timerCheck (some (.writeIdle period)) ∉
      (x.pollRead lease h c now).actions := by
    intro member
    cases x.pollRead_receiving lease h c now _ member
  obtain ⟨serves, write, crashed⟩ := x.pollRead_rests lease h c now
  unfold pollAfterWrite at idle ⊢
  dsimp only at idle ⊢
  split
  · rename_i read
    rw [read] at idle
    refine ⟨fun turn => ?_, writeState, idle, fun before => (serves before).poll now, ?_,
      fun _ turn => ?_⟩
    · refine Eq.trans (congrArg IdleWatch.write (IdleWatch.poll_of_undue ?_)) write
      simp only [Step.after, pollTimers] at turn
      split at turn
      · assumption
      · cases turn
    · intro periods before unarmed period member
      have checked := (List.mem_append.mp member).resolve_left (unread period)
      have fired := Action.timerCheck.inj (List.mem_singleton.mp checked)
      exact (serves before).poll_writeIdle (write.trans unarmed) now period fired.symm
    · simp only [Step.after, pollTimers] at turn
      split at turn <;> cases turn
  · rename_i ended
    have reading := (x.pollRead_receiving lease h c now).reading_of_receiving
    exact ⟨fun turn => absurd turn ended, writeState, reading.idle_of_reading, serves,
      fun _ _ period => unread period, crashed⟩

omit [Transport σ] in
/-- A poll that got past the writing. -/
theorem Follows.times {write : WriteStep (Lease σ)} (leaves : write.Leaves x.idle now)
    (turn : write.turn = .pending ∨ write.turn = .written) {step : Step (Lease σ)}
    (follows : write.exchange.Follows h now step)
    (unwritten : ∀ period, .timerCheck (some (.writeIdle period)) ∉ write.actions) :
    ((step.after write.actions).after [.control none]).Times x h now := by
  obtain ⟨undone, timer⟩ := leaves.goesOn turn
  have held : stalled ([.control none] ++ (write.actions ++ step.actions)) =
      stalled write.actions := by
    rw [stalled_append, stalled_append, follows.idle.1, Bool.or_false]
    rfl
  have sent : progressed ([.control none] ++ (write.actions ++ step.actions)) =
      progressed write.actions := by
    rw [progressed_append, progressed_append, follows.idle.2, Bool.or_false]
    rfl
  refine ⟨fun before => follows.serves (leaves.serves before), fun turn => ?_, fun _ => ?_, ?_,
    fun before crashed => ?_⟩
  · simp only [Step.after, held, sent]
    exact (follows.rests turn).trans timer
  · simp only [Step.after, held, follows.writeState]
    exact undone
  · simp only [Step.after, held]
    intro periods before moving period member
    rw [moving] at timer
    have unfired := follows.unfired (leaves.serves before) timer period
    simp [unwritten period, unfired] at member
  · exact (follows.crashed (leaves.serves before) crashed).imp_right .inr

/-- What a poll does to the timers. -/
theorem poll_times (unneeded : x.Unneeded) (lease : Lease σ) (h : Handler) (c : Completion)
    (now : Instant) : (x.poll lease h c now).Times x h now := by
  have unwritten (period : Duration) : .timerCheck (some (.writeIdle period)) ∉
      (x.pollWrite lease now).actions := by
    intro member
    cases x.pollWrite_writing lease now _ member
  have leaves := pollWrite_leaves unneeded lease now
  unfold poll
  dsimp only
  split
  · exact ⟨id, by rintro ⟨⟩, by rintro ⟨⟩, fun _ _ period => by simp,
      fun _ crashed => by cases crashed⟩
  · unfold pollParts
    dsimp only
    have looked (actions : List Action) (period : Duration)
        (absent : .timerCheck (some (.writeIdle period)) ∉ actions) :
        .timerCheck (some (.writeIdle period)) ∉ [.control none] ++ actions := by
      simpa using absent
    split
    · exact ⟨leaves.serves, by rintro ⟨⟩, by rintro ⟨⟩,
        fun _ _ period => looked _ period (unwritten period), fun _ crashed => by cases crashed⟩
    · rename_i crashed
      exact ⟨leaves.serves, by rintro ⟨⟩, by rintro ⟨⟩,
        fun _ _ period => looked _ period (unwritten period),
        fun before _ => .inr (.inl (leaves.crashed before crashed))⟩
    all_goals
      rename_i turn
      exact (pollAfterWrite_follows _ _ h _ now).times leaves (by simp [turn]) unwritten

end Exchange

/-- An exchange begins with the timers of the configured periods, and without a write timer. -/
theorem Exchange.timers_of_begin {x : Exchange} {periods : Timeouts} {now : Instant}
    (idle : x.idle = .ofTimeouts periods ∨ x.idle = (IdleWatch.ofTimeouts periods).installRead now)
    (writeState : x.writeState = .writing) : x.idle.Serves periods ∧ x.Unneeded := by
  have fresh := IdleWatch.ofTimeouts_serves periods
  refine ⟨?_, fun done => ?_⟩
  · rcases idle with same | resumed
    · rw [same]
      exact fresh
    · rw [resumed]
      exact fresh.installRead now
  · rw [writeState] at done
    cases done

variable {σ : Type}

namespace Stage

/-- An exchange has the timers of the configured periods. -/
def Timed (periods : Timeouts) : Stage σ → Prop
  | exchanging x _ => x.idle.Serves periods ∧ x.Unneeded
  | _ => True

variable {stage : Stage σ} {periods : Timeouts}

theorem timed_of_remains {body : Option MeteredBody} (remains : stage.remains = some body) :
    stage.Timed periods := by
  cases stage with
  | closing _ _ _ | gone _ _ => trivial
  | _ => cases remains

theorem Timed.alike {other : Stage σ} (h : stage.Timed periods) (alike : stage.Alike other) :
    other.Timed periods := by
  cases alike <;> exact h

end Stage

namespace Execution

variable [Transport σ] {periods : Timeouts}

theorem pollExchange_timed (e : Execution σ) {x : Exchange} (serves : x.idle.Serves periods)
    (unneeded : x.Unneeded) (lease : Lease σ) (now : Instant) :
    (e.pollExchange x lease now).1.stage.Timed periods := by
  have times := Exchange.poll_times unneeded lease e.handler e.completion now
  have driven := e.pollExchange_drives x lease now
  generalize e.pollExchange x lease now = run at driven ⊢
  cases driven with
  | goesOn turn => exact ⟨times.serves serves, times.unneeded turn⟩
  | ends outcome turn => exact Stage.timed_of_remains (endExchange_ends _ _ _ outcome).remains
  | breaksOff turn => trivial

theorem respond_timed {e : Execution σ} (configured : e.timeouts = periods)
    (h : e.stage.Timed periods) (stimulus : Stimulus σ) :
    (e.respond stimulus).1.stage.Timed periods := by
  cases stimulus with
  | poll now =>
      have polled := e.poll_polls now
      rw [respond]
      generalize e.poll now = next at polled ⊢
      cases polled with
      | waits isWaiting unanswered => trivial
      | refused isWaiting error refused message =>
          exact Stage.timed_of_remains (finish_ends _ _ none).remains
      | unframed isWaiting connection granted cause unknown =>
          exact Stage.timed_of_remains (pollClose_ends _ _ _ none).remains
      | begins isWaiting connection granted p framed x pipeline writeState frames events idle
          opening only =>
          rw [configured] at idle
          obtain ⟨serves, unneeded⟩ := Exchange.timers_of_begin idle writeState
          exact e.leased.pollExchange_timed serves unneeded _ now
      | drives x lease stage =>
          rw [stage] at h
          exact e.pollExchange_timed h.1 h.2 lease now
      | closes connection ending body stage =>
          exact Stage.timed_of_remains (pollClose_ends _ _ _ body).remains
      | departed gone => exact h
  | drop =>
      cases present : e.stage.isGone with
      | true =>
          rw [respond, e.drop_of_gone present]
          exact h
      | false => exact Stage.timed_of_remains (e.drop_ends present).remains
  | answer given =>
      rw [respond, answer_stage]
      exact h
  | cancel => exact h
  | transport id change => exact h.alike (e.stage.alike_mapConnection _)
  | feed items close => exact h.alike (e.stage.alike_mapBody (·.feed items close))

/-- At every moment of its life an exchange has the timers that were configured. -/
theorem life_timed (id : ExecutionId) (request : Request) (timeouts : Timeouts)
    (handler : Handler) (acquisition : Acquisition σ) (history : List (Stimulus σ)) :
    (life id request timeouts handler acquisition history).1.stage.Timed timeouts := by
  refine life_invariant id request timeouts handler acquisition
    (fun _ run => run.1.stage.Timed timeouts) trivial (fun past stimulus h => ?_) history
  have custody := life_custody id request timeouts handler acquisition past
  have configured : (life id request timeouts handler acquisition past).1.timeouts = timeouts :=
    congrArg (·.2.1) custody.setting
  exact respond_timed configured h stimulus

end Execution

end HttpExchange
