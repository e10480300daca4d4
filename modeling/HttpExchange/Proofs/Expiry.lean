import HttpExchange.Proofs.Polling

/-!
What becomes of an idle timer that fires. It ends the exchange, but before anybody hears of this
the connection is asked to close, and the timers bound this wait no more. The handler and the
future hear of a fired timer in the poll in which the transport first answers the close, and not
before.
-/

namespace HttpExchange

open Trace

variable {σ : Type} [Transport σ]

namespace Exchange

/-- The timers are looked at behind everything else, and one that is due ends the exchange. -/
theorem pollAfterWrite_fired (x : Exchange) (lease : Lease σ) (h : Handler) (c : Completion)
    (now : Instant) {cause : Failure}
    (fired : .timerCheck (some cause) ∈ (x.pollAfterWrite lease h c now).actions) :
    (x.pollAfterWrite lease h c now).turn = .ended (outcomeOfTimer cause) := by
  have receiving := x.pollRead_receiving lease h c now
  have unread : .timerCheck (some cause) ∉ (x.pollRead lease h c now).actions := by
    intro member
    cases receiving _ member
  unfold pollAfterWrite at fired ⊢
  dsimp only at fired ⊢
  split
  · rename_i turn
    rw [turn] at fired
    have checked := (List.mem_append.mp fired).resolve_left unread
    have due := Action.timerCheck.inj (List.mem_singleton.mp checked)
    simp only [Step.after, pollTimers, ← due]
  · rename_i turn
    split at fired
    · contradiction
    · exact absurd fired unread

theorem poll_fired (x : Exchange) (lease : Lease σ) (h : Handler) (c : Completion)
    (now : Instant) {cause : Failure}
    (fired : .timerCheck (some cause) ∈ (x.poll lease h c now).actions) :
    (x.poll lease h c now).turn = .ended (outcomeOfTimer cause) := by
  have writing := x.pollWrite_writing lease now
  have unwritten : .timerCheck (some cause) ∉ (x.pollWrite lease now).actions := by
    intro member
    cases writing _ member
  unfold poll at fired ⊢
  dsimp only at fired ⊢
  split
  · rename_i abort taken
    rw [taken] at fired
    simp at fired
  · rename_i taken
    rw [taken] at fired
    have driven := (List.mem_append.mp fired).resolve_left (by simp)
    unfold pollParts at driven ⊢
    dsimp only [Step.after] at driven ⊢
    split
    · rename_i failed
      rw [failed] at driven
      exact absurd driven unwritten
    · rename_i crashed
      rw [crashed] at driven
      exact absurd driven unwritten
    all_goals
      rename_i turn
      rw [turn] at driven
      have checked := (List.mem_append.mp driven).resolve_left unwritten
      exact pollAfterWrite_fired _ _ h _ now checked

end Exchange

/-- A plain request on the sticky connection, with a read timer of ten milliseconds. -/
def Bench.impatientLife (history : List (Stimulus Bench.Wire)) : Execution.Run Bench.Wire :=
  Execution.life 1 Bench.plainRequest ⟨.ofSeconds 30, .ofMilliseconds 10⟩ .quiet
    (.granted Bench.stickyConnection) history

namespace Execution

/-- What follows the end of an exchange asks nothing of the timers. -/
theorem endExchange_unwinding (e : Execution σ) (x : Exchange) {lease : Lease σ}
    {held : Connection σ} (leased : lease.connection = some held) (outcome : Outcome) :
    Only Action.isUnwinding (e.endExchange x lease outcome).2 := by
  by_cases fit : outcome = .complete ∧ x.writeState = .done
  · obtain ⟨rfl, written⟩ := fit
    have concluded := finish_concludes (e.release held).1 .success (some x.frames.body)
    rw [e.endExchange_of_fit leased written]
    exact (only_append _ _).mpr ⟨by simp [Action.isUnwinding], concluded.unwinding⟩
  · rw [e.endExchange_of_unfit x leased fit]
    exact (Unwinding.ofPollClose e held _ _).only

/-- A timer that fires while an exchange is polled leads to the close of its connection. -/
theorem pollExchange_fired (e : Execution σ) (x : Exchange) {lease : Lease σ}
    {connection : Connection σ} (leased : lease.connection = some connection) (now : Instant)
    {cause : Failure} (fired : .timerCheck (some cause) ∈ (e.pollExchange x lease now).2) :
    ∃ (next : Execution σ) (held : Connection σ) (message : String) (body : Option MeteredBody)
      (driven : List Action), Only Action.isMidway driven ∧ e.pollExchange x lease now =
        (next.pollClose held (.failure message cause) body).after driven := by
  have driving := x.poll_driving lease e.handler e.completion now
  obtain ⟨held, still_leased, _⟩ := x.poll_leased leased e.handler e.completion now
  have ends : .timerCheck (some cause) ∈ (x.poll lease e.handler e.completion now).actions →
      (x.poll lease e.handler e.completion now).turn = .ended (Exchange.outcomeOfTimer cause) :=
    x.poll_fired lease e.handler e.completion now
  have driven := e.pollExchange_drives x lease now
  generalize x.poll lease e.handler e.completion now = step at *
  generalize e.pollExchange x lease now = run at *
  cases driven with
  | goesOn turn =>
      rw [ends fired] at turn
      cases turn
  | breaksOff turn =>
      have dropped : .timerCheck (some cause) ∉ step.actions := by
        intro member
        rw [ends member] at turn
        cases turn
      have unwinding := dropLease_unwinding { e with completion := step.completion }
        step.resource .crashed (some step.exchange.frames.body)
      rw [Run.after_snd, List.append_assoc] at fired
      have later := (List.mem_append.mp fired).resolve_left dropped
      cases unwinding _ later
  | ends outcome turn =>
      have unwinding := endExchange_unwinding { e with completion := step.completion }
        step.exchange still_leased outcome
      have in_poll : .timerCheck (some cause) ∈ step.actions := by
        refine (List.mem_append.mp fired).resolve_right fun member => ?_
        cases unwinding _ member
      have of_timer : outcome = Exchange.outcomeOfTimer cause := by
        rw [ends in_poll] at turn
        exact (Turn.ended.inj turn).symm
      have unfit : ¬(outcome = .complete ∧ step.exchange.writeState = .done) := by
        rw [of_timer]
        cases cause <;> simp [Exchange.outcomeOfTimer]
      rw [endExchange_of_unfit _ _ still_leased unfit, of_timer]
      cases cause <;> exact ⟨_, held, _, _, step.actions, driving.midway_of_driving, rfl⟩

/-- A timer that fires in a poll leads to the close of the connection. -/
theorem poll_fired {granting : Acquisition σ} {history : List (Stimulus σ)} (e : Execution σ)
    (employs : e.stage.Employs granting history) (now : Instant) {cause : Failure}
    (fired : .timerCheck (some cause) ∈ (e.poll now).2) :
    ∃ (next : Execution σ) (held : Connection σ) (message : String) (body : Option MeteredBody)
      (driven : List Action), Only Action.isMidway driven ∧
        e.poll now = (next.pollClose held (.failure message cause) body).after driven := by
  have unfired {run : Run σ} (only : Only Action.isUnwinding run.2) :
      .timerCheck (some cause) ∉ run.2 := by
    intro member
    cases only _ member
  have polled := e.poll_polls now
  generalize e.poll now = run at polled fired ⊢
  cases polled with
  | waits isWaiting unanswered => cases fired
  | refused isWaiting error refused message =>
      have concluded := finish_concludes ({ e with acquisition := .taken } : Execution σ)
        (.failure message (.lease error)) none
      exact absurd fired (unfired ((only_cons _ _).mpr ⟨rfl, concluded.unwinding⟩))
  | unframed isWaiting connection granted cause unknown =>
      refine absurd fired (unfired ((only_cons _ _).mpr ⟨rfl, ?_⟩))
      exact (Unwinding.ofPollClose _ _ _ none).only
  | begins isWaiting connection granted p framed x pipeline writeState frames events idle
      opening only =>
      have opened : Only Action.isMidway (.leased connection.id :: opening) :=
        (only_cons _ _).mpr ⟨rfl, only.midway_of_opening⟩
      have in_poll : .timerCheck (some cause) ∈
          (e.leased.pollExchange x ⟨some (Pipeline.configure connection).2⟩ now).2 := by
        refine (List.mem_append.mp fired).resolve_left fun member => ?_
        rcases List.mem_cons.mp member with same | member
        · cases same
        · cases only _ member
      obtain ⟨next, held, message, body, driven, midway, closing⟩ :=
        e.leased.pollExchange_fired x rfl now in_poll
      refine ⟨next, held, message, body, .leased connection.id :: opening ++ driven,
        (only_append _ _).mpr ⟨opened, midway⟩, ?_⟩
      rw [closing, Run.after_after]
  | drives x lease stage =>
      rw [stage] at employs
      obtain ⟨connection, given, leased, _, _⟩ := employs
      exact e.pollExchange_fired x leased now fired
  | closes connection ending body stage =>
      exact absurd fired (unfired (Unwinding.ofPollClose e connection ending body).only)
  | departed gone => cases fired

section Life

variable (id : ExecutionId) (request : Request) (timeouts : Timeouts) (handler : Handler)
  (acquisition : Acquisition σ)

/-- From the poll on in which an idle timer fires the connection winds up with the failure of the
timer. Before, the handler had not heard of an end. -/
theorem life_fired {past : List (Stimulus σ)} {now : Instant} {cause : Failure}
    (fired : .timerCheck (some cause) ∈
      ((life id request timeouts handler acquisition past).1.poll now).2)
    (later : List (Stimulus σ)) :
    let before := life id request timeouts handler acquisition past
    verdicts before.2 = [] ∧ (∃ close, closes (before.1.poll now).2 = [close]) ∧
      ∃ connection message, ∃ unwinding : Run σ, ∃ driven : List Action,
        before.1.play (.poll now :: later) = unwinding.after driven ∧
          Only Action.isMidway driven ∧
          Unwinding connection (.failure message cause) unwinding := by
  have employs := life_employs id request timeouts handler acquisition past
  have reckoned := life_reckoning id request timeouts handler acquisition past
  generalize life id request timeouts handler acquisition past = run at *
  intro before
  have present : run.1.stage.isGone = false := by
    by_contra departed
    rw [poll_of_gone (by simpa using departed)] at fired
    cases fired
  obtain ⟨next, held, message, body, driven, midway, closing⟩ := run.1.poll_fired employs now fired
  have unwinding := (Unwinding.ofPollClose next held (.failure message cause) body).play later
  refine ⟨reckoned.silent present, ⟨(held.id, held.close.1), ?_⟩, held.id, message, _, driven, ?_,
    midway, unwinding⟩
  · change closes (run.1.poll now).2 = _
    rw [closing, Run.after_snd, closes_append, midway.closes_eq_nil]
    exact next.pollClose_closes held _ body
  · change ((run.1.poll now).1.play later).after (run.1.poll now).2 = _
    rw [closing, Run.after_after]
    rfl

/-- In the poll in which an idle timer fires the connection is asked to close, once. The handler
is told of the timer, and the future yields a result, exactly if the transport answers this
request or a later one. As long as it answers none, the handler hears nothing, and the future of
a task that is still there yields nothing but a cancellation. -/
theorem fired_timer_told_iff_close_answered (past later : List (Stimulus σ)) (now : Instant)
    {cause : Failure} (fired : .timerCheck (some cause) ∈
      ((life id request timeouts handler acquisition past).1.poll now).2) :
    let before := life id request timeouts handler acquisition past
    let since := before.1.play (.poll now :: later)
    let run := life id request timeouts handler acquisition (past ++ .poll now :: later)
    (∃ close, closes (before.1.poll now).2 = [close]) ∧
    ((∃ close ∈ closes since.2, close.2 ≠ .pending) →
      verdicts run.2 = [.failed cause.classify] ∧ run.1.completion.await.isSome = true) ∧
    ((∀ close ∈ closes since.2, close.2 = .pending) →
      verdicts run.2 = [] ∧ (run.1.stage.isGone = false →
        (run.1.completion.await.isSome = true ↔ Cancelled run.2))) := by
  intro before since run
  have run_eq : run = since.after before.2 :=
    life_append id request timeouts handler acquisition past (.poll now :: later)
  have run_reckoned : Reckoning id run :=
    life_reckoning id request timeouts handler acquisition (past ++ .poll now :: later)
  obtain ⟨silent, asked_once, connection, message, unwinding, driven, since_eq, midway, unwound⟩ :=
    life_fired id request timeouts handler acquisition fired later
  change since = _ at since_eq
  have closes_eq : closes since.2 = closes unwinding.2 := by
    rw [since_eq, Run.after_snd, closes_append, midway.closes_eq_nil, List.nil_append]
  have verdicts_eq : verdicts run.2 = verdicts unwinding.2 := by
    rw [run_eq, Run.after_snd, verdicts_append, silent, since_eq, Run.after_snd,
      verdicts_append, midway.verdicts_eq_nil]
    rfl
  refine ⟨asked_once, ?_, ?_⟩
  · rintro ⟨close, asked, answered⟩
    rw [closes_eq] at asked
    obtain ⟨told, settled⟩ := unwound.of_answered asked answered
    refine ⟨verdicts_eq.trans told, ?_⟩
    rw [run_eq, since_eq]
    exact Completion.await_isSome settled
  · intro unanswered
    rw [closes_eq] at unanswered
    refine ⟨verdicts_eq.trans (unwound.of_unanswered unanswered), fun still_there => ?_⟩
    exact (run_reckoned.candid still_there).await_isSome_iff

end Life

/-- The timer fires after ten milliseconds, and surfaces in the poll after the close. -/
theorem fired_timer_told_iff_close_answered_late :
    let closed : Stimulus Bench.Wire := .transport ⟨7⟩ fun wire => { wire with holdsClose := false }
    verdicts (Bench.impatientLife [.poll ⟨0⟩, .poll ⟨10000000⟩, closed, .poll ⟨10000000⟩]).2 =
      [.failed (Failure.readIdle (.ofMilliseconds 10)).classify] := by
  intro closed
  have fired : .timerCheck (some (.readIdle (.ofMilliseconds 10))) ∈
      ((Bench.impatientLife [.poll ⟨0⟩]).1.poll ⟨10000000⟩).2 := by decide +kernel
  have answered : ∃ close ∈ closes ((Bench.impatientLife [.poll ⟨0⟩]).1.play
      (.poll ⟨10000000⟩ :: [closed, .poll ⟨10000000⟩])).2, close.2 ≠ .pending := by
    decide +kernel
  exact ((fired_timer_told_iff_close_answered 1 Bench.plainRequest
    ⟨.ofSeconds 30, .ofMilliseconds 10⟩ .quiet (.granted Bench.stickyConnection) [.poll ⟨0⟩]
    [closed, .poll ⟨10000000⟩] ⟨10000000⟩ fired).2.1 answered).1

/-- The timer fires and the task goes on waiting: nobody is told. -/
theorem fired_timer_untold :
    .timerCheck (some (.readIdle (.ofMilliseconds 10))) ∈
        ((Bench.impatientLife [.poll ⟨0⟩]).1.poll ⟨10000000⟩).2 ∧
      verdicts (Bench.impatientLife [.poll ⟨0⟩, .poll ⟨10000000⟩]).2 = [] ∧
      (Bench.impatientLife [.poll ⟨0⟩, .poll ⟨10000000⟩]).1.completion.await = none := by
  refine ⟨?_, ?_, ?_⟩ <;> decide +kernel

end Execution

end HttpExchange
