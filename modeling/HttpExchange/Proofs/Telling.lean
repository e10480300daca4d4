import HttpExchange.Proofs.Reporting

/-!
What the handler is told over a whole life, and when. It hears of the events of the received
frames, each once and in order, up to the end of the response, and then of the end of the
execution, once and last: that the response is complete if its end was received, and otherwise of
the failure that was met, which is also the one error that is logged. By then the connection is
back in the pool, and the future has not been settled by the task.

A handler that does not break off is told no less, unless recording progress does, at a time from
which the clock cannot show a whole period.
-/

namespace HttpExchange

open Trace

variable {σ : Type}

namespace Execution

/-- The end of an execution as its handler is told of it. By then the connection, if one was
leased, is back in the pool, the failure was logged as the one error, and the future was not
settled by the task; it is settled behind. -/
structure Told (framing : Except Failure Pipeline) (verdict : Callback) (trace : List Action) :
    Prop where
  complete : verdict = .complete ↔ .finish ∈ Pipeline.eventsOn framing (received trace)
  failed : verdict ≠ .complete →
    ∃ cause, failures framing trace = [cause] ∧ verdict = .failed cause.classify
  placed : ∃ before after, trace = before ++ .callback verdict :: after ∧
    (releases before).map Prod.fst = leases trace ∧
    settlements before = [] ∧ settlements after ≠ [] ∧
    (errors before).length = (if verdict = .complete then 0 else 1) ∧ errors after = []

/-- What a handler is told over a life: the events that were received, up to the end of the
response, and then the end of the execution, once the task has run to it. Without an end to tell
no error is logged. -/
structure Tells (framing : Except Failure Pipeline) (run : Run σ) : Prop where
  events : callbacks run.2 =
    Callback.ofEvents (Pipeline.eventsOn framing (received run.2)) ++ verdicts run.2
  once : (verdicts run.2).length ≤ 1
  last : ∀ verdict ∈ verdicts run.2, Told framing verdict run.2
  unlogged : verdicts run.2 = [] → errors run.2 = []
  ended : run.1.stage.ranToEnd = true → verdicts run.2 ≠ []

theorem Tells.ofFaithful {framing : Except Failure Pipeline} {run : Run σ}
    (faithful : Faithful framing run.2) (unended : run.1.stage.ranToEnd = false) :
    Tells framing run := by
  have unsaid := faithful.unsaid
  refine ⟨?_, by simp [unsaid], ?_, fun _ => faithful.errors, ?_⟩
  · rw [faithful.callbacks, unsaid, List.append_nil]
  · simp [unsaid]
  · rw [unended]
    nofun

/-- What is seen of a trace in which the end is told. -/
theorem views_of_told (framing : Except Failure Pipeline) {trace before after : List Action}
    {ending : Ending} (whole : trace = before ++ ending.lines ++ .callback ending.verdict :: after)
    (aftermath : Only Action.isAftermath after) :
    callbacks trace = callbacks before ++ [ending.verdict] ∧ received trace = received before ∧
      failures framing trace = failures framing before ∧ releases trace = releases before := by
  obtain ⟨uncalled, unreceived, -⟩ := aftermath.unheard_of_aftermath.unheard
  obtain ⟨unfailing, unreleased⟩ := aftermath.aftermath framing
  have split_eq : trace = before ++ (ending.lines ++ [.callback ending.verdict]) ++ after := by
    simp [whole]
  rw [split_eq]
  refine ⟨?_, ?_, ?_, ?_⟩
  · rw [callbacks_append, callbacks_append, uncalled, List.append_nil]
    cases ending <;> rfl
  · rw [received_append, received_append, unreceived, List.append_nil]
    cases ending <;> exact List.append_nil _
  · rw [failures_append, failures_append, unfailing, List.append_nil]
    cases ending <;> exact List.append_nil _
  · rw [releases_append, releases_append, unreleased, List.append_nil]
    cases ending <;> exact List.append_nil _

theorem Tells.ofTold {framing : Except Failure Pipeline} {run : Run σ} {before after : List Action}
    {ending : Ending} (whole : run.2 = before ++ ending.lines ++ .callback ending.verdict :: after)
    (faithful : Faithful framing before) (fits : ending.Fits framing before)
    (unsettled : settlements before = []) (aftermath : Only Action.isAftermath after)
    (settled : settlements after ≠ [])
    (handedBack : (releases run.2).map Prod.fst = leases run.2) : Tells framing run := by
  obtain ⟨called, got, met, released⟩ := views_of_told framing whole aftermath
  have said : verdicts run.2 = [ending.verdict] := by
    rw [verdicts_eq_filter, called, List.filter_append, ← verdicts_eq_filter, faithful.unsaid]
    cases ending <;> rfl
  have told : Told framing ending.verdict run.2 := by
    refine ⟨?_, ?_, before ++ ending.lines, after, whole, ?_, ?_, settled, ?_, ?_⟩
    · rw [got]
      cases ending with
      | success => exact iff_of_true rfl fits
      | failure message cause => exact iff_of_false nofun fits.1
    · rw [met]
      cases ending with
      | success => exact fun incomplete => absurd rfl incomplete
      | failure message cause => exact fun _ => ⟨cause, fits.2, rfl⟩
    · have unreleased : releases ending.lines = [] := by cases ending <;> rfl
      rw [← handedBack, released, releases_append, unreleased, List.append_nil]
    · rw [settlements_append, unsettled]
      cases ending <;> rfl
    · rw [errors_append, faithful.errors]
      cases ending <;> rfl
    · exact aftermath.unheard_of_aftermath.unheard.2.2
  refine ⟨?_, by simp [said], fun verdict member => ?_, by simp [said], by simp [said]⟩
  · rw [called, got, faithful.callbacks, said]
  · rw [said, List.mem_singleton] at member
    rw [member]
    exact told

/-- What is told is what was received, unless the task crashed. -/
theorem Telling.tells {framing : Except Failure Pipeline} {late : Prop} {run : Run σ}
    (h : Telling framing late run.1.stage run.2) (intact : run.1.stage.isCrashed = false)
    (handedBack : run.1.stage.ranToEnd = true → (releases run.2).map Prod.fst = leases run.2) :
    Tells framing run := by
  generalize now : run.1.stage = stage at h
  have unended {ended : Bool} (at_stage : stage.ranToEnd = ended) :
      run.1.stage.ranToEnd = ended := (congrArg Stage.ranToEnd now).trans at_stage
  generalize actions : run.2 = trace at h
  cases h with
  | waiting isWaiting silent =>
      have faithful := Faithful.ofUnheard framing silent.unheard_of_silent
      rw [← actions] at faithful
      refine .ofFaithful faithful (unended ?_)
      cases stage <;> first | rfl | cases isWaiting
  | exchanging p framed same empty faithful unfinished unfailed unsettled =>
      exact .ofFaithful (actions ▸ faithful) (unended rfl)
  | closing faithful fits unsettled => exact .ofFaithful (actions ▸ faithful) (unended rfl)
  | told before after ending whole faithful fits unsettled aftermath settled =>
      exact .ofTold (actions.trans whole) faithful fits unsettled aftermath settled
        (handedBack (unended rfl))
  | left faithful => exact .ofFaithful (actions ▸ faithful) (unended rfl)
  | crashed overdue unsaid =>
      rw [now] at intact
      cases intact

section Life

variable [Transport σ] (id : ExecutionId) (request : Request) (timeouts : Timeouts)
  (handler : Handler) (acquisition : Acquisition σ)

theorem life_telling (calm : handler.IsCalm) (history : List (Stimulus σ)) :
    Telling (acquisition.framingBy history) (Overdue timeouts history)
      (life id request timeouts handler acquisition history).1.stage
      (life id request timeouts handler acquisition history).2 := by
  -- the framing is fixed from the start on, though it is not known before the pool answers
  have framed_life (framing : Except Failure Pipeline) (history : List (Stimulus σ)) :
      (∀ connection, acquisition.answerBy history = some (.ok connection) →
        (Pipeline.configure connection).1 = framing) →
      Telling framing (Overdue timeouts history)
        (life id request timeouts handler acquisition history).1.stage
        (life id request timeouts handler acquisition history).2 := by
    refine life_invariant id request timeouts handler acquisition (fun past run =>
      (∀ connection, acquisition.answerBy past = some (.ok connection) →
        (Pipeline.configure connection).1 = framing) →
      Telling framing (Overdue timeouts past) run.1.stage run.2) ?_ ?_ history
    · exact fun _ => .waiting rfl (by simp [start, Action.isSilent])
    · intro past stimulus before framed
      have framed_before (connection : Connection σ)
          (granted : acquisition.answerBy past = some (.ok connection)) :
          (Pipeline.configure connection).1 = framing :=
        framed connection (Acquisition.answerBy_concat granted stimulus)
      have custody := life_custody id request timeouts handler acquisition past
      have still_calm : (life id request timeouts handler acquisition past).1.handler.IsCalm := by
        have same : (life id request timeouts handler acquisition past).1.handler = handler :=
          congrArg (·.2.2) custody.setting
        rwa [same]
      exact respond_telling custody.reflects (congrArg (·.2.1) custody.setting) still_calm
        (life_employs id request timeouts handler acquisition past)
        (life_timed id request timeouts handler acquisition past) framed_before
        (before framed_before) stimulus
  refine framed_life _ history fun connection granted => ?_
  rw [Acquisition.framingBy, granted]

/-- A calm handler is told of every event that was received, and of the end of the execution once
the task has run to it, exactly as long as the task does not crash. It crashes only in a poll at a
time from which the clock cannot show a whole period of its timers. -/
theorem told_iff_not_crashed (calm : ∀ callback, (handler callback).breaksOff = false)
    (history : List (Stimulus σ)) :
    let run := life id request timeouts handler acquisition history
    (Tells (acquisition.framingBy history) run ↔ run.1.stage.isCrashed = false) ∧
      (run.1.stage.isCrashed = true → ∃ now, .poll now ∈ history ∧
        (now.after? timeouts.write = none ∨ now.after? timeouts.read = none)) := by
  intro run
  have telling : Telling (acquisition.framingBy history) (Overdue timeouts history) run.1.stage
      run.2 := life_telling id request timeouts handler acquisition calm history
  have custody := life_custody id request timeouts handler acquisition history
  have of_crashed (crashed : run.1.stage.isCrashed = true) :
      Overdue timeouts history ∧ run.1.stage.ranToEnd = true ∧ verdicts run.2 = [] := by
    generalize run.1.stage = stage at telling crashed
    cases telling with
    | waiting isWaiting silent =>
        cases stage <;> first | cases crashed | cases isWaiting
    | crashed overdue unsaid => exact ⟨overdue, rfl, unsaid⟩
    | _ => cases crashed
  refine ⟨⟨fun tells => ?_, fun intact => telling.tells intact fun ended => ?_⟩, fun crashed => ?_⟩
  · by_contra crashed
    obtain ⟨-, ended, unsaid⟩ := of_crashed (by simpa using crashed)
    exact tells.ended ended unsaid
  · obtain ⟨lent, handed⟩ := custody.of_ranToEnd ended
    exact handed.trans lent.symm
  · exact (of_crashed crashed).1

end Life

end Execution

namespace Bench

/-- A single-stream connection on which a whole response is waiting. -/
def answeringConnection : Connection Wire :=
  .ofTransport ⟨7⟩ Protocol.http11.text { Wire.idle with
    inbound := [.frame (.single (.head ⟨200, .http11, .empty⟩)), .frame (.single .finish)] }

/-- A plain request on it, with a handler that only listens. -/
def answeringLife (timeouts : Timeouts) (history : List (Stimulus Wire)) : Execution.Run Wire :=
  Execution.life 1 plainRequest timeouts .quiet (.granted answeringConnection) history

/-- With the usual timers the handler is told of the whole response. -/
theorem told_iff_not_crashed_answered :
    let run := answeringLife .standard [.poll .start]
    Execution.Tells (.ok .single) run ∧
      callbacks run.2 = [.headers ⟨200, .http11, .empty⟩, .complete] := by
  intro run
  refine ⟨?_, by decide +kernel⟩
  exact (Execution.told_iff_not_crashed 1 plainRequest .standard .quiet
    (.granted answeringConnection) (fun _ => rfl) [.poll .start]).1.mpr (by decide +kernel)

/-- With a read timer that is longer than the clock can show the task crashes on the head of the
response, and nobody is told of it or of any end. -/
theorem overdue_response_untold :
    let run := answeringLife ⟨.ofSeconds 30, .ofSeconds 18446744073709551615⟩ [.poll .start]
    received run.2 = [.single (.head ⟨200, .http11, .empty⟩)] ∧ callbacks run.2 = [] ∧
      run.1.stage.ranToEnd = true ∧ ¬Execution.Tells (.ok .single) run := by
  intro run
  have ended : run.1.stage.ranToEnd = true := by decide +kernel
  have uncalled : callbacks run.2 = [] := by decide +kernel
  refine ⟨by decide +kernel, uncalled, ended, fun tells => tells.ended ended ?_⟩
  rw [verdicts_eq_filter, uncalled]
  rfl

end Bench

end HttpExchange
