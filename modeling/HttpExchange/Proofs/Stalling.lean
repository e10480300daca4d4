import HttpExchange.Proofs.Sparing
import HttpExchange.Proofs.Streaks

/-!
What the write timer measures. It runs as long as poll after poll is held back by the connection,
and is due one period after the last frame that was taken behind the first of these polls, or
after this first poll itself. A body with nothing to send never starts it, so an execution whose
connection never holds it back never ends because of it.
-/

namespace HttpExchange

open Trace

variable {σ : Type}

namespace Execution

variable [Transport σ] (id : ExecutionId) (request : Request) (timeouts : Timeouts)
  (handler : Handler) (acquisition : Acquisition σ)

/-- The write timer measures how long the connection holds a request back. After a poll of an
exchange that goes on it runs exactly if one is configured, the request is not written, and the
poll was held back; it is due as the polls of the last streak say. An execution that is never held
back does not end because of it. -/
theorem write_timer_measures_stalls :
    (∀ past now x lease,
      (life id request timeouts handler acquisition (past ++ [.poll now])).1.stage =
        .exchanging x lease →
      (x.idle.write.isSome = true ↔ timeouts.write.isZero = false ∧ x.writeState ≠ .done ∧
        stalled ((life id request timeouts handler acquisition past).1.poll now).2 = true) ∧
      ∀ timer ∈ x.idle.write, some timer.deadline = dueAfter timeouts.write (streak
        (lifePolls id request timeouts handler acquisition (past ++ [.poll now])))) ∧
    ∀ history, stalled (life id request timeouts handler acquisition history).2 = false →
      (∀ fault,
        .failed fault ∈ verdicts (life id request timeouts handler acquisition history).2 →
        fault.category ≠ .writeTimeout) ∧
      ∀ fault, (life id request timeouts handler acquisition history).1.completion.await =
        some (.failure fault) → fault.category ≠ .writeTimeout := by
  refine ⟨fun past now x lease stage => ?_, fun history moving => ?_⟩
  · have due := life_stalls id request timeouts handler acquisition (past ++ [.poll now])
    have timed := life_timed id request timeouts handler acquisition (past ++ [.poll now])
    have polled : lifePolls id request timeouts handler acquisition (past ++ [.poll now]) =
        lifePolls id request timeouts handler acquisition past ++
          [(now, ((life id request timeouts handler acquisition past).1.poll now).2)] :=
      lifePolls_concat id request timeouts handler acquisition past (.poll now)
    rw [stage] at due timed
    obtain ⟨serves, unneeded⟩ := timed
    change x.idle.write.map IdleTimer.deadline = _ at due
    have runs_iff : x.idle.write.isSome = true ↔ timeouts.write.isZero = false ∧
        stalled ((life id request timeouts handler acquisition past).1.poll now).2 = true := by
      rw [← Option.isSome_map (f := IdleTimer.deadline), due, Timeouts.writeDue_isSome, polled,
        streak_concat_ne_nil]
    refine ⟨⟨fun runs => ?_, fun needed => runs_iff.mpr ⟨needed.1, needed.2.2⟩⟩,
      fun timer running => ?_⟩
    · obtain ⟨nonzero, held⟩ := runs_iff.mp runs
      refine ⟨nonzero, fun done => ?_, held⟩
      rw [unneeded done] at runs
      cases runs
    · rw [running, Timeouts.writeDue, if_neg (by simp [(serves.write timer running).2.2])] at due
      exact due
  · have spared := life_spares id request timeouts handler acquisition history moving
    exact ⟨fun _ told => spared.told _ told, fun _ yields => spared.result.await yields⟩

end Execution

/-- When the write timer of an exchange is due, if it runs. -/
def Stage.writeDeadline? : Stage σ → Option Instant
  | exchanging x _ => x.idle.write.map IdleTimer.deadline
  | _ => none

theorem Stage.exchanging_of_writeDeadline {stage : Stage σ} {deadline : Instant}
    (due : stage.writeDeadline? = some deadline) :
    ∃ x lease, stage = .exchanging x lease ∧
      ∃ timer ∈ x.idle.write, timer.deadline = deadline := by
  cases stage with
  | exchanging x lease => exact ⟨x, lease, rfl, Option.map_eq_some_iff.mp due⟩
  | _ => cases due

namespace Bench

/-- A plain request on a single-stream connection that takes only some frames. -/
def narrowLife (timeouts : Timeouts) (capacity : Nat) (history : List (Stimulus Wire)) :
    Execution.Run Wire :=
  Execution.life 1 plainRequest timeouts .quiet (.granted (.ofTransport ⟨7⟩ Protocol.http11.text
    { Wire.idle with capacity := some capacity })) history

/-- The connection takes a frame five seconds into the streak, and the timer is put off. With room
to spare only the read timer is left to end the execution. -/
theorem write_timer_measures_stalls_widened :
    let widen : Stimulus Wire := .transport ⟨7⟩ fun wire => { wire with capacity := some 1 }
    (∃ x lease, (narrowLife .standard 0 ([.poll .start, widen] ++ [.poll ⟨5000000000⟩])).1.stage =
        .exchanging x lease ∧ x.writeState ≠ .done ∧
      ∃ timer ∈ x.idle.write, timer.deadline = Instant.advance ⟨5000000000⟩ (.ofSeconds 30)) ∧
    ∃ fault, verdicts (narrowLife .standard 3 [.poll .start, .poll ⟨30000000000⟩]).2 =
      [.failed fault] ∧ fault.category ≠ .writeTimeout := by
  intro widen
  have narrow := Execution.write_timer_measures_stalls 1 plainRequest .standard .quiet
    (.granted (.ofTransport ⟨7⟩ Protocol.http11.text { Wire.idle with capacity := some 0 }))
  have wide := Execution.write_timer_measures_stalls 1 plainRequest .standard .quiet
    (.granted (.ofTransport ⟨7⟩ Protocol.http11.text { Wire.idle with capacity := some 3 }))
  have read : verdicts (narrowLife .standard 3 [.poll .start, .poll ⟨30000000000⟩]).2 =
      [.failed (Failure.readIdle (.ofSeconds 30)).classify] := by decide +kernel
  have runs : (narrowLife .standard 0
      ([.poll .start, widen] ++ [.poll ⟨5000000000⟩])).1.stage.writeDeadline?.isSome = true := by
    decide +kernel
  have due : dueAfter Timeouts.standard.write (streak (Execution.lifePolls 1 plainRequest
      .standard .quiet (.granted (.ofTransport ⟨7⟩ Protocol.http11.text
        { Wire.idle with capacity := some 0 })) ([.poll .start, widen] ++ [.poll ⟨5000000000⟩]))) =
      some (Instant.advance ⟨5000000000⟩ (.ofSeconds 30)) := by decide +kernel
  obtain ⟨deadline, known⟩ := Option.isSome_iff_exists.mp runs
  obtain ⟨x, lease, stage, timer, running, -⟩ := Stage.exchanging_of_writeDeadline known
  obtain ⟨runs_iff, deadlines⟩ := narrow.1 [.poll .start, widen] ⟨5000000000⟩ x lease stage
  have isSome : x.idle.write.isSome = true := Option.isSome_of_mem running
  refine ⟨⟨x, lease, stage, (runs_iff.mp isSome).2.1, timer, running, ?_⟩, _, read, ?_⟩
  · exact Option.some.inj ((deadlines timer running).trans due)
  · exact (wide.2 [.poll .start, .poll ⟨30000000000⟩] (by decide +kernel)).1 _
      (read ▸ List.mem_cons_self)

/-- A write timer of more than thirty years is due after thirty years already. -/
theorem write_timer_due_early :
    let period : Duration := .ofMilliseconds 946080000005
    ∃ x lease, (narrowLife ⟨period, .ofSeconds 30⟩ 0 [.poll .start]).1.stage =
        .exchanging x lease ∧
      ∃ timer ∈ x.idle.write, timer.deadline ≠ Instant.start.advance period := by
  intro period
  have early : (narrowLife ⟨period, .ofSeconds 30⟩ 0 [.poll .start]).1.stage.writeDeadline? =
      some (Instant.start.sleepUntil period) := by decide +kernel
  obtain ⟨x, lease, stage, timer, runs, due⟩ := Stage.exchanging_of_writeDeadline early
  refine ⟨x, lease, stage, timer, runs, ?_⟩
  rw [due]
  decide

end Bench

end HttpExchange
