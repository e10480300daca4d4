import HttpExchange.Proofs.Abandonment
import HttpExchange.Proofs.Disconnection

/-!
Who says that a task was abandoned. Neither an ending of an exchange nor a cancellation says so, but
only the guard of the task, when the task is gone without having settled its result.
-/

namespace HttpExchange

open Trace

variable {σ : Type}

/-- The abandonment is not what the future yields. -/
def Completion.Unabandoned (c : Completion) : Prop := c.result ≠ some .abandoned

/-- What a task has still to tell is not the abandonment. -/
def Stage.Unabandoned : Stage σ → Prop
  | closing _ ending _ => ending.result ≠ .abandoned
  | _ => True

theorem Stage.Unabandoned.alike {stage other : Stage σ} (h : stage.Unabandoned)
    (alike : stage.Alike other) : other.Unabandoned := by
  cases alike <;> exact h

/-- What a guard does that finds the result open. -/
def guarding : List Action := [.settle .abandoned true, .log ⟨.warn, Failure.abandoned.text⟩]

theorem Failure.classify_unabandoned {failure : Failure} (other : failure ≠ .abandoned) :
    Result.failure failure.classify ≠ .abandoned := by
  intro same
  exact other (congrArg Fault.cause (Result.failure.inj same))

namespace Completion

variable {c : Completion}

theorem Unabandoned.complete (h : c.Unabandoned) {result : Result} (other : result ≠ .abandoned) :
    (c.complete result).2.Unabandoned := by
  cases settled : c.isSettled with
  | true =>
      rw [complete_of_settled settled]
      exact h
  | false =>
      rw [complete_of_open settled]
      exact fun same => other (Option.some.inj same)

theorem Unabandoned.cancel (h : c.Unabandoned) : c.cancel.2.Unabandoned := by
  cases settled : c.isSettled with
  | true =>
      rw [cancel_of_settled settled]
      exact h
  | false =>
      have cancelled : c.cancel.2 =
          (c.complete (.failure c.cancellation.classify)).2.abort c.cancellation := by
        simp [Completion.cancel, complete_of_open settled]
      rw [cancelled, Unabandoned, abort_result]
      exact h.complete (Failure.classify_unabandoned (by simp [cancellation]))

theorem unabandoned_steady : Steady fun c _ => c.Unabandoned where
  extend _ h _ := h
  cancel := Unabandoned.cancel
  takeAbort h := by
    unfold takeAbort
    split <;> exact h

end Completion

namespace Execution

/-- The future yields the abandonment only if the guard of the task settled it so, and what the
task has still to tell is none. -/
structure Guards (run : Run σ) : Prop where
  ending : run.1.stage.Unabandoned
  result : run.1.completion.result = some .abandoned →
    run.1.stage.isGone = true ∧ guarding <:+: run.2

theorem Guards.after {run : Run σ} (h : Guards run) (before : List Action) :
    Guards (run.after before) where
  ending := h.ending
  result abandoned := by
    obtain ⟨gone, guarded⟩ := h.result abandoned
    exact ⟨gone, guarded.trans (List.suffix_append before run.2).isInfix⟩

/-- Before it is gone, a task has not yielded the abandonment. -/
theorem Guards.unabandoned {run : Run σ} (h : Guards run) (present : run.1.stage.isGone = false) :
    run.1.completion.Unabandoned := by
  intro abandoned
  have gone := (h.result abandoned).1
  simp [present] at gone

theorem Guards.ofUnabandoned {run : Run σ} (unabandoned : run.1.completion.Unabandoned)
    (ending : run.1.stage.Unabandoned) : Guards run :=
  ⟨ending, fun abandoned => absurd abandoned unabandoned⟩

section Parts

variable {e : Execution σ} (h : e.completion.Unabandoned)

include h

theorem leave_guards (departure : Departure) (body : Option MeteredBody) :
    Guards (e.leave departure body) := by
  refine ⟨trivial, fun abandoned => ⟨rfl, ?_⟩⟩
  cases settled : e.completion.isSettled with
  | true =>
      rw [leave_of_settled e departure body settled] at abandoned
      exact absurd abandoned h
  | false =>
      have guarded : (e.leave departure body).2 = guarding := by
        simp [leave, Completion.complete_of_open settled, guarding, Result.abandoned]
      rw [guarded]

theorem conclude_guards (callback : Callback) {result : Result} (other : result ≠ .abandoned)
    (body : Option MeteredBody) : Guards (e.conclude callback result body) := by
  have called := Completion.unabandoned_steady.call_keeps h e.handler callback
  unfold conclude
  dsimp only
  split
  · exact (leave_guards called .crashed body).after _
  · exact (leave_guards (called.complete other) .finished body).after _

theorem finish_guards {ending : Ending} (other : ending.result ≠ .abandoned)
    (body : Option MeteredBody) : Guards (e.finish ending body) := by
  cases ending with
  | success => exact conclude_guards h _ other body
  | failure message cause => exact (conclude_guards h _ other body).after _

theorem dropLease_unabandoned (lease : Lease σ) : (e.dropLease lease).1.completion.Unabandoned := by
  unfold dropLease
  split <;> exact h

theorem drop_guards (present : e.stage.isGone = false) : Guards e.drop := by
  have abandoned : e.abandonAcquisition.completion.Unabandoned := by
    unfold abandonAcquisition
    split <;> exact h
  unfold drop
  split
  · exact .ofUnabandoned abandoned trivial
  · exact leave_guards abandoned _ _
  · exact (leave_guards (dropLease_unabandoned h _) _ _).after _
  · rename_i connection _ _ _
    have lost : ({ e with lost := e.lost ++ [connection] } :
        Execution σ).completion.Unabandoned := h
    exact leave_guards lost _ _
  · rename_i gone
    rw [gone] at present
    cases present

variable [Transport σ]

theorem pollClose_guards (connection : Connection σ) {ending : Ending}
    (other : ending.result ≠ .abandoned) (body : Option MeteredBody) :
    Guards (e.pollClose connection ending body) := by
  unfold pollClose
  dsimp only
  split
  · exact .ofUnabandoned h other
  · have released : (e.release connection.close.2).1.completion.Unabandoned := h
    exact (finish_guards released other body).after _

theorem endExchange_guards (x : Exchange) (lease : Lease σ) {outcome : Outcome}
    (other : (e.endingOf outcome).result ≠ .abandoned) :
    Guards (e.endExchange x lease outcome) := by
  unfold endExchange
  dsimp only
  split
  · rename_i connection _ _
    have released : (e.release connection).1.completion.Unabandoned := h
    exact (finish_guards released other _).after _
  · unfold closeLease
    split
    · exact finish_guards h other _
    · exact pollClose_guards h _ other _

theorem pollExchange_guards (x : Exchange) {lease : Lease σ} {connection : Connection σ}
    (held : lease.connection = some connection)
    (own : ∀ abort ∈ e.completion.queue, abort ≠ .abandoned) (now : Instant) :
    Guards (e.pollExchange x lease now) := by
  have polled := Completion.unabandoned_steady.poll_keeps h x lease e.handler now
  have unabandoned := x.poll_unabandoned held e.handler own now
  have driven := e.pollExchange_drives x lease now
  generalize e.pollExchange x lease now = run at driven ⊢
  generalize x.poll lease e.handler e.completion now = step at *
  cases driven with
  | goesOn turn => exact .ofUnabandoned polled trivial
  | ends outcome turn =>
      have other : (e.endingOf outcome).result ≠ .abandoned := by
        rw [turn] at unabandoned
        cases outcome with
        | complete => exact nofun
        | writeFailed failure | failed failure | aborted failure =>
            exact Failure.classify_unabandoned fun same => unabandoned (congrArg some same)
      exact (endExchange_guards (e := { e with completion := step.completion }) polled _ _
        other).after _
  | breaksOff turn => exact (leave_guards (dropLease_unabandoned polled _) .crashed _).after _

end Parts

variable [Transport σ] {granting : Acquisition σ} {history : List (Stimulus σ)}
  {id : ExecutionId} {trace : List Action}

theorem poll_guards {e : Execution σ} (h : e.completion.Unabandoned)
    (ending : e.stage.Unabandoned) (employs : e.stage.Employs granting history)
    (candid : e.completion.Candid id trace) (present : e.stage.isGone = false) (now : Instant) :
    Guards (e.poll now) := by
  -- An abort that waits is a cancellation, never an abandonment.
  have own {c : Completion} {trace : List Action} (candid : c.Candid id trace) :
      ∀ abort ∈ c.queue, abort ≠ .abandoned := by
    intro abort waits
    rw [candid.queued abort waits]
    exact nofun
  have leased : e.leased.completion.Unabandoned := by
    unfold leased Completion.attach
    dsimp only
    split <;> exact h
  have polled := e.poll_polls now
  generalize e.poll now = run at polled ⊢
  cases polled with
  | waits isWaiting unanswered => exact .ofUnabandoned h trivial
  | refused isWaiting error refused message =>
      have taken : ({ e with acquisition := .taken } : Execution σ).completion.Unabandoned := h
      have other : (Ending.failure message (.lease error)).result ≠ .abandoned :=
        Failure.classify_unabandoned (by simp)
      exact (finish_guards taken other none).after _
  | unframed isWaiting connection granted cause unknown =>
      have other : cause ≠ .abandoned := by
        unfold Pipeline.configure at unknown
        split at unknown <;> cases unknown
        exact nofun
      have ending : (Ending.failure cause.text cause).result ≠ .abandoned :=
        Failure.classify_unabandoned other
      exact (pollClose_guards leased _ ending none).after _
  | begins isWaiting connection granted p framed x =>
      exact (pollExchange_guards leased x rfl (own candid.attach) now).after _
  | drives x lease stage =>
      rw [stage] at employs
      obtain ⟨connection, -, held, -, -⟩ := employs
      exact pollExchange_guards h x held (own candid) now
  | closes connection next body stage =>
      rw [stage] at ending
      exact pollClose_guards h connection ending body
  | departed gone =>
      rw [present] at gone
      cases gone

/-- Every stimulus leaves it to the guard to abandon the task. -/
theorem respond_guards {run : Run σ} (h : Guards run)
    (employs : run.1.stage.Employs granting history) (reckoning : Reckoning id run)
    (stimulus : Stimulus σ) : Guards ((run.1.respond stimulus).after run.2) := by
  -- What neither moves the task nor settles its result leaves to the guard what was the guard's.
  have aside {next : Execution σ} {actions : List Action} (ending : next.stage.Unabandoned)
      (stays : next.stage.isGone = run.1.stage.isGone)
      (result : next.completion.result = some .abandoned →
        run.1.completion.result = some .abandoned) :
      Guards (Run.after (next, actions) run.2) := by
    refine ⟨ending, fun abandoned => ?_⟩
    obtain ⟨gone, guarded⟩ := h.result (result abandoned)
    exact ⟨stays.trans gone, guarded.trans (List.prefix_append run.2 actions).isInfix⟩
  cases stimulus with
  | poll now =>
      cases present : run.1.stage.isGone with
      | true =>
          rw [respond, poll_of_gone present]
          exact aside h.ending rfl fun same => same
      | false =>
          exact (poll_guards (h.unabandoned present) h.ending employs (reckoning.candid present)
            present now).after _
  | drop =>
      cases present : run.1.stage.isGone with
      | true =>
          rw [respond, drop_of_gone _ present]
          exact aside h.ending rfl fun same => same
      | false => exact (drop_guards (h.unabandoned present) present).after _
  | answer given =>
      rw [respond]
      exact aside (by rw [answer_stage]; exact h.ending) (by rw [answer_stage])
        (by rw [answer_completion]; exact fun same => same)
  | cancel =>
      refine aside h.ending rfl fun abandoned => ?_
      by_contra other
      exact Completion.Unabandoned.cancel other abandoned
  | transport connection change =>
      have alike := run.1.stage.alike_mapConnection (·.changeTransport connection change)
      exact aside (h.ending.alike alike) alike.isGone fun same => same
  | feed items close =>
      have alike := run.1.stage.alike_mapBody (·.feed items close)
      exact aside (h.ending.alike alike) alike.isGone fun same => same

theorem life_guards (id : ExecutionId) (request : Request) (timeouts : Timeouts)
    (handler : Handler) (acquisition : Acquisition σ) (history : List (Stimulus σ)) :
    Guards (life id request timeouts handler acquisition history) :=
  life_invariant id request timeouts handler acquisition (fun _ run => Guards run)
    (.ofUnabandoned nofun trivial)
    (fun past stimulus h => respond_guards h
      (life_employs id request timeouts handler acquisition past)
      (life_reckoning id request timeouts handler acquisition past) stimulus) history

end Execution

end HttpExchange
