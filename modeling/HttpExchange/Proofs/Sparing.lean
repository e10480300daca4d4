import HttpExchange.Proofs.Hearing
import HttpExchange.Proofs.Timing

/-!
An execution whose connection never holds it back. A body with nothing to send starts no write
timer, so no poll ends because of it, and neither the handler nor the future is told of a write
timeout.
-/

namespace HttpExchange

open Trace

variable {σ : Type}

/-- No write timeout is told. -/
def Callback.Spares : Callback → Prop
  | failed fault => fault.category ≠ .writeTimeout
  | _ => True

def Result.Spares : Result → Prop
  | failure fault => fault.category ≠ .writeTimeout
  | success => True

theorem Result.abandoned_spares : (failure Failure.abandoned.classify).Spares := by
  intro timeout
  cases timeout

def Ending.Spares : Ending → Prop
  | failure _ cause => cause.category ≠ .writeTimeout
  | success => True

namespace Completion

/-- Nobody is told of a write timeout. -/
def Spares (c : Completion) : Prop := ∀ result ∈ c.result, result.Spares

variable {c : Completion}

theorem Spares.complete (h : c.Spares) {result : Result} (spared : result.Spares) :
    (c.complete result).2.Spares := by
  cases settled : c.isSettled with
  | true =>
      rw [complete_of_settled settled]
      exact h
  | false =>
      rw [complete_of_open settled]
      intro other member
      obtain rfl := Option.some.inj member
      exact spared

theorem abort_result (c : Completion) (failure : Failure) :
    (c.abort failure).result = c.result := by
  unfold abort
  split <;> rfl

theorem Spares.cancel (h : c.Spares) : c.cancel.2.Spares := by
  cases settled : c.isSettled with
  | true =>
      rw [cancel_of_settled settled]
      exact h
  | false =>
      have cancelled : c.cancel.2 =
          (c.complete (.failure c.cancellation.classify)).2.abort c.cancellation := by
        simp [Completion.cancel, complete_of_open settled]
      rw [cancelled, Spares, abort_result]
      exact h.complete (by rintro ⟨⟩)

theorem Spares.attach (h : c.Spares) : c.attach.Spares := by
  unfold Completion.attach
  split <;> exact h

theorem Spares.await (h : c.Spares) {fault : Fault} (yields : c.await = some (.failure fault)) :
    fault.category ≠ .writeTimeout := by
  unfold Completion.await at yields
  split at yields
  · rename_i result settled
    exact h _ (settled.trans yields)
  · split at yields
    · obtain rfl := Result.failure.inj (Option.some.inj yields)
      exact Result.abandoned_spares
    · cases yields

theorem spares_steady : Steady fun c _ => c.Spares where
  extend _ h _ := h
  cancel h := h.cancel
  takeAbort h := by
    unfold takeAbort
    split <;> exact h

end Completion

/-- No write timer runs, and no write timeout is to be told. -/
def Stage.Spares : Stage σ → Prop
  | exchanging x _ => x.idle.write = none ∧ x.events = []
  | closing _ ending _ => ending.Spares
  | _ => True

theorem Stage.Spares.alike {stage other : Stage σ} (h : stage.Spares)
    (alike : stage.Alike other) : other.Spares := by
  cases alike <;> exact h

namespace Execution

/-- Nobody is told of a write timeout. -/
structure Spares (run : Run σ) : Prop where
  told : ∀ verdict ∈ verdicts run.2, verdict.Spares
  result : run.1.completion.Spares
  stage : run.1.stage.Spares

theorem Spares.ofSilent {run : Run σ} (silent : verdicts run.2 = [])
    (result : run.1.completion.Spares) (stage : run.1.stage.Spares) : Spares run := by
  refine ⟨?_, result, stage⟩
  rw [silent]
  exact List.forall_mem_nil _

theorem Spares.after {run : Run σ} (h : Spares run) {actions : List Action}
    (silent : verdicts actions = []) : Spares (run.after actions) := by
  refine ⟨?_, h.result, h.stage⟩
  rw [Run.after_snd, verdicts_append, silent]
  exact h.told

theorem leave_spares {e : Execution σ} (h : e.completion.Spares) (departure : Departure)
    (body : Option MeteredBody) : Spares (e.leave departure body) := by
  exact .ofSilent (e.leave_inert departure body).silent (h.complete Result.abandoned_spares)
    trivial

theorem conclude_spares {e : Execution σ} (h : e.completion.Spares) {ending : Ending}
    (spared : ending.Spares) (body : Option MeteredBody) :
    Spares (e.conclude ending.verdict ending.result body) := by
  have last : ending.verdict.isVerdict = true := by cases ending <;> rfl
  have called := Completion.spares_steady.call_keeps h e.handler ending.verdict
  have result : ending.result.Spares := by
    cases ending with
    | success => trivial
    | failure message cause => exact spared
  refine ⟨fun verdict member => ?_, ?_, ?_⟩
  · rw [((e.conclude_concludes ending.result body last).winds ⟨0⟩).verdicts,
      List.mem_singleton] at member
    rw [member]
    cases ending with
    | success => trivial
    | failure message cause => exact spared
  · unfold conclude
    dsimp only
    split
    · exact called.complete Result.abandoned_spares
    · exact (called.complete result).complete Result.abandoned_spares
  · unfold conclude
    dsimp only
    split <;> trivial

theorem finish_spares {e : Execution σ} (h : e.completion.Spares) {ending : Ending}
    (spared : ending.Spares) (body : Option MeteredBody) : Spares (e.finish ending body) := by
  cases ending with
  | success => exact conclude_spares h spared body
  | failure message cause => exact (conclude_spares h spared body).after rfl

theorem dropLease_spares {e : Execution σ} (h : e.completion.Spares) (lease : Lease σ) :
    (e.dropLease lease).1.completion.Spares := by
  unfold dropLease
  split <;> exact h

variable [Transport σ]

theorem pollClose_spares {e : Execution σ} (h : e.completion.Spares) (connection : Connection σ)
    {ending : Ending} (spared : ending.Spares) (body : Option MeteredBody) :
    Spares (e.pollClose connection ending body) := by
  unfold pollClose
  dsimp only
  split
  · exact .ofSilent rfl h spared
  · have released : (e.release connection.close.2).1.completion.Spares := h
    exact (finish_spares released spared body).after rfl

theorem endExchange_spares {e : Execution σ} (h : e.completion.Spares) (x : Exchange)
    (lease : Lease σ) {outcome : Outcome} (spared : (e.endingOf outcome).Spares) :
    Spares (e.endExchange x lease outcome) := by
  unfold endExchange
  dsimp only
  split
  · rename_i connection _ _
    have released : (e.release connection).1.completion.Spares := h
    exact (finish_spares released spared _).after rfl
  · unfold closeLease
    split
    · exact finish_spares h spared _
    · exact pollClose_spares h _ spared _

end Execution

/-- The failure of a timer. -/
def Failure.isIdle : Failure → Bool
  | writeIdle _ | readIdle _ => true
  | _ => false

/-- Either category is left to its timer. -/
theorem Failure.eq_idle_of_category (cause : Failure) :
    (cause.category = .writeTimeout → ∃ period, cause = .writeIdle period) ∧
      (cause.category = .readTimeout → ∃ period, cause = .readIdle period) := by
  cases cause with
  | writeIdle period => exact ⟨fun _ => ⟨period, rfl⟩, nofun⟩
  | readIdle period => exact ⟨nofun, fun _ => ⟨period, rfl⟩⟩
  | lease error =>
      unfold Failure.category
      dsimp only
      split
      · exact ⟨nofun, nofun⟩
      · split <;> exact ⟨nofun, nofun⟩
  | _ => exact ⟨nofun, nofun⟩

/-- Nothing waits to be taken but cancellations. -/
theorem Completion.Candid.own {id : ExecutionId} {c : Completion} {trace : List Action}
    (h : c.Candid id trace) : ∀ abort ∈ c.queue, abort.isIdle = false := by
  intro abort waiting
  rw [h.queued abort waiting]
  rfl

/-- The failure of a timer is met only in the timers, or as an abort. -/
theorem Action.of_idle {p : Pipeline} {action : Action} {cause : Failure}
    (met : action.failure? (.ok p) = some cause) (idle : cause.isIdle = true) :
    action = .timerCheck (some cause) ∨ action = .control (some cause) := by
  cases cause with
  | writeIdle period | readIdle period =>
      cases action with
      | control abort => exact .inr (congrArg _ met)
      | timerCheck fired => exact .inl (congrArg _ met)
      | receive answer =>
          cases answer with
          | frame frame =>
              obtain ⟨error, other⟩ := Pipeline.decode_failed met
              cases other
          | _ => cases met
      | produced answer => cases answer <;> cases met
      | ready answer | flush answer => cases answer <;> cases met
      | write frame refusal => cases refusal <;> cases met
      | _ => cases met
  | _ => cases idle

/-- A poll that is not held back does not end with a write timeout. -/
theorem Exchange.poll_spares [Transport σ] {x : Exchange} {lease : Lease σ}
    {connection : Connection σ} (held : lease.connection = some connection) (empty : x.events = [])
    {periods : Timeouts} (serves : x.idle.Serves periods) (unneeded : x.Unneeded) {h : Handler}
    {c : Completion} (own : ∀ abort ∈ c.queue, abort.isIdle = false) {now : Instant}
    (moving : stalled (x.poll lease h c now).actions = false) {cause : Failure}
    (failed : (x.poll lease h c now).turn.failure? = some cause) :
    cause.category ≠ .writeTimeout := by
  have met : cause ∈ failures (.ok x.pipeline) (x.poll lease h c now).actions := by
    rw [(poll_hears rfl empty held h c now).failures, failed]
    exact List.mem_singleton_self cause
  obtain ⟨action, member, meets⟩ := List.mem_filterMap.mp met
  intro timeout
  obtain ⟨period, rfl⟩ := cause.eq_idle_of_category.1 timeout
  -- the timer does not fire in a poll that is not held back, and no abort carries its failure
  rcases Action.of_idle meets rfl with rfl | rfl
  · exact (poll_times unneeded lease h c now).unfired serves moving period member
  · have taken : .writeIdle period ∈ aborts (x.poll lease h c now).actions :=
      List.mem_filterMap.mpr ⟨_, member, rfl⟩
    rcases x.poll_abort lease h c now with ⟨abort, waited, -, aborted⟩ | ⟨-, none_taken⟩
    · rw [aborted, List.mem_singleton] at taken
      cases taken ▸ own abort waited
    · rw [none_taken] at taken
      cases taken

namespace Execution

theorem drop_spares {e : Execution σ} (h : e.completion.Spares) (spared : e.stage.Spares) :
    Spares e.drop := by
  have abandoned : e.abandonAcquisition.completion.Spares := by
    unfold abandonAcquisition
    split <;> exact h
  unfold drop
  split
  · exact .ofSilent rfl abandoned trivial
  · exact leave_spares abandoned _ _
  · exact (leave_spares (dropLease_spares h _) _ _).after (dropLease_inert _ _).silent
  · rename_i connection _ _ _
    have lost : ({ e with lost := e.lost ++ [connection] } : Execution σ).completion.Spares := h
    exact leave_spares lost _ _
  · exact .ofSilent rfl h spared

variable [Transport σ] {timeouts : Timeouts}

theorem pollExchange_spares {e : Execution σ} (h : e.completion.Spares) {x : Exchange}
    {lease : Lease σ} {connection : Connection σ} (held : lease.connection = some connection)
    (empty : x.events = []) (serves : x.idle.Serves timeouts) (unneeded : x.Unneeded)
    (own : ∀ abort ∈ e.completion.queue, abort.isIdle = false) (now : Instant)
    (moving : stalled (e.pollExchange x lease now).2 = false) :
    Spares (e.pollExchange x lease now) := by
  have times := Exchange.poll_times unneeded lease e.handler e.completion now
  have hears := Exchange.poll_hears rfl empty held e.handler e.completion now
  have driving := x.poll_driving lease e.handler e.completion now
  have spared := Completion.spares_steady.poll_keeps h x lease e.handler now
  have ends (moving : stalled (x.poll lease e.handler e.completion now).actions = false)
      {cause : Failure}
      (failed : (x.poll lease e.handler e.completion now).turn.failure? = some cause) :
      cause.category ≠ .writeTimeout :=
    Exchange.poll_spares held empty serves unneeded own moving failed
  have driven := e.pollExchange_drives x lease now
  generalize e.pollExchange x lease now = run at driven moving ⊢
  generalize x.poll lease e.handler e.completion now = step at *
  have silent := driving.midway_of_driving.verdicts_eq_nil
  cases driven with
  | goesOn turn =>
      refine .ofSilent silent spared ⟨?_, hears.drained turn⟩
      rw [times.timer turn, moving]
      rfl
  | ends outcome turn =>
      rw [Run.after_snd, stalled_append, Bool.or_eq_false_iff] at moving
      have ending : (e.endingOf outcome).Spares := by
        rw [turn] at ends
        cases outcome with
        | complete => trivial
        | writeFailed failure | failed failure | aborted failure => exact ends moving.1 rfl
      exact (endExchange_spares (e := { e with completion := step.completion }) spared _ _
        ending).after silent
  | breaksOff turn =>
      refine (leave_spares (dropLease_spares spared _) .crashed _).after ?_
      rw [verdicts_append, silent, (dropLease_inert _ _).silent]
      rfl

/-- A poll of a task that is not held back does not bring a write timeout. -/
theorem poll_spares {granting : Acquisition σ} {history : List (Stimulus σ)} {id : ExecutionId}
    {trace : List Action} {e : Execution σ} (h : e.completion.Spares) (spared : e.stage.Spares)
    (configured : e.timeouts = timeouts) (timed : e.stage.Timed timeouts)
    (employs : e.stage.Employs granting history)
    (candid : e.stage.isGone = false → e.completion.Candid id trace) (now : Instant)
    (moving : stalled (e.poll now).2 = false) : Spares (e.poll now) := by
  have polled := e.poll_polls now
  generalize e.poll now = next at polled moving ⊢
  cases polled with
  | waits isWaiting unanswered => exact .ofSilent rfl h trivial
  | refused isWaiting error refused message =>
      have spared : (Ending.failure message (.lease error)).Spares := by
        intro timeout
        obtain ⟨period, other⟩ := (Failure.eq_idle_of_category _).1 timeout
        cases other
      have refused : ({ e with acquisition := .taken } : Execution σ).completion.Spares := h
      exact (finish_spares refused spared none).after rfl
  | unframed isWaiting connection granted cause unknown =>
      have spared : (Ending.failure cause.text cause).Spares := by
        unfold Pipeline.configure at unknown
        split at unknown <;> cases unknown
        nofun
      have attached : e.leased.completion.Spares := h.attach
      exact (pollClose_spares attached _ spared none).after rfl
  | begins isWaiting connection granted p framed x pipeline writeState frames events idle
      opening only =>
      rw [configured] at idle
      obtain ⟨serves, unneeded⟩ := Exchange.timers_of_begin idle writeState
      have there := Stage.present_of_waiting isWaiting
      have attached : e.leased.completion.Spares := h.attach
      rw [Run.after_snd, stalled_append, Bool.or_eq_false_iff] at moving
      exact (pollExchange_spares attached rfl events serves unneeded (candid there).attach.own now
        moving.2).after only.midway_of_opening.verdicts_eq_nil
  | drives x lease stage =>
      rw [stage] at timed spared employs
      obtain ⟨connection, given, held, known, same⟩ := employs
      have there : e.stage.isGone = false := by
        rw [stage]
        rfl
      exact pollExchange_spares h held spared.2 timed.1 timed.2 (candid there).own now moving
  | closes connection ending body stage =>
      rw [stage] at spared
      exact pollClose_spares h connection spared body
  | departed gone => exact .ofSilent rfl h spared

/-- Every stimulus under which nothing is held back leaves it so that nobody is told of a write
timeout. -/
theorem respond_spares {granting : Acquisition σ} {history : List (Stimulus σ)}
    {id : ExecutionId} {run : Run σ} (h : Spares run) (configured : run.1.timeouts = timeouts)
    (timed : run.1.stage.Timed timeouts) (employs : run.1.stage.Employs granting history)
    (candid : run.1.stage.isGone = false → run.1.completion.Candid id run.2)
    (stimulus : Stimulus σ) (moving : stalled (run.1.respond stimulus).2 = false) :
    Spares (run.1.respond stimulus) := by
  have stage := h.stage
  cases stimulus with
  | poll now => exact poll_spares h.result stage configured timed employs candid now moving
  | drop => exact drop_spares h.result stage
  | answer given =>
      refine .ofSilent rfl ?_ ?_
      · change (run.1.answer given).completion.Spares
        rw [answer_completion]
        exact h.result
      · change (run.1.answer given).stage.Spares
        rwa [answer_stage]
  | cancel => exact .ofSilent rfl h.result.cancel stage
  | transport id change =>
      exact .ofSilent rfl h.result (stage.alike (run.1.stage.alike_mapConnection _))
  | feed items close =>
      exact .ofSilent rfl h.result (stage.alike (run.1.stage.alike_mapBody (·.feed items close)))

section Life

variable (id : ExecutionId) (request : Request) (timeouts : Timeouts) (handler : Handler)
  (acquisition : Acquisition σ)

/-- As long as nothing was held back nobody is told of a write timeout. -/
theorem life_spares (history : List (Stimulus σ))
    (moving : stalled (life id request timeouts handler acquisition history).2 = false) :
    Spares (life id request timeouts handler acquisition history) := by
  have begins : Spares (start id request timeouts handler acquisition) := by
    refine ⟨fun verdict told => ?_, fun result yields => ?_, trivial⟩
    · cases told
    · cases yields
  refine life_invariant id request timeouts handler acquisition
    (fun _ run => stalled run.2 = false → Spares run) (fun _ => begins)
    (fun past stimulus h moving => ?_) history moving
  rw [Run.after_snd, stalled_append, Bool.or_eq_false_iff] at moving
  have before := h moving.1
  have custody := life_custody id request timeouts handler acquisition past
  have spared := respond_spares before (congrArg (·.2.1) custody.setting)
    (life_timed id request timeouts handler acquisition past)
    (life_employs id request timeouts handler acquisition past)
    (life_reckoning id request timeouts handler acquisition past).candid stimulus moving.2
  refine ⟨fun verdict member => ?_, spared.result, spared.stage⟩
  rw [Run.after_snd, verdicts_append, List.mem_append] at member
  exact member.elim (before.told verdict) (spared.told verdict)

end Life

end Execution

end HttpExchange
