import HttpExchange.Proofs.Agreeing
import HttpExchange.Proofs.Custody

/-!
What the handler and the future are told of the end of an execution. Both hear of the same
end, with one exception: a cancellation settles the future at once, and the handler hears of
it only if the exchange is still there to take the abort. A cancellation that comes when the
end is already decided leaves the two with different verdicts, and nothing else does.
-/

namespace HttpExchange

open Trace

variable {σ : Type}

namespace Execution

/-- What was told so far. While the task is there, the handler has not heard of the end, and
the completion knows of the cancellation that the trace shows; once a handler that does not
break off has heard of it, the future is settled. -/
structure Reckoning (id : ExecutionId) (run : Run σ) : Prop where
  candid : run.1.stage.isGone = false → run.1.completion.Candid id run.2
  silent : run.1.stage.isGone = false → verdicts run.2 = []
  attached : run.1.stage.Attached run.1.completion
  follows : run.1.stage.Follows id run.2
  told : run.1.handler.IsCalm → ∀ verdict ∈ verdicts run.2, run.1.completion.isSettled = true ∧
    ∃ result, run.1.completion.result = some result ∧
      (Cancelled run.2 → result = .failure (Failure.cancelled id).classify) ∧
      (result.Agrees verdict ↔ (Cancelled run.2 → aborts run.2 ≠ []))

namespace Reckoning

variable {id : ExecutionId} {run : Run σ}

theorem ofCandid (candid : run.1.completion.Candid id run.2) (silent : verdicts run.2 = [])
    (attached : run.1.stage.Attached run.1.completion) (follows : run.1.stage.Follows id run.2) :
    Reckoning id run where
  candid _ := candid
  silent _ := silent
  attached := attached
  follows := follows
  told _ verdict member := by
    rw [silent] at member
    cases member

/-- Of a task that went away nothing counts but what it told. -/
theorem ofGone {departure : Departure} {body : Option MeteredBody}
    (gone : run.1.stage = .gone departure body)
    (told : run.1.handler.IsCalm → ∀ verdict ∈ verdicts run.2,
      run.1.completion.isSettled = true ∧ ∃ result, run.1.completion.result = some result ∧
        (Cancelled run.2 → result = .failure (Failure.cancelled id).classify) ∧
        (result.Agrees verdict ↔ (Cancelled run.2 → aborts run.2 ≠ []))) :
    Reckoning id run where
  candid present := by
    rw [gone] at present
    cases present
  silent present := by
    rw [gone] at present
    cases present
  attached := by
    rw [gone]
    trivial
  follows := by
    rw [gone]
    trivial
  told := told

/-- A task that went away without a word. -/
theorem ofSilent {departure : Departure} {body : Option MeteredBody}
    (gone : run.1.stage = .gone departure body) (silent : verdicts run.2 = []) :
    Reckoning id run := by
  refine ofGone gone fun _ verdict member => ?_
  rw [silent] at member
  cases member

/-- A task that went away after the last callback, when nothing but settling was left. -/
theorem ofTold {departure : Departure} {body : Option MeteredBody}
    (gone : run.1.stage = .gone departure body) (spoken rest : List Action)
    (whole : run.2 = spoken ++ rest) (inert : Only Action.isInert rest) {verdict : Callback}
    (told : verdicts spoken = [verdict]) (settled : run.1.completion.isSettled = true)
    {result : Result} (yields : run.1.completion.result = some result)
    (won : Cancelled spoken → result = .failure (Failure.cancelled id).classify)
    (agrees : result.Agrees verdict ↔ (Cancelled spoken → aborts spoken ≠ [])) :
    Reckoning id run := by
  refine ofGone gone fun _ other member => ?_
  rw [whole, verdicts_append, told, inert.silent, List.append_nil, List.mem_singleton] at member
  rw [whole, cancelled_append, aborts_append, inert.aborts_eq_nil, List.append_nil,
    or_iff_left inert.not_cancelled, member]
  exact ⟨settled, result, yields, won, agrees⟩

end Reckoning

/-- A task on its way. -/
structure Poised (id : ExecutionId) (e : Execution σ) (trace : List Action) : Prop where
  candid : e.completion.Candid id trace
  silent : verdicts trace = []

theorem Poised.extend {id : ExecutionId} {e : Execution σ} {trace : List Action}
    (h : Poised id e trace) (actions : List Action) (inert : Only Action.isInert actions) :
    Poised id e (trace ++ actions) where
  candid := h.candid.extend _ inert.not_cancelled
  silent := by rw [verdicts_append, h.silent, inert.silent, List.append_nil]

theorem Poised.release {id : ExecutionId} {e : Execution σ} {trace : List Action}
    (h : Poised id e trace) (connection : Connection σ) :
    Poised id (e.release connection).1 (trace ++ (e.release connection).2) := by
  have released := h.extend (e.release connection).2
    (by simp [Execution.release, Action.isInert])
  exact ⟨released.candid.detach, released.silent⟩

/-- A settled result stays as it is when the task leaves. -/
theorem leave_of_settled (e : Execution σ) (departure : Departure) (body : Option MeteredBody)
    (settled : e.completion.isSettled = true) :
    e.leave departure body = ({ e with stage := .gone departure body },
      [.settle (.failure Failure.abandoned.classify) false]) := by
  simp [leave, Completion.complete_of_settled settled]

/-- The last callback and the result of the future are of the same ending. -/
theorem conclude_reckoning {id : ExecutionId} {e : Execution σ} {trace : List Action}
    (h : Poised id e trace) {ending : Ending} (follows : ending.Follows id trace)
    (body : Option MeteredBody) :
    Reckoning id ((e.conclude ending.verdict ending.result body).after trace) := by
  have candid := (Completion.Candid.steady id).call h.candid e.handler ending.verdict
  have told : verdicts (e.handler.call ending.verdict e.completion).actions = [ending.verdict] :=
    Handler.call_verdicts _ _ (by cases ending <;> rfl)
  have none_taken := Handler.call_aborts e.handler ending.verdict e.completion
  cases broke_off : (e.handler ending.verdict).breaksOff with
  | true =>
      -- a handler that breaks off here is not calm, and nothing is claimed of what it was told
      have left := e.handler.call_brokeOff ending.verdict e.completion
      unfold conclude
      dsimp only
      rw [if_pos (left.trans broke_off)]
      refine .ofGone rfl fun calm => ?_
      have goes_on := calm ending.verdict
      simp [leave, broke_off] at goes_on
  | false =>
      have goes_on := (e.handler.call_brokeOff ending.verdict e.completion).trans broke_off
      unfold conclude
      dsimp only
      rw [if_neg (by simp [goes_on])]
      generalize e.handler.call ending.verdict e.completion = called at *
      have settled := called.completion.complete_isSettled ending.result
      rw [leave_of_settled _ _ _ settled]
      have follows_call : ending.Follows id (trace ++ called.actions) :=
        follows.extend none_taken
      obtain ⟨result, yields, won, agrees⟩ := candid.agrees_of_complete follows_call
      refine Reckoning.ofTold rfl (trace ++ called.actions)
        [.settle ending.result (called.completion.complete ending.result).1,
          .settle (.failure Failure.abandoned.classify) false] ?_ (by simp [Action.isInert]) ?_
        settled yields won agrees
      · simp [Run.after]
      · rw [verdicts_append, h.silent, told, List.nil_append]

theorem finish_reckoning {id : ExecutionId} {e : Execution σ} {trace : List Action}
    (h : Poised id e trace) {ending : Ending} (follows : ending.Follows id trace)
    (body : Option MeteredBody) : Reckoning id ((e.finish ending body).after trace) := by
  cases ending with
  | success => exact conclude_reckoning h follows body
  | failure message cause =>
      have inert : Only Action.isInert [.log ⟨.error, message⟩] := by simp [Action.isInert]
      have told := conclude_reckoning (h.extend _ inert) (follows.extend inert.aborts_eq_nil) body
      rw [← Run.after_after] at told
      exact told

/-- An exchange that ended in its own way leaves an ending of its own. -/
theorem endingOf_follows {id : ExecutionId} {trace : List Action} {outcome : Outcome}
    (e : Execution σ) (ordinary : outcome.isOrdinary = true) (none_taken : aborts trace = []) :
    (e.endingOf outcome).Follows id trace := by
  cases outcome with
  | complete => exact none_taken
  | writeFailed failure | failed failure =>
      exact .inl ⟨none_taken, by simpa [Outcome.isOrdinary] using ordinary⟩
  | aborted failure => cases ordinary

theorem leave_inert (e : Execution σ) (departure : Departure) (body : Option MeteredBody) :
    Only Action.isInert (e.leave departure body).2 := by
  unfold leave
  dsimp only
  split <;> simp [Action.isInert]

theorem dropLease_inert (e : Execution σ) (lease : Lease σ) :
    Only Action.isInert (e.dropLease lease).2 := by
  unfold dropLease
  split <;> simp [Action.isInert, Run.after, release]

theorem drop_inert (e : Execution σ) : Only Action.isInert e.drop.2 := by
  unfold drop
  split
  · exact only_nil
  · exact leave_inert _ _ _
  · exact (only_append _ _).mpr ⟨dropLease_inert _ _, leave_inert _ _ _⟩
  · exact leave_inert _ _ _
  · exact only_nil

variable [Transport σ]

theorem pollClose_reckoning {id : ExecutionId} {e : Execution σ} {trace : List Action}
    (h : Poised id e trace) (leased : e.completion.slot = .leased) {ending : Ending}
    (follows : ending.Follows id trace) (connection : Connection σ)
    (body : Option MeteredBody) :
    Reckoning id ((e.pollClose connection ending body).after trace) := by
  have inert : Only Action.isInert [.close connection.id connection.close.1] := by
    simp [Action.isInert]
  have asked := h.extend _ inert
  unfold pollClose
  dsimp only
  split
  · exact .ofCandid asked.candid asked.silent leased (follows.extend inert.aborts_eq_nil)
  · have released := asked.release connection.close.2
    have asked_follows := follows.extend inert.aborts_eq_nil
    have told := finish_reckoning released (asked_follows.extend rfl) body
    rw [List.append_assoc, ← Run.after_after] at told
    exact told

theorem closeLease_reckoning {id : ExecutionId} {e : Execution σ} {trace : List Action}
    (h : Poised id e trace) (leased : e.completion.slot = .leased) {ending : Ending}
    (follows : ending.Follows id trace) (lease : Lease σ) (body : Option MeteredBody) :
    Reckoning id ((e.closeLease lease ending body).after trace) := by
  unfold closeLease
  split
  · exact finish_reckoning h follows body
  · exact pollClose_reckoning h leased follows _ body

theorem endExchange_reckoning {id : ExecutionId} {e : Execution σ} {trace : List Action}
    (h : Poised id e trace) (leased : e.completion.slot = .leased) (x : Exchange)
    (lease : Lease σ) {outcome : Outcome} (follows : (e.endingOf outcome).Follows id trace) :
    Reckoning id ((e.endExchange x lease outcome).after trace) := by
  unfold endExchange
  dsimp only
  split
  · rename_i connection _ _
    have told := finish_reckoning (h.release connection) (follows.extend rfl)
      (some x.frames.body)
    rw [← Run.after_after] at told
    exact told
  · exact closeLease_reckoning h leased follows lease _

/-- An exchange ends with the abort that it took, or in its own way if it took none. -/
theorem pollExchange_reckoning {id : ExecutionId} {e : Execution σ} {trace : List Action}
    (h : Poised id e trace) (leased : e.completion.slot = .leased) (none_taken : aborts trace = [])
    (x : Exchange) (lease : Lease σ) (now : Instant) :
    Reckoning id ((e.pollExchange x lease now).after trace) := by
  have polled := x.poll_abort lease e.handler e.completion now
  have candid := (Completion.Candid.steady id).poll h.candid x lease e.handler now
  have still_leased := Completion.leased_steady.poll_keeps leased x lease e.handler now
  have silent :=
    (x.poll_driving lease e.handler e.completion now).midway_of_driving.verdicts_eq_nil
  unfold pollExchange
  dsimp only
  rw [Run.after_after]
  generalize x.poll lease e.handler e.completion now = step at *
  have poised : Poised id { e with completion := step.completion } (trace ++ step.actions) :=
    ⟨candid, by rw [verdicts_append, h.silent, silent, List.nil_append]⟩
  have all_taken : aborts (trace ++ step.actions) = aborts step.actions := by
    rw [aborts_append, none_taken, List.nil_append]
  rcases polled with ⟨abort, waited, turn, taken⟩ | ⟨ordinary, none_now⟩
  · rw [turn]
    refine endExchange_reckoning poised still_leased _ _ (.inr ⟨?_, h.candid.queued abort waited⟩)
    rw [all_taken, taken]
    exact List.cons_ne_nil _ _
  · rw [none_now] at all_taken
    cases turn : step.turn with
    | pending =>
        refine .ofCandid ?_ ?_ still_leased ?_
        all_goals rw [Run.after_snd, List.append_nil]
        · exact poised.candid
        · exact poised.silent
        · exact all_taken
    | ended outcome =>
        rw [turn] at ordinary
        exact endExchange_reckoning poised still_leased _ _ (endingOf_follows _ ordinary all_taken)
    | crashed =>
        refine .ofSilent rfl ?_
        rw [Run.after_snd, verdicts_append, poised.silent, Run.after_snd, verdicts_append,
          (dropLease_inert _ _).silent, (leave_inert _ _ _).silent]
        rfl

theorem beginExchange_reckoning {id : ExecutionId} {e : Execution σ} {trace : List Action}
    (h : Poised id e trace) (leased : e.completion.slot = .leased) (none_taken : aborts trace = [])
    (pipeline : Pipeline) (connection : Connection σ) (now : Instant) :
    Reckoning id ((e.beginExchange pipeline connection now).after trace) := by
  obtain ⟨opening, x, begun, only, _⟩ := e.beginExchange_opening pipeline connection now
  have inert := only.inert_of_opening
  rw [begun, Run.after_after]
  refine pollExchange_reckoning (h.extend opening inert) leased ?_ x _ now
  rw [aborts_append, none_taken, inert.aborts_eq_nil]
  rfl

theorem useConnection_reckoning {id : ExecutionId} {e : Execution σ} {trace : List Action}
    (h : Poised id e trace) (none_taken : aborts trace = []) (connection : Connection σ)
    (now : Instant) : Reckoning id ((e.useConnection connection now).after trace) := by
  have leased : Poised id { e with completion := e.completion.attach, acquisition := .taken }
      (trace ++ [.leased connection.id]) := by
    have told := h.extend [.leased connection.id] (by simp [Action.isInert])
    exact ⟨told.candid.attach, told.silent⟩
  have still_none : aborts (trace ++ [.leased connection.id]) = [] := by
    rw [aborts_append, none_taken]
    rfl
  unfold useConnection
  dsimp only
  rw [Run.after_after]
  split
  · exact beginExchange_reckoning leased (Completion.attach_slot _) still_none _ _ now
  · rename_i failure unknown
    have own : failure.isCancellation = false := by
      unfold Pipeline.configure at unknown
      split at unknown <;> cases unknown
      rfl
    have follows : (Ending.failure failure.text failure).Follows id
        (trace ++ [.leased connection.id]) := .inl ⟨still_none, own⟩
    exact closeLease_reckoning leased (Completion.attach_slot _) follows _ none

theorem pollAcquire_reckoning {id : ExecutionId} {e : Execution σ} {trace : List Action}
    (h : Poised id e trace) (attached : (Stage.acquiring : Stage σ).Attached e.completion)
    (none_taken : aborts trace = []) (now : Instant) :
    Reckoning id ((e.pollAcquire now).after trace) := by
  cases acquisition : e.acquisition with
  | waiting | taken =>
      rw [pollAcquire_of_unanswered (by simp [acquisition])]
      refine .ofCandid ?_ ?_ attached ?_
      all_goals rw [Run.after_snd, List.append_nil]
      · exact h.candid
      · exact h.silent
      · exact none_taken
  | refused error =>
      have inert : Only Action.isInert [.refused error] := by simp [Action.isInert]
      have refused : Poised id { e with acquisition := .taken } (trace ++ [.refused error]) :=
        have told := h.extend _ inert
        ⟨told.candid, told.silent⟩
      have follows : (Ending.failure ("Failed to create connection to " ++ e.uri)
          (.lease error)).Follows id (trace ++ [.refused error]) := by
        refine .inl ⟨?_, rfl⟩
        rw [aborts_append, none_taken, inert.aborts_eq_nil]
        rfl
      have told := finish_reckoning refused follows none
      rw [← Run.after_after] at told
      unfold pollAcquire
      rw [acquisition]
      exact told
  | granted connection =>
      rw [pollAcquire_of_granted acquisition]
      exact useConnection_reckoning h none_taken connection now

namespace Reckoning

variable {id : ExecutionId} {run : Run σ}

omit [Transport σ] in
/-- A task that is still there is poised for its next poll. -/
theorem poised (h : Reckoning id run) (present : run.1.stage.isGone = false) :
    Poised id run.1 run.2 :=
  ⟨h.candid present, h.silent present⟩

omit [Transport σ] in
/-- What happens elsewhere leaves the reckoning as it is. -/
theorem kept (h : Reckoning id run) {next : Execution σ}
    (completion : next.completion = run.1.completion) (handler : next.handler = run.1.handler)
    (departed : next.stage.isGone = run.1.stage.isGone)
    (attached : next.stage.Attached run.1.completion) (follows : next.stage.Follows id run.2) :
    Reckoning id (Run.after (next, []) run.2) := by
  refine ⟨?_, ?_, ?_, ?_, ?_⟩
  all_goals rw [Run.after_fst]
  · rw [Run.after_snd, List.append_nil, completion, departed]
    exact h.candid
  · rw [Run.after_snd, List.append_nil, departed]
    exact h.silent
  · rw [completion]
    exact attached
  · rw [Run.after_snd, List.append_nil]
    exact follows
  · rw [Run.after_snd, List.append_nil, completion, handler]
    exact h.told

theorem poll (h : Reckoning id run) (now : Instant) :
    Reckoning id ((run.1.poll now).after run.2) := by
  have follows := h.follows
  have attached := h.attached
  unfold Execution.poll
  cases stage : run.1.stage with
  | created | acquiring =>
      rw [stage] at follows attached
      exact pollAcquire_reckoning (h.poised (by rw [stage]; rfl)) attached follows now
  | exchanging x lease =>
      rw [stage] at follows attached
      exact pollExchange_reckoning (h.poised (by rw [stage]; rfl)) attached follows x lease now
  | closing connection ending body =>
      rw [stage] at follows attached
      exact pollClose_reckoning (h.poised (by rw [stage]; rfl)) attached follows connection body
  | gone departure body =>
      exact h.kept rfl rfl rfl h.attached h.follows

omit [Transport σ] in
/-- Once the handler has heard of the end, a cancellation comes too late for the future too. -/
theorem cancel (h : Reckoning id run) : Reckoning id (run.1.cancel.after run.2) where
  candid present := (h.candid present).cancel
  silent present := by
    rw [Execution.cancel, Run.after_snd, verdicts_append, h.silent present]
    rfl
  attached := h.attached.cancel
  follows := h.follows.extend rfl
  told calm verdict member := by
    rw [Execution.cancel, Run.after_snd, verdicts_append] at member
    have told_before : verdict ∈ verdicts run.2 := by simpa using member
    obtain ⟨settled, result, yields, won, agrees⟩ := h.told calm verdict told_before
    have refused : run.1.completion.cancel = (false, run.1.completion) := by
      simp [Completion.cancel, Completion.complete_of_settled settled]
    have no_other : ¬Cancelled [.cancel false] := by simp [Cancelled]
    rw [Execution.cancel, refused, Run.after_snd, cancelled_append, aborts_append,
      or_iff_left no_other]
    exact ⟨settled, result, yields, won, by simpa using agrees⟩

omit [Transport σ] in
theorem drop (h : Reckoning id run) : Reckoning id (run.1.drop.after run.2) := by
  cases present : run.1.stage.isGone with
  | true =>
      have stays : run.1.drop = (run.1, []) := run.1.drop_of_gone present
      rw [stays]
      exact h.kept rfl rfl rfl h.attached h.follows
  | false =>
      obtain ⟨body, gone⟩ := (run.1.drop_dropping present).gone
      refine .ofSilent gone ?_
      rw [Run.after_snd, verdicts_append, h.silent present, run.1.drop_inert.silent]
      rfl

/-- Every stimulus keeps the reckoning. -/
theorem respond (h : Reckoning id run) (stimulus : Stimulus σ) :
    Reckoning id ((run.1.respond stimulus).after run.2) := by
  cases stimulus with
  | poll now => exact h.poll now
  | drop => exact h.drop
  | cancel => exact h.cancel
  | answer given =>
      have handler : (run.1.answer given).handler = run.1.handler := by
        unfold answer
        split <;> rfl
      have stage := run.1.answer_stage given
      refine h.kept (run.1.answer_completion given) handler (by rw [stage]) ?_ ?_
      · rw [stage]
        exact h.attached
      · rw [stage]
        exact h.follows
  | transport id change =>
      have alike := run.1.stage.alike_mapConnection (·.changeTransport id change)
      exact h.kept rfl rfl alike.isGone (h.attached.alike alike) (h.follows.alike alike)
  | feed items close =>
      have alike := run.1.stage.alike_mapBody (·.feed items close)
      exact h.kept rfl rfl alike.isGone (h.attached.alike alike) (h.follows.alike alike)

end Reckoning

section Life

variable (id : ExecutionId) (request : Request) (timeouts : Timeouts) (handler : Handler)
  (acquisition : Acquisition σ)

theorem life_reckoning (history : List (Stimulus σ)) :
    Reckoning id (life id request timeouts handler acquisition history) := by
  refine life_invariant id request timeouts handler acquisition (fun _ run => Reckoning id run)
    ?_ (fun _ stimulus h => h.respond stimulus) history
  have fresh : (Completion.fresh id).Candid id [.acquire] :=
    Completion.fresh_candid id (by simp [Cancelled])
  exact .ofCandid fresh rfl (.inl rfl) rfl

/-- Once the handler has heard the end of an execution and its future yields a result, the two
agree, unless a cancellation settled the result and the exchange did not take its abort any
more. Then they do not agree, and the result is the cancellation. -/
theorem result_agrees_iff_abort_taken (history : List (Stimulus σ))
    (calm : ∀ callback, (handler callback).breaksOff = false) (verdict : Callback)
    (result : Result)
    (told : verdict ∈ verdicts (life id request timeouts handler acquisition history).2)
    (yields :
      (life id request timeouts handler acquisition history).1.completion.await = some result) :
    let trace := (life id request timeouts handler acquisition history).2
    (result.Agrees verdict ↔ (Cancelled trace → aborts trace ≠ [])) ∧
      (¬result.Agrees verdict → result = .failure (Failure.cancelled id).classify) := by
  intro trace
  have reckoning := life_reckoning id request timeouts handler acquisition history
  have custody := life_custody id request timeouts handler acquisition history
  have same_handler : (life id request timeouts handler acquisition history).1.handler = handler :=
    congrArg (·.2.2) custody.setting
  have still_calm : (life id request timeouts handler acquisition history).1.handler.IsCalm := by
    rw [same_handler]
    exact calm
  obtain ⟨settled, settled_result, settled_with, won, agrees⟩ :=
    reckoning.told still_calm verdict told
  have same : settled_result = result := by
    unfold Completion.await at yields
    rw [settled_with] at yields
    exact Option.some.inj yields
  rw [same] at won agrees
  refine ⟨agrees, fun disagrees => ?_⟩
  rw [agrees, Classical.not_imp] at disagrees
  exact won disagrees.1

end Life

/-- A plain exchange that is cancelled takes the abort, and both hear of the cancellation. -/
theorem result_agrees_iff_abort_taken_plain :
    let trace := (Bench.plainLife [.poll ⟨0⟩, .cancel, .transport ⟨7⟩ fun wire =>
      { wire with holdsClose := false }, .poll ⟨0⟩]).2
    (Result.failure (Failure.cancelled 1).classify).Agrees
        (.failed (Failure.cancelled 1).classify) ↔ (Cancelled trace → aborts trace ≠ []) := by
  have told : verdicts (Bench.plainLife [.poll ⟨0⟩, .cancel, .transport ⟨7⟩ fun wire =>
      { wire with holdsClose := false }, .poll ⟨0⟩]).2 =
        [.failed (Failure.cancelled 1).classify] := by decide +kernel
  exact (result_agrees_iff_abort_taken 1 Bench.plainRequest .standard .quiet
    (.granted Bench.stickyConnection) _ (fun _ => rfl) _ _
    (told ▸ List.mem_singleton_self _) (by decide +kernel)).1

/-- A response that is complete before its request could be written leaves the connection to
be closed. A cancellation during this close fails the future, and then the handler is told that
all went well. -/
theorem late_cancellation_disagrees :
    let connection : Connection Bench.Wire :=
      { Bench.stickyConnection with
        transport := ⟨some 0, none, none, none, none, false, true, [.frame (.single .finish)]⟩ }
    let run := life 1 { Bench.plainRequest with isFullDuplex := true } .standard .quiet
      (.granted connection) [.poll ⟨0⟩, .cancel, .transport ⟨7⟩ fun wire =>
        { wire with holdsClose := false }, .poll ⟨0⟩]
    verdicts run.2 = [.complete] ∧
      run.1.completion.await = some (.failure (Failure.cancelled 1).classify) ∧
      ¬(Result.failure (Failure.cancelled 1).classify).Agrees .complete := by
  refine ⟨by decide +kernel, by decide +kernel, ?_⟩
  intro agrees
  cases agrees.1.mp rfl

end Execution

end HttpExchange
