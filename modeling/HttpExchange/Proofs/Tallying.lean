import HttpExchange.Proofs.Settlement

/-!
The completions of an execution that won. There is at most one, it is the result of the future, and
neither an abort nor driving an exchange changes it, unless the handler cancels.
-/

namespace HttpExchange

open Trace

variable {σ : Type}

/-- What a future yields if its task goes away without a result. -/
def Result.abandoned : Result := .failure Failure.abandoned.classify

namespace Action

/-- The result that a completion or a cancellation settled. -/
def result? (id : ExecutionId) : Action → Option Result
  | settle result true => some result
  | cancel true => some (.failure (Failure.cancelled id).classify)
  | _ => none

/-- Completes the result, or fails to. -/
def isSettle : Action → Bool
  | settle _ _ => true
  | _ => false

end Action

namespace Trace

/-- All results that completions and cancellations settled. -/
abbrev results (id : ExecutionId) (trace : List Action) : List Result :=
  trace.filterMap (Action.result? id)

theorem results_append (id : ExecutionId) (first second : List Action) :
    results id (first ++ second) = results id first ++ results id second :=
  List.filterMap_append

theorem Only.results_of_cancel {id : ExecutionId} {trace : List Action}
    (cancels : Only Action.isCancel trace) (lost : ¬Cancelled trace) :
    results id trace = [] := by
  rw [List.filterMap_eq_nil_iff]
  intro action member
  cases action with
  | cancel won =>
      cases won with
      | false => rfl
      | true => exact absurd member lost
  | _ => cases cancels _ member

/-- What does not complete the result can only be a cancellation. -/
theorem results_filter_isCancel {id : ExecutionId} {trace : List Action}
    (unsettling : Only (fun action => !action.isSettle) trace) :
    results id (trace.filter Action.isCancel) = results id trace := by
  rw [results, List.filterMap_filter]
  refine List.filterMap_congr fun action member => ?_
  have not_settle := unsettling action member
  cases action with
  | settle _ _ => cases not_settle
  | _ => rfl

end Trace

namespace Completion

/-- A completion has the result that was settled, and there is at most one. -/
structure Tally (id : ExecutionId) (c : Completion) (trace : List Action) : Prop where
  execution : c.execution = id
  settled : c.isSettled = c.result.isSome
  won : results id trace = c.result.toList

theorem fresh_tally (id : ExecutionId) {trace : List Action}
    (none_won : results id trace = []) : (fresh id).Tally id trace :=
  ⟨rfl, rfl, none_won⟩

/-- An abort does not touch the result. -/
theorem abort_same (c : Completion) (failure : Failure) :
    (c.abort failure).execution = c.execution ∧ (c.abort failure).isSettled = c.isSettled ∧
      (c.abort failure).result = c.result := by
  unfold abort
  split <;> exact ⟨rfl, rfl, rfl⟩

namespace Tally

variable {id : ExecutionId} {c : Completion} {trace : List Action}

theorem await (h : Tally id c trace) : c.await = c.result := by
  have settled := h.settled
  unfold Completion.await
  cases result : c.result with
  | some yields => rfl
  | none => simp [settled, result]

/-- A completion with the same result, after something that settled none. -/
theorem same (h : Tally id c trace) {next : Completion} {actions : List Action}
    (execution : next.execution = c.execution) (isSettled : next.isSettled = c.isSettled)
    (result : next.result = c.result) (none_won : results id actions = []) :
    Tally id next (trace ++ actions) where
  execution := execution.trans h.execution
  settled := by rw [isSettled, result, h.settled]
  won := by rw [results_append, none_won, List.append_nil, result, h.won]

theorem extend (h : Tally id c trace) {actions : List Action}
    (none_won : results id actions = []) : Tally id c (trace ++ actions) :=
  h.same rfl rfl rfl none_won

theorem attach (h : Tally id c trace) : Tally id c.attach trace := by
  unfold Completion.attach
  split <;> exact ⟨h.execution, h.settled, h.won⟩

theorem detach (h : Tally id c trace) : Tally id c.detach trace :=
  ⟨h.execution, h.settled, h.won⟩

/-- The first completion settles its result and every later one none. -/
theorem complete (h : Tally id c trace) (result : Result) :
    Tally id (c.complete result).2 (trace ++ [.settle result (c.complete result).1]) := by
  cases settled : c.isSettled with
  | true =>
      rw [complete_of_settled settled]
      exact h.extend rfl
  | false =>
      have no_result : c.result = none := by simpa [settled] using h.settled
      rw [complete_of_open settled]
      refine ⟨h.execution, rfl, ?_⟩
      rw [results_append, h.won, no_result]
      rfl

end Tally

/-- Cancelling completes the result with the cancellation. -/
theorem steady_results (id : ExecutionId) (before : List Result) :
    Steady fun c trace => c.execution = id ∧ c.isSettled = c.result.isSome ∧
      before ++ results id (trace.filter Action.isCancel) = c.result.toList where
  extend actions h lost := by
    have none_won : results id (actions.filter Action.isCancel) = [] :=
      Only.results_of_cancel (fun action member => (List.mem_filter.mp member).2)
        fun cancelled => lost (List.mem_filter.mp cancelled).1
    rw [List.filter_append, results_append, none_won, List.append_nil]
    exact h
  cancel {c trace} h := by
    obtain ⟨execution, settled, won⟩ := h
    cases isSettled : c.isSettled with
    | true =>
        rw [cancel_of_settled isSettled, List.filter_append, results_append]
        exact ⟨execution, settled, (congrArg (before ++ ·) (List.append_nil _)).trans won⟩
    | false =>
        have no_result : c.result = none := by simpa [isSettled] using settled
        rw [no_result] at won
        obtain ⟨same_execution, same_settled, same_result⟩ :=
          ({ c with isSettled := true, result := some (.failure c.cancellation.classify) } :
            Completion).abort_same c.cancellation
        have cancelled : c.cancel = (true, ({ c with
            isSettled := true
            result := some (.failure c.cancellation.classify) } : Completion).abort
              c.cancellation) := by
          simp [Completion.cancel, complete_of_open isSettled]
        rw [cancelled]
        refine ⟨same_execution.trans execution, by rw [same_settled, same_result]; rfl, ?_⟩
        rw [List.filter_append, results_append, ← List.append_assoc, won, same_result,
          cancellation, execution]
        rfl
  takeAbort h := by
    unfold takeAbort
    split <;> exact h

namespace Tally

variable {id : ExecutionId} {c next : Completion} {trace actions : List Action}

/-- What only cancels counts as it does. -/
theorem steadily (h : Tally id c trace)
    (unsettling : Only (fun action => !action.isSettle) actions)
    (moves : ∀ Holds : Completion → List Action → Prop, Steady Holds → Holds c [] →
      Holds next ([] ++ actions)) : Tally id next (trace ++ actions) := by
  obtain ⟨execution, settled, won⟩ := moves _ (steady_results id c.result.toList)
    ⟨h.execution, h.settled, List.append_nil _⟩
  refine ⟨execution, settled, ?_⟩
  rw [results_append, h.won, ← won, List.nil_append, results_filter_isCancel unsettling]

theorem cancel (h : Tally id c trace) : Tally id c.cancel.2 (trace ++ [.cancel c.cancel.1]) :=
  h.steadily (by simp [Action.isSettle]) fun _ steady start => steady.cancel start

theorem call (h : Tally id c trace) (handler : Handler) (callback : Callback) :
    Tally id (handler.call callback c).completion
      (trace ++ (handler.call callback c).actions) := by
  refine h.steadily ?_ fun _ steady start => steady.call start handler callback
  unfold Handler.call
  dsimp only
  split <;> simp [Action.isSettle]

theorem poll [Transport σ] (h : Tally id c trace) (x : Exchange) (lease : Lease σ)
    (handler : Handler) (now : Instant) :
    Tally id (x.poll lease handler c now).completion
      (trace ++ (x.poll lease handler c now).actions) := by
  refine h.steadily ?_ fun _ steady start => steady.poll start x lease handler now
  refine (x.poll_driving lease handler c now).mono fun action driving => ?_
  cases action <;> first | rfl | cases driving

end Tally

end Completion

end HttpExchange
