import HttpExchange.Proofs.Account
import HttpExchange.Proofs.Cancellation

/-!
When the handler and the future agree on the end of an execution. They do if both are told the same
ending. If a cancellation settled the future before, they do exactly if the exchange took the abort
of it.
-/

namespace HttpExchange

open Trace

variable {σ : Type}

/-- The future yields success exactly if the handler heard of it, and otherwise a fault of the
category and the cause that the handler heard of. -/
def Result.Agrees (result : Result) (verdict : Callback) : Prop :=
  (verdict = .complete ↔ result = .success) ∧
    ∀ fault, verdict = .failed fault → ∃ other, result = .failure other ∧
      other.category = fault.category ∧ other.cause = fault.cause

namespace Completion

theorem complete_of_settled {c : Completion} (settled : c.isSettled = true) (result : Result) :
    c.complete result = (false, c) := by
  simp [complete, settled]

theorem complete_of_open {c : Completion} (unsettled : c.isSettled = false) (result : Result) :
    c.complete result = (true, { c with isSettled := true, result := some result }) := by
  simp [complete, unsettled]

theorem cancel_slot {c : Completion} (leased : c.slot = .leased) : c.cancel.2.slot = .leased := by
  cases settled : c.isSettled <;> simp [cancel, complete, settled, abort, leased]

theorem attach_slot (c : Completion) : c.attach.slot = .leased := by
  unfold attach
  split <;> rfl

/-- While an exchange is driven its queue stays where it is. -/
theorem leased_steady : Steady fun c _ => c.slot = .leased where
  extend _ leased _ := leased
  cancel leased := cancel_slot leased
  takeAbort leased := by
    unfold takeAbort
    split <;> exact leased

theorem complete_isSettled (c : Completion) (result : Result) :
    (c.complete result).2.isSettled = true := by
  cases settled : c.isSettled with
  | true => rw [complete_of_settled settled]; exact settled
  | false => rw [complete_of_open settled]

end Completion

namespace Handler

/-- The handler never breaks off. -/
def IsCalm (h : Handler) : Prop := ∀ callback, (h callback).breaksOff = false

theorem call_brokeOff (h : Handler) (callback : Callback) (c : Completion) :
    (h.call callback c).brokeOff = (h callback).breaksOff := by
  unfold call
  dsimp only
  split <;> rfl

theorem call_verdicts (h : Handler) {callback : Callback} (c : Completion)
    (last : callback.isVerdict = true) :
    verdicts (h.call callback c).actions = [callback] := by
  unfold call
  dsimp only
  split <;> simp [last]

theorem call_aborts (h : Handler) (callback : Callback) (c : Completion) :
    aborts (h.call callback c).actions = [] := by
  unfold call
  dsimp only
  split <;> rfl

end Handler

namespace Ending

/-- What the handler is told. -/
def verdict : Ending → Callback
  | .success => .complete
  | .failure _ cause => .failed cause.classify

/-- What the future is told, unless it is settled. -/
def result : Ending → Result
  | .success => .success
  | .failure _ cause => .failure cause.classify

/-- The ending is the cancellation's if an abort was taken, and its own otherwise. -/
def Follows (id : ExecutionId) (trace : List Action) : Ending → Prop
  | .success => aborts trace = []
  | .failure _ cause =>
    (aborts trace = [] ∧ cause.isCancellation = false) ∨
      (aborts trace ≠ [] ∧ cause = .cancelled id)

theorem result_agrees (ending : Ending) : ending.result.Agrees ending.verdict := by
  cases ending with
  | success => exact ⟨⟨fun _ => rfl, fun _ => rfl⟩, fun fault failed => by cases failed⟩
  | failure message cause =>
      refine ⟨⟨fun told => (by cases told), fun told => (by cases told)⟩, ?_⟩
      intro fault failed
      cases failed
      exact ⟨_, rfl, rfl, rfl⟩

/-- A future that was cancelled agrees with the handler exactly if an abort was taken. -/
theorem Follows.cancelled_agrees_iff {id : ExecutionId} {trace : List Action} {ending : Ending}
    (h : ending.Follows id trace) :
    (Result.failure (Failure.cancelled id).classify).Agrees ending.verdict ↔
      aborts trace ≠ [] := by
  cases ending with
  | success =>
      have none_taken : aborts trace = [] := h
      refine ⟨fun agrees => ?_, fun some_taken => absurd none_taken some_taken⟩
      cases agrees.1.mp rfl
  | failure message cause =>
      rcases h with ⟨none_taken, own⟩ | ⟨some_taken, rfl⟩
      · refine ⟨fun agrees => ?_, fun some_taken => absurd none_taken some_taken⟩
        obtain ⟨other, same, _, told⟩ := agrees.2 _ rfl
        cases same
        have is_cancellation : cause = .cancelled id := told.symm
        rw [is_cancellation] at own
        cases own
      · exact ⟨fun _ => some_taken, fun _ => result_agrees (.failure message (.cancelled id))⟩

/-- As long as no other abort is taken, an ending came about as before. -/
theorem Follows.extend {id : ExecutionId} {trace : List Action} {ending : Ending}
    (h : ending.Follows id trace) {actions : List Action} (none_taken : aborts actions = []) :
    ending.Follows id (trace ++ actions) := by
  have same : aborts (trace ++ actions) = aborts trace := by
    rw [aborts_append, none_taken, List.append_nil]
  cases ending with
  | success => exact same.trans h
  | failure message cause =>
      simp only [Follows, same]
      exact h

end Ending

/-- A completion that is told an ending agrees with it, unless a cancellation came first and
the ending is not that of its abort. -/
theorem Completion.Candid.agrees_of_complete {id : ExecutionId} {c : Completion}
    {trace : List Action} (h : c.Candid id trace) {ending : Ending}
    (follows : ending.Follows id trace) :
    ∃ result, (c.complete ending.result).2.result = some result ∧
      (Cancelled trace → result = .failure (Failure.cancelled id).classify) ∧
      (result.Agrees ending.verdict ↔ (Cancelled trace → aborts trace ≠ [])) := by
  by_cases cancelled : Cancelled trace
  · obtain ⟨settled, yields⟩ := h.cancelled cancelled
    refine ⟨_, by rw [complete_of_settled settled]; exact yields, fun _ => rfl, ?_⟩
    rw [follows.cancelled_agrees_iff]
    exact ⟨fun some_taken _ => some_taken, fun some_taken => some_taken cancelled⟩
  · refine ⟨ending.result, by rw [complete_of_open (h.uncancelled cancelled).1],
      fun won => absurd won cancelled, ?_⟩
    exact ⟨fun _ won => absurd won cancelled, fun _ => ending.result_agrees⟩

namespace Stage

/-- Only a task that waits for the close has an ending in mind, and no other that is still
there has taken an abort. -/
def Follows (id : ExecutionId) (trace : List Action) : Stage σ → Prop
  | closing _ ending _ => ending.Follows id trace
  | gone _ _ => True
  | _ => aborts trace = []

/-- As long as no other abort is taken, a stage came about as before. -/
theorem Follows.extend {id : ExecutionId} {trace : List Action} {stage : Stage σ}
    (h : stage.Follows id trace) {actions : List Action} (none_taken : aborts actions = []) :
    stage.Follows id (trace ++ actions) := by
  cases stage with
  | closing connection ending body => exact Ending.Follows.extend h none_taken
  | gone departure body => trivial
  | created | acquiring | exchanging _ _ =>
      have none_before : aborts trace = [] := h
      change aborts (trace ++ actions) = []
      rw [aborts_append, none_before, none_taken]
      rfl

theorem Follows.alike {id : ExecutionId} {trace : List Action} {stage other : Stage σ}
    (h : stage.Follows id trace) (alike : stage.Alike other) : other.Follows id trace := by
  cases alike <;> exact h

/-- Where an abort goes. Before the task has its connection only the abort of a cancellation
that won is parked, and from then on the connection's queue takes them, up to the release. -/
def Attached (c : Completion) : Stage σ → Prop
  | created | acquiring =>
    c.slot = .unleased ∨ c.isSettled = true ∧ ∃ abort, c.slot = .parked abort
  | exchanging _ _ | closing _ _ _ => c.slot = .leased
  | gone _ _ => True

theorem Attached.cancel {c : Completion} {stage : Stage σ} (h : stage.Attached c) :
    stage.Attached c.cancel.2 := by
  cases settled : c.isSettled with
  | true =>
      have refused : c.cancel = (false, c) := by
        simp [Completion.cancel, Completion.complete, settled]
      rw [refused]
      exact h
  | false =>
      cases stage with
      | created | acquiring =>
          have unleased : c.slot = .unleased := h.resolve_right (by simp [settled])
          refine .inr ?_
          simp [Completion.cancel, Completion.complete, settled, Completion.abort, unleased]
      | exchanging x lease => exact Completion.cancel_slot h
      | closing connection ending body => exact Completion.cancel_slot h
      | gone departure body => trivial

theorem Attached.alike {c : Completion} {stage other : Stage σ} (h : stage.Attached c)
    (alike : stage.Alike other) : other.Attached c := by
  cases alike <;> exact h

end Stage

end HttpExchange
