import HttpExchange.Proofs.Polling

/-!
What lasts of the slot that an execution shares with its future. Whatever completions,
cancellations, the lease and the control queue leave as it is, the whole task leaves as it is: the
number of the execution, and a result once it is settled. So a future that yields a result yields
this result for ever; whatever is left of the task may complete it again, and others may cancel
it, but all of them are refused.
-/

namespace HttpExchange

variable {σ : Type}

namespace Completion

/-- What every operation on a completion keeps. -/
structure Lasting (Keeps : Completion → Prop) : Prop where
  complete : ∀ {c : Completion} (result : Result), Keeps c → Keeps (c.complete result).2
  cancel : ∀ {c : Completion}, Keeps c → Keeps c.cancel.2
  attach : ∀ {c : Completion}, Keeps c → Keeps c.attach
  detach : ∀ {c : Completion}, Keeps c → Keeps c.detach
  takeAbort : ∀ {c : Completion}, Keeps c → Keeps c.takeAbort.2

theorem Lasting.steady {Keeps : Completion → Prop} (lasting : Lasting Keeps) :
    Steady fun c _ => Keeps c where
  extend _ h _ := h
  cancel h := lasting.cancel h
  takeAbort h := lasting.takeAbort h

/-- The result is settled. -/
def Yields (c : Completion) (result : Result) : Prop :=
  c.isSettled = true ∧ c.result = some result

theorem Yields.await {c : Completion} {result : Result} (h : c.Yields result) :
    c.await = some result := by
  simp [Completion.await, h.2]

theorem cancel_of_settled {c : Completion} (settled : c.isSettled = true) :
    c.cancel = (false, c) := by
  simp [cancel, complete_of_settled settled]

/-- A completion that is settled stays as it is, whoever cancels. -/
theorem same_of_settled {c later : Completion} (settled : c.isSettled = true)
    (moved : later = c ∨ later = c.cancel.2) : later = c := by
  rcases moved with same | cancelled
  · exact same
  · rw [cancelled, cancel_of_settled settled]

theorem yields_lasting (result : Result) : Lasting (·.Yields result) where
  complete other h := by
    rw [complete_of_settled h.1]
    exact h
  cancel h := by
    rw [cancel_of_settled h.1]
    exact h
  attach h := by
    unfold attach
    split <;> exact h
  detach h := h
  takeAbort h := by
    unfold takeAbort
    split <;> exact h

theorem execution_lasting (id : ExecutionId) : Lasting (·.execution = id) where
  complete result h := by
    unfold complete
    split <;> exact h
  cancel {c} h := by
    cases settled : c.isSettled with
    | true =>
        rw [cancel_of_settled settled]
        exact h
    | false => cases slot : c.slot <;> simp [cancel, complete_of_open settled, abort, slot, h]
  attach h := by
    unfold attach
    split <;> exact h
  detach h := h
  takeAbort h := by
    unfold takeAbort
    split <;> exact h

end Completion

namespace Execution

variable {e : Execution σ} {Keeps : Completion → Prop}

theorem conclude_keeps (lasting : Completion.Lasting Keeps) (h : Keeps e.completion)
    (callback : Callback) (result : Result) (body : Option MeteredBody) :
    Keeps (e.conclude callback result body).1.completion := by
  have called := lasting.steady.call_keeps h e.handler callback
  unfold conclude
  dsimp only
  split
  · exact lasting.complete _ called
  · exact lasting.complete _ (lasting.complete _ called)

theorem finish_keeps (lasting : Completion.Lasting Keeps) (h : Keeps e.completion)
    (ending : Ending) (body : Option MeteredBody) : Keeps (e.finish ending body).1.completion := by
  cases ending with
  | success => exact conclude_keeps lasting h _ _ body
  | failure message failure => exact conclude_keeps lasting h _ _ body

theorem dropLease_keeps (lasting : Completion.Lasting Keeps) (h : Keeps e.completion)
    (lease : Lease σ) : Keeps (e.dropLease lease).1.completion := by
  unfold dropLease
  split
  · exact h
  · exact lasting.detach h

theorem drop_keeps (lasting : Completion.Lasting Keeps) (h : Keeps e.completion) :
    Keeps e.drop.1.completion := by
  have abandoned : Keeps e.abandonAcquisition.completion := by
    unfold abandonAcquisition
    split <;> exact h
  unfold drop
  split
  · exact abandoned
  · exact lasting.complete _ abandoned
  · exact lasting.complete _ (dropLease_keeps lasting h _)
  · exact lasting.complete _ h
  · exact h

variable [Transport σ]

theorem pollClose_keeps (lasting : Completion.Lasting Keeps) (h : Keeps e.completion)
    (connection : Connection σ) (ending : Ending) (body : Option MeteredBody) :
    Keeps (e.pollClose connection ending body).1.completion := by
  unfold pollClose
  dsimp only
  split
  · exact h
  · have released : Keeps (e.release connection.close.2).1.completion := lasting.detach h
    exact finish_keeps lasting released ending body

theorem endExchange_keeps (lasting : Completion.Lasting Keeps) (h : Keeps e.completion)
    (x : Exchange) (lease : Lease σ) (outcome : Outcome) :
    Keeps (e.endExchange x lease outcome).1.completion := by
  unfold endExchange
  dsimp only
  split
  · rename_i connection _ _
    have released : Keeps (e.release connection).1.completion := lasting.detach h
    exact finish_keeps lasting released _ _
  · unfold closeLease
    split
    · exact finish_keeps lasting h _ _
    · exact pollClose_keeps lasting h _ _ _

theorem pollExchange_keeps (lasting : Completion.Lasting Keeps) (h : Keeps e.completion)
    (x : Exchange) (lease : Lease σ) (now : Instant) :
    Keeps (e.pollExchange x lease now).1.completion := by
  have polled := lasting.steady.poll_keeps h x lease e.handler now
  have driven := e.pollExchange_drives x lease now
  generalize e.pollExchange x lease now = run at driven ⊢
  generalize x.poll lease e.handler e.completion now = step at *
  have next : Keeps ({ e with completion := step.completion } : Execution σ).completion := polled
  cases driven with
  | goesOn turn => exact polled
  | ends outcome turn => exact endExchange_keeps lasting next _ _ outcome
  | breaksOff turn => exact lasting.complete _ (dropLease_keeps lasting next _)

theorem poll_keeps (lasting : Completion.Lasting Keeps) (h : Keeps e.completion)
    (now : Instant) : Keeps (e.poll now).1.completion := by
  have leased : Keeps e.leased.completion := lasting.attach h
  have polled := e.poll_polls now
  generalize e.poll now = run at polled ⊢
  cases polled with
  | waits isWaiting unanswered => exact h
  | refused isWaiting error refused message =>
      have taken : Keeps ({ e with acquisition := .taken } : Execution σ).completion := h
      exact finish_keeps lasting taken _ none
  | unframed isWaiting connection granted cause unknown =>
      exact pollClose_keeps lasting leased _ _ none
  | begins isWaiting connection granted p framed x pipeline writeState frames events idle
      opening only =>
      exact pollExchange_keeps lasting leased x _ now
  | drives x lease stage => exact pollExchange_keeps lasting h x lease now
  | closes connection ending body stage => exact pollClose_keeps lasting h connection ending body
  | departed gone => exact h

theorem respond_keeps (lasting : Completion.Lasting Keeps) (h : Keeps e.completion)
    (stimulus : Stimulus σ) : Keeps (e.respond stimulus).1.completion := by
  cases stimulus with
  | poll now => exact poll_keeps lasting h now
  | drop => exact drop_keeps lasting h
  | answer given =>
      rw [respond, answer_completion]
      exact h
  | cancel => exact lasting.cancel h
  | transport _ _ | feed _ _ => exact h

/-- What every operation keeps lasts, whatever happens. -/
theorem play_keeps (lasting : Completion.Lasting Keeps) (h : Keeps e.completion)
    (history : List (Stimulus σ)) : Keeps (e.play history).1.completion := by
  induction history generalizing e with
  | nil => exact h
  | cons stimulus rest ih => exact ih (respond_keeps lasting h stimulus)

/-- An execution keeps its number. -/
theorem life_execution (id : ExecutionId) (request : Request) (timeouts : Timeouts)
    (handler : Handler) (acquisition : Acquisition σ) (history : List (Stimulus σ)) :
    (life id request timeouts handler acquisition history).1.completion.execution = id :=
  play_keeps (Completion.execution_lasting id) rfl history

end Execution

end HttpExchange
