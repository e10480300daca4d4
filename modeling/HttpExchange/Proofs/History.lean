import HttpExchange.Bench.Wire
import HttpExchange.Proofs.Driving
import Mathlib.Data.List.Induction
import Mathlib.Data.List.Infix

/-!
Histories of an execution. What holds before the first stimulus and is kept by every stimulus
holds after every history, and a history can be cut anywhere. The pool's answer to an
execution is the one it began with, or else the first that its history brings, and the
execution shows this answer until its task takes it.
-/

namespace HttpExchange

variable {σ : Type}

/-- The answer of the pool that a stimulus brings. -/
def Stimulus.answer? : Stimulus σ → Option (Except LeaseError (Connection σ))
  | .answer given => some given
  | _ => none

namespace Acquisition

/-- The pool's answer by the end of a history that began with `acquisition`. -/
def answerBy (acquisition : Acquisition σ) (history : List (Stimulus σ)) :
    Option (Except LeaseError (Connection σ)) :=
  match acquisition with
  | waiting => history.findSome? Stimulus.answer?
  | granted connection => some (.ok connection)
  | refused error => some (.error error)
  | taken => none

/-- The pool answers once, so a longer history does not change its answer. -/
theorem answerBy_append {acquisition : Acquisition σ} {history : List (Stimulus σ)}
    {answer : Except LeaseError (Connection σ)}
    (known : acquisition.answerBy history = some answer) (later : List (Stimulus σ)) :
    acquisition.answerBy (history ++ later) = some answer := by
  cases acquisition with
  | waiting =>
      have found : history.findSome? Stimulus.answer? = some answer := known
      simp [answerBy, List.findSome?_append, found]
  | granted _ | refused _ | taken => exact known

theorem answerBy_concat {acquisition : Acquisition σ} {history : List (Stimulus σ)}
    {answer : Except LeaseError (Connection σ)}
    (known : acquisition.answerBy history = some answer) (stimulus : Stimulus σ) :
    acquisition.answerBy (history ++ [stimulus]) = some answer :=
  answerBy_append known [stimulus]

/-- The pool grants one connection. -/
theorem granted_unique {start : Acquisition σ} {history : List (Stimulus σ)}
    {connection other : Connection σ} (granted : start.answerBy history = some (.ok connection))
    (known : start.answerBy history = some (.ok other)) : connection = other :=
  Except.ok.inj (Option.some.inj (granted.symm.trans known))

/-- As long as the pool was not heard of, the next answer is the one that counts. -/
theorem answerBy_concat_of_none {history : List (Stimulus σ)}
    (unknown : (waiting : Acquisition σ).answerBy history = none) (stimulus : Stimulus σ) :
    (waiting : Acquisition σ).answerBy (history ++ [stimulus]) = stimulus.answer? := by
  have none_found : history.findSome? Stimulus.answer? = none := unknown
  simp only [answerBy, List.findSome?_append, none_found, Option.none_or]
  simp

/-- The connection that the pool granted by the end of a history, if it granted one. -/
def grantedBy (start : Acquisition σ) (history : List (Stimulus σ)) : List ConnectionId :=
  match start.answerBy history with
  | some (.ok connection) => [connection.id]
  | _ => []

/-- What an acquisition still shows of the pool's answer. -/
def Reflects (start : Acquisition σ) (history : List (Stimulus σ)) : Acquisition σ → Prop
  | waiting => start = .waiting ∧ start.answerBy history = none
  | granted connection =>
    ∃ given, start.answerBy history = some (.ok given) ∧ connection.bare = given.bare
  | refused error => start.answerBy history = some (.error error)
  | taken => True

theorem grantedBy_of_ok {start : Acquisition σ} {history : List (Stimulus σ)}
    {connection : Connection σ} (known : start.answerBy history = some (.ok connection)) :
    start.grantedBy history = [connection.id] := by
  simp [grantedBy, known]

theorem grantedBy_of_error {start : Acquisition σ} {history : List (Stimulus σ)}
    {error : LeaseError} (known : start.answerBy history = some (.error error)) :
    start.grantedBy history = [] := by
  simp [grantedBy, known]

theorem grantedBy_concat {start : Acquisition σ} {history : List (Stimulus σ)}
    (answered : start.answerBy history ≠ none) (stimulus : Stimulus σ) :
    start.grantedBy (history ++ [stimulus]) = start.grantedBy history := by
  obtain ⟨answer, known⟩ := Option.ne_none_iff_exists'.mp answered
  simp [grantedBy, known, answerBy_concat known stimulus]

theorem grantedBy_isPrefix_concat (start : Acquisition σ) (history : List (Stimulus σ))
    (stimulus : Stimulus σ) :
    start.grantedBy history <+: start.grantedBy (history ++ [stimulus]) := by
  cases known : start.answerBy history with
  | none => simp [grantedBy, known]
  | some answer =>
      rw [grantedBy_concat (by simp [known]) stimulus]

/-- What an acquisition shows stays true when something else than an answer happens. -/
theorem Reflects.concat {start now : Acquisition σ} {history : List (Stimulus σ)}
    (h : start.Reflects history now) {stimulus : Stimulus σ} (silent : stimulus.answer? = none) :
    start.Reflects (history ++ [stimulus]) now := by
  cases now with
  | waiting =>
      obtain ⟨rfl, unknown⟩ := h
      exact ⟨rfl, (answerBy_concat_of_none unknown stimulus).trans silent⟩
  | granted connection =>
      obtain ⟨given, known, same⟩ := h
      exact ⟨given, answerBy_concat known stimulus, same⟩
  | refused error => exact answerBy_concat h stimulus
  | taken => trivial

theorem reflects_self (acquisition : Acquisition σ) : acquisition.Reflects [] acquisition := by
  cases acquisition with
  | waiting => exact ⟨rfl, rfl⟩
  | granted connection => exact ⟨connection, rfl, rfl⟩
  | refused error => rfl
  | taken => trivial

theorem Reflects.mapConnection {start now : Acquisition σ} {history : List (Stimulus σ)}
    (h : start.Reflects history now) (id : ConnectionId) (change : σ → σ) :
    start.Reflects history (now.mapConnection (·.changeTransport id change)) := by
  cases now with
  | granted connection =>
      obtain ⟨given, known, same⟩ := h
      exact ⟨given, known, by rw [Connection.bare_changeTransport]; exact same⟩
  | waiting | refused _ | taken => exact h

end Acquisition

namespace Execution

theorem answer_reflects {start : Acquisition σ} {history : List (Stimulus σ)}
    (e : Execution σ) (h : start.Reflects history e.acquisition)
    (given : Except LeaseError (Connection σ)) :
    start.Reflects (history ++ [.answer given]) (e.answer given).acquisition := by
  cases waiting : e.acquisition with
  | waiting =>
      rw [waiting] at h
      obtain ⟨rfl, unknown⟩ := h
      have answered : (Acquisition.waiting : Acquisition σ).answerBy
          (history ++ [.answer given]) = some given :=
        Acquisition.answerBy_concat_of_none unknown _
      unfold answer
      rw [waiting]
      cases given with
      | ok connection => exact ⟨connection, answered, rfl⟩
      | error error => exact answered
  | granted connection =>
      unfold answer
      rw [waiting] at h ⊢
      obtain ⟨given, known, same⟩ := h
      dsimp only
      rw [waiting]
      exact ⟨given, Acquisition.answerBy_concat known _, same⟩
  | refused error =>
      unfold answer
      rw [waiting] at h ⊢
      dsimp only
      rw [waiting]
      exact Acquisition.answerBy_concat h _
  | taken =>
      unfold answer
      rw [waiting]
      dsimp only
      rw [waiting]
      trivial

/-- An answer of the pool waits for the task to take it. -/
@[simp]
theorem answer_stage (e : Execution σ) (given : Except LeaseError (Connection σ)) :
    (e.answer given).stage = e.stage := by
  unfold answer
  split <;> rfl

@[simp]
theorem answer_completion (e : Execution σ) (given : Except LeaseError (Connection σ)) :
    (e.answer given).completion = e.completion := by
  unfold answer
  split <;> rfl

@[simp]
theorem Run.after_fst (run : Run σ) (actions : List Action) : (run.after actions).1 = run.1 :=
  rfl

@[simp]
theorem Run.after_snd (run : Run σ) (actions : List Action) :
    (run.after actions).2 = actions ++ run.2 :=
  rfl

theorem Run.after_after (run : Run σ) (first second : List Action) :
    (run.after second).after first = run.after (first ++ second) := by
  simp [Run.after]

variable [Transport σ]

theorem play_append (e : Execution σ) (first second : List (Stimulus σ)) :
    e.play (first ++ second) = ((e.play first).1.play second).after (e.play first).2 := by
  induction first generalizing e with
  | nil => rfl
  | cons stimulus rest ih =>
      simp only [List.cons_append, play]
      rw [ih, Run.after_after]
      rfl

/-- The life of an execution: what it does from its start over a history. -/
def life (id : ExecutionId) (request : Request) (timeouts : Timeouts) (handler : Handler)
    (acquisition : Acquisition σ) (history : List (Stimulus σ)) : Run σ :=
  let started := start id request timeouts handler acquisition
  (started.1.play history).after started.2

section Life

variable (id : ExecutionId) (request : Request) (timeouts : Timeouts) (handler : Handler)
  (acquisition : Acquisition σ)

theorem life_append (first second : List (Stimulus σ)) :
    life id request timeouts handler acquisition (first ++ second) =
      ((life id request timeouts handler acquisition first).1.play second).after
        (life id request timeouts handler acquisition first).2 := by
  unfold life
  dsimp only
  rw [play_append, Run.after_after]
  rfl

theorem life_concat (past : List (Stimulus σ)) (stimulus : Stimulus σ) :
    life id request timeouts handler acquisition (past ++ [stimulus]) =
      ((life id request timeouts handler acquisition past).1.respond stimulus).after
        (life id request timeouts handler acquisition past).2 := by
  rw [life_append]
  simp [play, Run.after]

/-- What holds of an execution that was just started, and is kept by every stimulus, holds
all its life. The invariant may speak of the history so far and of the whole trace. -/
theorem life_invariant (Holds : List (Stimulus σ) → Run σ → Prop)
    (begins : Holds [] (start id request timeouts handler acquisition))
    (keeps : ∀ past stimulus, Holds past (life id request timeouts handler acquisition past) →
      Holds (past ++ [stimulus])
        (((life id request timeouts handler acquisition past).1.respond stimulus).after
          (life id request timeouts handler acquisition past).2))
    (history : List (Stimulus σ)) :
    Holds history (life id request timeouts handler acquisition history) := by
  induction history using List.reverseRecOn with
  | nil => exact begins
  | append_singleton past stimulus ih =>
      rw [life_concat]
      exact keeps past stimulus ih

end Life

end Execution

namespace Bench

/-- A request without a body. -/
def plainRequest : Request := ⟨⟨"GET", "/", .http11, .empty⟩, .memory .empty, false⟩

/-- A single-stream connection that is asked to close in vain. -/
def stickyConnection : Connection Wire :=
  .ofTransport ⟨7⟩ Protocol.http11.text { Wire.idle with holdsClose := true }

/-- A plain request on the sticky connection, with a handler that only listens. -/
def plainLife (history : List (Stimulus Wire)) : Execution.Run Wire :=
  Execution.life 1 plainRequest .standard .quiet (.granted stickyConnection) history

end Bench

end HttpExchange
