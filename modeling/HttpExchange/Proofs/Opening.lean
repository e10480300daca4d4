import HttpExchange.Proofs.Closing
import HttpExchange.Proofs.Polling

/-!
The exchange that a task polls: the one in progress, or the first one on a connection that was
granted. Any other poll of a task looks for no abort and leaves no exchange in progress.
-/

namespace HttpExchange

open Trace

variable {σ : Type}

namespace Execution

/-- The exchange with which a task begins on a connection that is framed so. -/
def firstExchange (e : Execution σ) (pipeline : Pipeline) (now : Instant) : Exchange :=
  let head := e.request.head
  let body := MeteredBody.ofProducer head.headers e.request.content.produce
  let x := Exchange.ofRequest (.ofBody head body) pipeline e.timeouts
  if e.request.isFullDuplex then x.resumeReads now else x

/-- What the task begins with once it is granted a connection that it can frame. -/
def opening? (e : Execution σ) (now : Instant) : Option (Exchange × Lease σ × Completion) :=
  match e.acquisition with
  | .granted connection =>
    let configured := Pipeline.configure connection
    configured.1.toOption.map fun pipeline =>
      (e.firstExchange pipeline now, ⟨some configured.2⟩, e.completion.attach)
  | _ => none

/-- What a poll of the task polls in its turn, if it polls an exchange: the one in progress, or
the first one on a connection that was granted. -/
def driven? (e : Execution σ) (now : Instant) : Option (Exchange × Lease σ × Completion) :=
  match e.stage with
  | .exchanging x lease => some (x, lease, e.completion)
  | .closing _ _ _ | .gone _ _ => none
  | .created | .acquiring => e.opening? now

variable {e : Execution σ} {now : Instant} {x : Exchange} {lease : Lease σ} {c : Completion}

theorem opening_cases (opening : e.opening? now = some (x, lease, c)) :
    ∃ connection pipeline, e.acquisition = .granted connection ∧
      (Pipeline.configure connection).1 = .ok pipeline ∧ x = e.firstExchange pipeline now ∧
      lease = ⟨some (Pipeline.configure connection).2⟩ ∧ c = e.completion.attach := by
  unfold opening? at opening
  split at opening
  · rename_i connection granted
    obtain ⟨pipeline, framed, same⟩ := Option.map_eq_some_iff.mp opening
    cases configured : (Pipeline.configure connection).1 with
    | error failure =>
        rw [configured] at framed
        cases framed
    | ok other =>
        rw [configured] at framed
        cases framed
        cases same
        exact ⟨connection, pipeline, granted, configured, rfl, rfl, rfl⟩
  · cases opening

/-- The exchange is the one in progress, or the task begins with it. -/
theorem driven_cases (driven : e.driven? now = some (x, lease, c)) :
    (e.stage = .exchanging x lease ∧ c = e.completion) ∨
      (e.stage.isWaiting = true ∧ e.opening? now = some (x, lease, c)) := by
  unfold driven? at driven
  cases stage : e.stage with
  | exchanging y other =>
      rw [stage] at driven
      cases driven
      exact .inl ⟨rfl, rfl⟩
  | closing _ _ _ | gone _ _ =>
      rw [stage] at driven
      cases driven
  | created | acquiring =>
      rw [stage] at driven
      exact .inr ⟨rfl, driven⟩

theorem driven_of_granted (isWaiting : e.stage.isWaiting = true) {connection : Connection σ}
    (granted : e.acquisition = .granted connection) {pipeline : Pipeline}
    (framed : (Pipeline.configure connection).1 = .ok pipeline) :
    e.driven? now = some (e.firstExchange pipeline now,
      ⟨some (Pipeline.configure connection).2⟩, e.completion.attach) := by
  have opening : e.opening? now = some (e.firstExchange pipeline now,
      ⟨some (Pipeline.configure connection).2⟩, e.completion.attach) := by
    simp only [opening?, granted, framed]
    rfl
  unfold driven?
  cases stage : e.stage with
  | created | acquiring => exact opening
  | _ =>
      rw [stage] at isWaiting
      cases isWaiting

variable [Transport σ]

theorem beginExchange_first (e : Execution σ) (pipeline : Pipeline) (connection : Connection σ)
    (now : Instant) : ∃ before, e.beginExchange pipeline connection now =
      (e.pollExchange (e.firstExchange pipeline now) ⟨some connection⟩ now).after before := by
  unfold beginExchange firstExchange
  dsimp only
  by_cases duplex : e.request.isFullDuplex = true
  · rw [if_pos duplex, if_pos duplex]
    exact ⟨_, rfl⟩
  · rw [if_neg duplex, if_neg duplex]
    exact ⟨_, rfl⟩

/-- What is polled in a poll of the task, and how the task goes on from there. -/
theorem poll_of_driven (driven : e.driven? now = some (x, lease, c)) :
    ∃ acquisition before, e.poll now =
      (({ e with completion := c, acquisition := acquisition } : Execution σ).pollExchange x lease
        now).after before := by
  rcases driven_cases driven with ⟨stage, rfl⟩ | ⟨isWaiting, opens⟩
  · have polled : e.poll now = e.pollExchange x lease now := by
      unfold poll
      rw [stage]
    exact ⟨e.acquisition, [], polled⟩
  · obtain ⟨connection, pipeline, granted, framed, rfl, rfl, rfl⟩ := opening_cases opens
    have acquires : e.poll now = e.useConnection connection now := by
      rw [← pollAcquire_of_granted granted]
      unfold poll
      cases stage : e.stage <;> rw [stage] at isWaiting <;> first | rfl | cases isWaiting
    obtain ⟨before, begun⟩ :=
      e.leased.beginExchange_first pipeline (Pipeline.configure connection).2 now
    have used : e.useConnection connection now =
        (e.leased.beginExchange pipeline (Pipeline.configure connection).2 now).after
          [.leased connection.id] := by
      unfold useConnection
      dsimp only
      rw [framed]
      rfl
    refine ⟨.taken, [.leased connection.id] ++ before, ?_⟩
    rw [acquires, used, begun, Run.after_after]
    rfl

/-- Otherwise no exchange is polled: nobody looks for an abort, and none is in progress. -/
theorem poll_of_undriven (undriven : e.driven? now = none) :
    (∀ abort, .control abort ∉ (e.poll now).2) ∧
      ∀ x lease, (e.poll now).1.stage ≠ .exchanging x lease := by
  have silent {trace : List Action} (parting : Only Action.isParting trace)
      (abort : Option Failure) : .control abort ∉ trace := by
    intro member
    cases parting _ member
  have halts {stage : Stage σ} {body : Option MeteredBody} (remains : stage.remains = some body)
      (x : Exchange) (lease : Lease σ) : stage ≠ .exchanging x lease := by
    rintro rfl
    cases remains
  have closing (e : Execution σ) (connection : Connection σ) (ending : Ending)
      (body : Option MeteredBody) : Only Action.isParting (e.pollClose connection ending body).2 :=
    (e.pollClose_begins connection ending body (rfl : calls [] = [])).1
  have polled := e.poll_polls now
  generalize e.poll now = run at polled ⊢
  cases polled with
  | waits isWaiting unanswered =>
      refine ⟨fun _ => List.not_mem_nil, fun x lease resumed => ?_⟩
      cases resumed
  | refused isWaiting error refused message =>
      rw [Run.after_fst, Run.after_snd]
      refine ⟨fun abort member => ?_, halts (finish_ends _ _ none).remains⟩
      rw [List.mem_append, or_iff_right (by simp)] at member
      exact silent (finish_aside _ _ none).parting_of_aside abort member
  | unframed isWaiting connection granted cause unknown =>
      rw [Run.after_fst, Run.after_snd]
      refine ⟨fun abort member => ?_, halts (pollClose_ends _ _ _ none).remains⟩
      rw [List.mem_append, or_iff_right (by simp)] at member
      exact silent (closing _ _ _ none) abort member
  | begins isWaiting connection granted p framed =>
      rw [driven_of_granted isWaiting granted framed] at undriven
      cases undriven
  | drives x lease stage => simp [driven?, stage] at undriven
  | closes connection ending body stage =>
      exact ⟨silent (closing e connection ending body), halts (pollClose_ends _ _ _ body).remains⟩
  | departed gone =>
      refine ⟨fun _ => List.not_mem_nil, fun x lease stage => ?_⟩
      rw [stage] at gone
      cases gone

end Execution

end HttpExchange
