import HttpExchange.Proofs.Standing

/-!
Polls without a cause. An exchange that waits is polled again, and everything it asks is answered
as it was answered last. Then the poll ends where the one before ended: nothing is written, nothing
is received, no callback is made, and the exchange is as it was, down to its timers. Only the
producer may have counted the question.
-/

namespace HttpExchange

open Trace

namespace Execution

variable {σ : Type} [Transport σ] {before : List Action}

/-- A stimulus under which no answer changes and no timer is due leaves the exchange where it
stands. -/
theorem respond_again {e : Execution σ} {x : Exchange} {lease : Lease σ}
    (stage : e.stage = .exchanging x lease) (stands : x.Stands before)
    (leased : lease.connection.isSome = true) {stimulus : Stimulus σ}
    (undropped : .drop ≠ stimulus)
    (undue : ∀ now, .poll now = stimulus → (x.idle.poll now).1 = none)
    (repeats : Repeats before (e.respond stimulus).2) :
    ∃ producer moved, (e.respond stimulus).1.stage = .exchanging (x.supply producer) moved ∧
      moved.connection.isSome = true ∧ Only Action.isVain (e.respond stimulus).2 := by
  rcases e.respond_exchanging stage stimulus with
    ⟨now, rfl⟩ | rfl | ⟨⟨y, moved, stays, same, fed⟩, cancels, _⟩
  · obtain ⟨connection, held⟩ := Option.isSome_iff_exists.mp leased
    have polled : e.respond (.poll now) = e.pollExchange x lease now := by
      simp only [respond, poll, stage]
    rw [polled] at repeats ⊢
    have vain := x.poll_vain stands held e.handler e.completion now (undue now rfl)
    obtain ⟨still, still_held, -⟩ := x.poll_leased held e.handler e.completion now
    have driven := e.pollExchange_drives x lease now
    generalize e.pollExchange x lease now = run at driven repeats ⊢
    generalize x.poll lease e.handler e.completion now = step at *
    cases driven with
    | goesOn turn =>
        obtain ⟨-, ⟨producer, same⟩, vain⟩ := vain repeats
        refine ⟨producer, step.resource, ?_, by simp [still_held], vain⟩
        rw [same]
    | ends outcome turn =>
        have waits := (vain (repeats.of_subset (List.subset_append_left _ _))).1
        rw [turn] at waits
        cases waits
    | breaksOff turn =>
        have subset : step.actions ⊆ step.actions ++ (({ e with
            completion := step.completion } : Execution σ).dropLease step.resource).2 :=
          List.subset_append_left _ _
        have waits := (vain (repeats.of_subset
          (List.Subset.trans subset (List.subset_append_left _ _)))).1
        rw [turn] at waits
        cases waits
  · exact absurd rfl undropped
  · have still : moved.connection.isSome = true := by
      rw [← Option.isSome_map (f := Connection.bare), same, Option.isSome_map]
      exact leased
    rcases fed with rfl | ⟨items, close, rfl⟩
    · exact ⟨y.frames.body.producer, moved, stays, still, cancels.vain_of_cancel⟩
    · exact ⟨_, moved, stays, still, cancels.vain_of_cancel⟩

/-- However often this happens. -/
theorem play_again {e : Execution σ} {x : Exchange} {lease : Lease σ}
    (stage : e.stage = .exchanging x lease) (stands : x.Stands before)
    (leased : lease.connection.isSome = true) {later : List (Stimulus σ)}
    (undropped : .drop ∉ later) (undue : ∀ now, .poll now ∈ later → (x.idle.poll now).1 = none)
    (repeats : Repeats before (e.play later).2) :
    ∃ producer moved, (e.play later).1.stage = .exchanging (x.supply producer) moved ∧
      Only Action.isVain (e.play later).2 := by
  induction later generalizing e x lease with
  | nil => exact ⟨x.frames.body.producer, lease, stage, only_nil⟩
  | cons stimulus rest ih =>
      rw [List.mem_cons, not_or] at undropped
      simp only [play, Run.after_snd, Run.after_fst] at repeats ⊢
      obtain ⟨producer, moved, stays, still, vain⟩ := respond_again stage stands leased
        undropped.1 (fun now same => undue now (same ▸ List.mem_cons_self))
        (repeats.of_subset (List.subset_append_left _ _))
      obtain ⟨last, there, still_stays, vain_rest⟩ := ih stays (stands.supply producer) still
        undropped.2 (fun now member => undue now (List.mem_cons_of_mem _ member))
        (repeats.of_subset (List.subset_append_right _ _))
      exact ⟨last, there, still_stays, (only_append _ _).mpr ⟨vain, vain_rest⟩⟩

section Life

variable (id : ExecutionId) (request : Request) (timeouts : Timeouts) (handler : Handler)
  (acquisition : Acquisition σ)

/-- Behind a poll that was held back there is nothing to arm. -/
theorem life_armed (past : List (Stimulus σ)) {now : Instant} {x : Exchange} {lease : Lease σ}
    (stage : (life id request timeouts handler acquisition (past ++ [.poll now])).1.stage =
      .exchanging x lease)
    (held : stalled ((life id request timeouts handler acquisition past).1.poll now).2 = true)
    (later : Instant) : x.idle.armWrite later = x.idle := by
  have due := life_stalls id request timeouts handler acquisition (past ++ [.poll now])
  have timed := life_timed id request timeouts handler acquisition (past ++ [.poll now])
  have polled : lifePolls id request timeouts handler acquisition (past ++ [.poll now]) =
      lifePolls id request timeouts handler acquisition past ++
        [(now, ((life id request timeouts handler acquisition past).1.poll now).2)] :=
    lifePolls_concat id request timeouts handler acquisition past (.poll now)
  rw [stage] at due timed
  change x.idle.write.map IdleTimer.deadline = _ at due
  refine IdleWatch.armWrite_of_running ?_ later
  rw [timed.1.configured]
  cases zero : timeouts.write.isZero with
  | true => exact .inr rfl
  | false =>
      refine .inl ?_
      rw [← Option.isSome_map (f := IdleTimer.deadline), due, Timeouts.writeDue_isSome, polled,
        streak_concat_ne_nil]
      exact ⟨zero, held⟩

/-- A poll left the exchange in progress. As long as whatever it asks is answered as it was
answered last, and no timer is due, it stays in progress however often it is polled, and nothing
comes of it: no frame is written, none is received, no callback is made, and the request, the
reading and both timers are where they were. -/
theorem repeated_polls_change_nothing (past : List (Stimulus σ)) (now : Instant) (x : Exchange)
    (lease : Lease σ)
    (stage : (life id request timeouts handler acquisition (past ++ [.poll now])).1.stage =
      .exchanging x lease)
    (later : List (Stimulus σ)) (undropped : .drop ∉ later)
    (undue : ∀ again, .poll again ∈ later → (∀ timer ∈ x.idle.write, timer.isDue again = false) ∧
      ∀ timer ∈ x.idle.read, timer.isDue again = false)
    (repeats :
      let run := life id request timeouts handler acquisition (past ++ [.poll now])
      Repeats run.2 (run.1.play later).2) :
    let run := (life id request timeouts handler acquisition (past ++ [.poll now])).1.play later
    (∃ y moved, run.1.stage = .exchanging y moved ∧ y.writeState = x.writeState ∧
      y.isReading = x.isReading ∧ y.idle = x.idle) ∧
    offered run.2 = [] ∧ received run.2 = [] ∧ callbacks run.2 = [] := by
  obtain ⟨opening, waiting, actions, -, waits⟩ :=
    life_waits id request timeouts handler acquisition past stage
  have armed (held : stalled waiting = true) := life_armed id request timeouts handler acquisition
    past stage (by rw [actions, stalled_append, held, Bool.or_true])
  have trace : (life id request timeouts handler acquisition (past ++ [.poll now])).2 =
      (life id request timeouts handler acquisition past).2 ++ opening ++ waiting := by
    rw [life_concat, List.append_assoc, ← actions]
    rfl
  have stands := waits.stands armed
    ((life id request timeouts handler acquisition past).2 ++ opening)
  rw [← trace] at stands
  have employs := life_employs id request timeouts handler acquisition (past ++ [.poll now])
  rw [stage] at employs
  obtain ⟨connection, -, held, -⟩ := employs
  obtain ⟨producer, moved, stays, vain⟩ := play_again stage stands (by simp [held]) undropped
    (fun again member => (x.idle.poll_eq_none again).mpr (undue again member)) repeats
  exact ⟨⟨x.supply producer, moved, stays, rfl, rfl, rfl⟩, vain.views_of_vain⟩

end Life

end Execution

/-- The timers of an exchange in progress. -/
def Stage.idle? {σ : Type} : Stage σ → Option IdleWatch
  | exchanging x _ => some x.idle
  | _ => none

theorem Stage.exchanging_of_idle {σ : Type} {stage : Stage σ} {idle : IdleWatch}
    (timers : stage.idle? = some idle) :
    ∃ x lease, stage = .exchanging x lease ∧ x.idle = idle := by
  cases stage with
  | exchanging x lease => exact ⟨x, lease, rfl, Option.some.inj timers⟩
  | _ => cases timers

/-- The connection has no room, and is asked twice more before the write timer is due. -/
theorem Bench.repeated_polls_change_nothing_narrow :
    let run := (narrowLife .standard 0 ([] ++ [.poll .start])).1.play
      [.poll ⟨5000000000⟩, .poll ⟨29000000000⟩]
    run.1.stage.idle? = some ⟨.standard, some ⟨.write, .ofSeconds 30, ⟨30000000000⟩⟩, none⟩ ∧
      offered run.2 = [] := by
  have timers : (narrowLife .standard 0 ([] ++ [.poll .start])).1.stage.idle? =
      some ⟨.standard, some ⟨.write, .ofSeconds 30, ⟨30000000000⟩⟩, none⟩ := by decide +kernel
  have repeats : Repeats (narrowLife .standard 0 ([] ++ [.poll .start])).2
      ((narrowLife .standard 0 ([] ++ [.poll .start])).1.play
        [.poll ⟨5000000000⟩, .poll ⟨29000000000⟩]).2 := by
    unfold Repeats
    decide +kernel
  obtain ⟨x, lease, stage, idle⟩ := Stage.exchanging_of_idle timers
  unfold narrowLife at stage repeats ⊢
  obtain ⟨⟨y, moved, stays, -, -, same⟩, unsent, -⟩ :=
    Execution.repeated_polls_change_nothing _ _ _ _ _ [] .start x lease stage
      [.poll ⟨5000000000⟩, .poll ⟨29000000000⟩] (by simp) (fun again member => by
        rw [idle]
        simp only [List.mem_cons, Stimulus.poll.injEq, List.not_mem_nil, or_false] at member
        rcases member with rfl | rfl <;> decide) repeats
  refine ⟨?_, unsent⟩
  dsimp only
  rw [stays]
  exact congrArg some (same.trans idle)

end HttpExchange
