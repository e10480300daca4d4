import HttpExchange.Proofs.Timing
import Mathlib.Data.List.DropRight

/-!
How long a connection holds a request back. The write timer runs as long as poll after poll is held
back, and is due one period after the last frame that was taken behind the first of these polls, or
after this first poll itself. So the polls of an execution say when it is due.
-/

namespace HttpExchange

open Trace

variable {σ : Type}

namespace Trace

/-- The polls up to the last that were held back by the connection, one after the other. -/
def streak (polls : List (Instant × List Action)) : List (Instant × List Action) :=
  polls.rtakeWhile fun poll => stalled poll.2

/-- When the write timer is due after polls that were all held back: one period after the last of
them that sent a frame, the first poll apart. Without such a poll the timer is as it was started. -/
def dueAfter (period : Duration) : List (Instant × List Action) → Option Instant
  | [] => none
  | first :: later =>
    match (later.filter fun poll => progressed poll.2).getLast? with
    | some poll => some (poll.1.advance period)
    | none => some (first.1.sleepUntil period)

variable {period : Duration} {polls : List (Instant × List Action)} {now : Instant}
  {actions : List Action}

theorem streak_concat_of_stalled (held : stalled actions = true) :
    streak (polls ++ [(now, actions)]) = streak polls ++ [(now, actions)] :=
  List.rtakeWhile_concat_pos _ _ _ held

theorem streak_concat_of_unstalled (moving : stalled actions = false) :
    streak (polls ++ [(now, actions)]) = [] :=
  List.rtakeWhile_concat_neg _ _ _ (by simp [moving])

theorem streak_concat_ne_nil :
    streak (polls ++ [(now, actions)]) ≠ [] ↔ stalled actions = true := by
  cases held : stalled actions with
  | true => simp [streak_concat_of_stalled held]
  | false => simp [streak_concat_of_unstalled held]

theorem dueAfter_eq_none : dueAfter period polls = none ↔ polls = [] := by
  cases polls with
  | nil => exact iff_of_true rfl rfl
  | cons first later =>
      refine iff_of_false ?_ nofun
      unfold dueAfter
      dsimp only
      split <;> nofun

/-- A further poll puts the timer off if it sent a frame. -/
theorem dueAfter_concat {deadline : Instant} (due : dueAfter period polls = some deadline) :
    dueAfter period (polls ++ [(now, actions)]) =
      some (if progressed actions then now.advance period else deadline) := by
  cases polls with
  | nil => cases due
  | cons first later =>
      unfold dueAfter at due ⊢
      dsimp only [List.cons_append] at due ⊢
      rw [List.filter_append]
      cases sent : progressed actions with
      | true => simp [sent]
      | false => simpa [sent] using due

end Trace

/-- When the write timer is due after polls that were all held back, if there is one. -/
def Timeouts.writeDue (timeouts : Timeouts) (polls : List (Instant × List Action)) :
    Option Instant :=
  if timeouts.write.isZero then none else dueAfter timeouts.write polls

theorem Timeouts.writeDue_nil (timeouts : Timeouts) : timeouts.writeDue [] = none := by
  unfold writeDue
  split <;> rfl

theorem Timeouts.writeDue_isSome (timeouts : Timeouts) (polls : List (Instant × List Action)) :
    (timeouts.writeDue polls).isSome = true ↔ timeouts.write.isZero = false ∧ polls ≠ [] := by
  unfold writeDue
  split
  · rename_i zero
    simp [zero]
  · rename_i nonzero
    rw [Option.isSome_iff_ne_none, Ne, dueAfter_eq_none]
    simp [nonzero]

/-- A poll that is held back leaves the timer due as it says. -/
theorem IdleWatch.heldBack_due {w : IdleWatch} {periods : Timeouts} (serves : w.Serves periods)
    {polls : List (Instant × List Action)}
    (due : w.write.map IdleTimer.deadline = periods.writeDue polls) (now : Instant)
    (actions : List Action) :
    (w.heldBack (progressed actions) now).map IdleTimer.deadline =
      periods.writeDue (polls ++ [(now, actions)]) := by
  unfold heldBack
  cases running : w.write with
  | none =>
      dsimp only
      rw [running] at due
      unfold started Timeouts.writeDue at *
      rw [serves.configured]
      split
      · rfl
      · rename_i nonzero
        rw [if_neg nonzero] at due
        obtain rfl := dueAfter_eq_none.mp due.symm
        rfl
  | some timer =>
      obtain ⟨-, period, nonzero⟩ := serves.write timer running
      rw [running] at due
      unfold Timeouts.writeDue at due ⊢
      rw [nonzero] at due ⊢
      rw [if_neg (by simp)] at due ⊢
      rw [dueAfter_concat due.symm, ← period]
      dsimp only [Option.map_some]
      split <;> rfl

namespace Execution

variable [Transport σ]

/-- The polls of an execution over a history: when each was made, and what was done in it. -/
def polls (e : Execution σ) : List (Stimulus σ) → List (Instant × List Action)
  | [] => []
  | stimulus :: rest =>
    let responded := e.respond stimulus
    let later := responded.1.polls rest
    match stimulus with
    | .poll now => (now, responded.2) :: later
    | _ => later

theorem polls_append (e : Execution σ) (first second : List (Stimulus σ)) :
    e.polls (first ++ second) = e.polls first ++ (e.play first).1.polls second := by
  induction first generalizing e with
  | nil => rfl
  | cons stimulus rest ih =>
      simp only [List.cons_append, polls, play, Run.after_fst]
      rw [ih]
      cases stimulus <;> rfl

end Execution

/-- Where an exchange is held back, its write timer is due as the polls say. Before, none was held
back. -/
def Stage.Stalls (timeouts : Timeouts) (polls : List (Instant × List Action)) : Stage σ → Prop
  | created | acquiring => streak polls = []
  | exchanging x _ =>
    x.idle.write.map IdleTimer.deadline = timeouts.writeDue (streak polls)
  | _ => True

theorem Stage.Stalls.alike {timeouts : Timeouts} {polls : List (Instant × List Action)}
    {stage other : Stage σ} (h : stage.Stalls timeouts polls) (alike : stage.Alike other) :
    other.Stalls timeouts polls := by
  cases alike <;> exact h

/-- A poll that only waits for the connection is not held back by it. -/
theorem Stage.Stalls.due_of_begin {timeouts : Timeouts} {polls : List (Instant × List Action)}
    {stage : Stage σ} (h : stage.Stalls timeouts polls) (isWaiting : stage.isWaiting = true)
    {x : Exchange} {now : Instant} (idle : x.idle = .ofTimeouts timeouts ∨
      x.idle = (IdleWatch.ofTimeouts timeouts).installRead now) :
    x.idle.write.map IdleTimer.deadline = timeouts.writeDue (streak polls) := by
  have unheld : streak polls = [] := by
    cases stage with
    | created | acquiring => exact h
    | _ => cases isWaiting
  rw [unheld, timeouts.writeDue_nil]
  rcases idle with same | same <;> rw [same] <;> rfl

theorem Stage.stalls_of_remains {timeouts : Timeouts} {polls : List (Instant × List Action)}
    {stage : Stage σ} {body : Option MeteredBody} (remains : stage.remains = some body) :
    stage.Stalls timeouts polls := by
  cases stage with
  | closing _ _ _ | gone _ _ => trivial
  | _ => cases remains

namespace Execution

variable [Transport σ] {timeouts : Timeouts} {polls : List (Instant × List Action)}

/-- One poll of an exchange goes on with the timer, or without. -/
theorem pollExchange_stalls (e : Execution σ) {x : Exchange} (serves : x.idle.Serves timeouts)
    (unneeded : x.Unneeded) (due : x.idle.write.map IdleTimer.deadline =
      timeouts.writeDue (streak polls)) (lease : Lease σ) (now : Instant) (opening : List Action)
    (opened : Idle opening) :
    (e.pollExchange x lease now).1.stage.Stalls timeouts
      (polls ++ [(now, opening ++ (e.pollExchange x lease now).2)]) := by
  have times := Exchange.poll_times unneeded lease e.handler e.completion now
  have driven := e.pollExchange_drives x lease now
  generalize e.pollExchange x lease now = run at driven ⊢
  generalize x.poll lease e.handler e.completion now = step at *
  cases driven with
  | goesOn turn =>
      have same_stalled : stalled (opening ++ step.actions) = stalled step.actions := by
        rw [stalled_append, opened.1, Bool.false_or]
      have same_progressed : progressed (opening ++ step.actions) = progressed step.actions := by
        rw [progressed_append, opened.2, Bool.false_or]
      change step.exchange.idle.write.map IdleTimer.deadline = _
      rw [times.timer turn]
      cases held : stalled step.actions with
      | true =>
          rw [streak_concat_of_stalled (same_stalled.trans held), if_pos rfl, ← same_progressed]
          exact IdleWatch.heldBack_due serves due now _
      | false =>
          rw [streak_concat_of_unstalled (same_stalled.trans held), timeouts.writeDue_nil]
          rfl
  | ends outcome turn => exact Stage.stalls_of_remains (endExchange_ends _ _ _ outcome).remains
  | breaksOff turn => trivial

/-- A poll of the task keeps the write timer due as the polls say. -/
theorem poll_stalls {e : Execution σ} (configured : e.timeouts = timeouts)
    (timed : e.stage.Timed timeouts) (h : e.stage.Stalls timeouts polls) (now : Instant) :
    (e.poll now).1.stage.Stalls timeouts (polls ++ [(now, (e.poll now).2)]) := by
  have polled := e.poll_polls now
  generalize e.poll now = next at polled ⊢
  cases polled with
  | waits isWaiting unanswered => exact streak_concat_of_unstalled rfl
  | refused isWaiting error refused message =>
      exact Stage.stalls_of_remains (finish_ends _ _ none).remains
  | unframed isWaiting connection granted cause unknown =>
      exact Stage.stalls_of_remains (pollClose_ends _ _ _ none).remains
  | begins isWaiting connection granted p framed x pipeline writeState frames events idle
      opening only =>
      rw [configured] at idle
      obtain ⟨serves, unneeded⟩ := Exchange.timers_of_begin idle writeState
      have opened : Idle (.leased connection.id :: opening) := only.idle_of_opening
      exact e.leased.pollExchange_stalls serves unneeded (h.due_of_begin isWaiting idle) _ now _
        opened
  | drives x lease stage =>
      rw [stage] at timed h
      exact e.pollExchange_stalls timed.1 timed.2 h lease now [] ⟨rfl, rfl⟩
  | closes connection ending body stage =>
      exact Stage.stalls_of_remains (pollClose_ends _ _ _ body).remains
  | departed gone =>
      generalize e.stage = stage at gone
      cases stage <;> trivial

/-- What a poll keeps, once it is counted, is kept by every stimulus, if neither a drop nor a change
of the connection or the body matters to it. -/
theorem respond_polled (Holds : List (Instant × List Action) → Stage σ → Prop) {e : Execution σ}
    (h : Holds polls e.stage)
    (polled : ∀ now, Holds (polls ++ [(now, (e.poll now).2)]) (e.poll now).1.stage)
    (dropped : ∀ body, Holds polls (.gone .dropped body))
    (changed : ∀ other, e.stage.Alike other → Holds polls other) (stimulus : Stimulus σ) :
    Holds (polls ++ e.polls [stimulus]) (e.respond stimulus).1.stage := by
  have uncounted {stage : Stage σ} (h : Holds polls stage) : Holds (polls ++ []) stage := by
    rwa [List.append_nil]
  cases stimulus with
  | poll now => exact polled now
  | drop =>
      refine uncounted ?_
      rw [respond]
      cases present : e.stage.isGone with
      | true =>
          rw [e.drop_of_gone present]
          exact h
      | false =>
          obtain ⟨body, gone⟩ := (e.drop_dropping present).gone
          rw [gone]
          exact dropped body
  | answer given =>
      refine uncounted ?_
      rw [respond, answer_stage]
      exact h
  | cancel => exact uncounted h
  | transport id change =>
      exact uncounted (changed _ (e.stage.alike_mapConnection (·.changeTransport id change)))
  | feed items close =>
      exact uncounted (changed _ (e.stage.alike_mapBody (·.feed items close)))

/-- Every stimulus keeps the write timer due as the polls say. -/
theorem respond_stalls {e : Execution σ} (configured : e.timeouts = timeouts)
    (timed : e.stage.Timed timeouts) (h : e.stage.Stalls timeouts polls)
    (stimulus : Stimulus σ) :
    (e.respond stimulus).1.stage.Stalls timeouts (polls ++ e.polls [stimulus]) :=
  respond_polled (Stage.Stalls timeouts) h (poll_stalls configured timed h) (fun _ => trivial)
    (fun _ => h.alike) stimulus

/-- The polls of a life. -/
def lifePolls (id : ExecutionId) (request : Request) (timeouts : Timeouts) (handler : Handler)
    (acquisition : Acquisition σ) (history : List (Stimulus σ)) : List (Instant × List Action) :=
  (start id request timeouts handler acquisition).1.polls history

section Life

variable (id : ExecutionId) (request : Request) (timeouts : Timeouts) (handler : Handler)
  (acquisition : Acquisition σ)

theorem lifePolls_concat (past : List (Stimulus σ)) (stimulus : Stimulus σ) :
    lifePolls id request timeouts handler acquisition (past ++ [stimulus]) =
      lifePolls id request timeouts handler acquisition past ++
        (life id request timeouts handler acquisition past).1.polls [stimulus] :=
  polls_append _ past [stimulus]

/-- At every moment of a life the write timer is due as the polls so far say. -/
theorem life_stalls (history : List (Stimulus σ)) :
    (life id request timeouts handler acquisition history).1.stage.Stalls timeouts
      (lifePolls id request timeouts handler acquisition history) := by
  refine life_invariant id request timeouts handler acquisition (fun past run =>
    run.1.stage.Stalls timeouts (lifePolls id request timeouts handler acquisition past)) rfl
    (fun past stimulus h => ?_) history
  have custody := life_custody id request timeouts handler acquisition past
  rw [lifePolls_concat]
  exact respond_stalls (congrArg (·.2.1) custody.setting)
    (life_timed id request timeouts handler acquisition past) h stimulus

end Life

end Execution

end HttpExchange
