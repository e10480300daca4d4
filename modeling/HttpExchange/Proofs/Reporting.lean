import HttpExchange.Proofs.Faithfulness
import HttpExchange.Proofs.Timing

/-!
How the end of an execution comes to be told. Up to the end the handler was told what was received.
Then it is told the ending, behind the one line that is logged of it, and only then is the future
settled. A task is followed from each of these situations to the next, through its closing, its
conclusion and its polls, and every stimulus leaves it in one of them.
-/

namespace HttpExchange

open Trace

variable {σ : Type}

namespace Execution

/-- What the handler was told so far, and what it is to be told. -/
inductive Telling (framing : Except Failure Pipeline) (late : Prop) : Stage σ → List Action → Prop
    where
  | waiting {stage : Stage σ} {trace : List Action} (isWaiting : stage.isWaiting = true)
      (silent : Only Action.isSilent trace) : Telling framing late stage trace
  | exchanging {x : Exchange} {lease : Lease σ} {trace : List Action} (p : Pipeline)
      (framed : framing = .ok p) (same : x.pipeline.decode = p.decode) (empty : x.events = [])
      (faithful : Faithful framing trace)
      (unfinished : .finish ∉ Pipeline.eventsOn framing (received trace))
      (unfailed : failures framing trace = []) (unsettled : settlements trace = []) :
      Telling framing late (.exchanging x lease) trace
  | closing {connection : Connection σ} {ending : Ending} {body : Option MeteredBody}
      {trace : List Action} (faithful : Faithful framing trace) (fits : ending.Fits framing trace)
      (unsettled : settlements trace = []) :
      Telling framing late (.closing connection ending body) trace
  | told {body : Option MeteredBody} {trace : List Action} (before after : List Action)
      (ending : Ending)
      (whole : trace = before ++ ending.lines ++ .callback ending.verdict :: after)
      (faithful : Faithful framing before) (fits : ending.Fits framing before)
      (unsettled : settlements before = []) (aftermath : Only Action.isAftermath after)
      (settled : settlements after ≠ []) : Telling framing late (.gone .finished body) trace
  | left {body : Option MeteredBody} {trace : List Action} (faithful : Faithful framing trace) :
      Telling framing late (.gone .dropped body) trace
  | crashed {body : Option MeteredBody} {trace : List Action} (overdue : late)
      (unsaid : verdicts trace = []) : Telling framing late (.gone .crashed body) trace

namespace Telling

variable {framing : Except Failure Pipeline} {late later : Prop} {stage : Stage σ}
  {trace more : List Action}

theorem imp (h : Telling framing late stage trace) (implied : late → later) :
    Telling framing later stage trace := by
  cases h with
  | waiting isWaiting silent => exact .waiting isWaiting silent
  | exchanging p framed same empty faithful unfinished unfailed unsettled =>
      exact .exchanging p framed same empty faithful unfinished unfailed unsettled
  | closing faithful fits unsettled => exact .closing faithful fits unsettled
  | told before after ending whole faithful fits unsettled aftermath settled =>
      exact .told before after ending whole faithful fits unsettled aftermath settled
  | left faithful => exact .left faithful
  | crashed overdue unsaid => exact .crashed (implied overdue) unsaid

/-- Cancellations are of no consequence. -/
theorem cancels (h : Telling framing late stage trace) (cancels : Only Action.isCancel more) :
    Telling framing late stage (trace ++ more) := by
  have silent := cancels.silent_of_cancel
  have unheard := silent.unheard_of_silent
  obtain ⟨unfailing, unsettling⟩ := silent.unfailing framing
  cases h with
  | waiting isWaiting before => exact .waiting isWaiting ((only_append _ _).mpr ⟨before, silent⟩)
  | exchanging p framed same empty faithful unfinished unfailed unsettled =>
      refine .exchanging p framed same empty (faithful.unheard unheard) ?_ ?_ ?_
      · rwa [received_append, unheard.unheard.2.1, List.append_nil]
      · rw [failures_append, unfailed, unfailing]
        rfl
      · rw [settlements_append, unsettled, unsettling]
        rfl
  | closing faithful fits unsettled =>
      refine .closing (faithful.unheard unheard) (fits.silent silent) ?_
      rw [settlements_append, unsettled, unsettling]
      rfl
  | told before after ending whole faithful fits unsettled aftermath settled =>
      refine .told before (after ++ more) ending ?_ faithful fits unsettled
        ((only_append _ _).mpr ⟨aftermath, cancels.aftermath_of_cancel⟩) ?_
      · rw [whole, List.append_assoc, List.append_assoc, List.append_assoc, List.cons_append]
      · rw [settlements_append, unsettling, List.append_nil]
        exact settled
  | left faithful => exact .left (faithful.unheard unheard)
  | crashed overdue unsaid =>
      refine .crashed overdue ?_
      rw [verdicts_append, unsaid, cancels.midway_of_cancel.verdicts_eq_nil]
      rfl

/-- What was told and is to be told hangs on the kind of the stage only. -/
theorem alike {other : Stage σ} (h : Telling framing late stage trace)
    (alike : stage.Alike other) : Telling framing late other trace := by
  cases h with
  | waiting isWaiting silent => exact .waiting (alike.isWaiting.trans isWaiting) silent
  | exchanging p framed same empty faithful unfinished unfailed unsettled =>
      cases alike
      exact .exchanging p framed same empty faithful unfinished unfailed unsettled
  | closing faithful fits unsettled =>
      cases alike
      exact .closing faithful fits unsettled
  | told before after ending whole faithful fits unsettled aftermath settled =>
      cases alike
      exact .told before after ending whole faithful fits unsettled aftermath settled
  | left faithful =>
      cases alike
      exact .left faithful
  | crashed overdue unsaid =>
      cases alike
      exact .crashed overdue unsaid

end Telling

/-- A calm handler is told the end, and then the future is settled. -/
theorem conclude_of_calm (e : Execution σ) (calm : e.handler.IsCalm) (callback : Callback)
    (result : Result) (body : Option MeteredBody) :
    (e.conclude callback result body).1.stage = .gone .finished body ∧
      ∃ after, (e.conclude callback result body).2 = .callback callback :: after ∧
        Only Action.isAftermath after ∧ settlements after ≠ [] := by
  have stays : (e.handler.call callback e.completion).brokeOff = false :=
    (e.handler.call_brokeOff callback e.completion).trans (calm callback)
  have called : ∃ reaction, (e.handler.call callback e.completion).actions =
      .callback callback :: reaction ∧ Only Action.isAftermath reaction := by
    unfold Handler.call
    dsimp only
    split
    · exact ⟨_, rfl, by simp [Action.isAftermath]⟩
    · exact ⟨[], rfl, only_nil⟩
  have leaving (left : Execution σ) : Only Action.isAftermath (left.leave .finished body).2 := by
    unfold leave
    dsimp only
    split <;> simp [Action.isAftermath]
  obtain ⟨reaction, calls, reacts⟩ := called
  unfold conclude
  dsimp only
  rw [stays, calls]
  refine ⟨rfl, _, rfl, ?_, ?_⟩
  · exact (only_append _ _).mpr
      ⟨(only_append _ _).mpr ⟨reacts, by simp [Action.isAftermath]⟩, leaving _⟩
  · simp [settlements]

theorem finish_of_calm (e : Execution σ) (calm : e.handler.IsCalm) (ending : Ending)
    (body : Option MeteredBody) :
    (e.finish ending body).1.stage = .gone .finished body ∧
      ∃ after, (e.finish ending body).2 = ending.lines ++ .callback ending.verdict :: after ∧
        Only Action.isAftermath after ∧ settlements after ≠ [] := by
  cases ending with
  | success => exact e.conclude_of_calm calm _ _ body
  | failure message cause =>
      obtain ⟨gone, after, actions, aftermath, settled⟩ :=
        e.conclude_of_calm calm (.failed cause.classify) (.failure cause.classify) body
      have logged := congrArg (List.cons (Action.log ⟨.error, message⟩)) actions
      exact ⟨gone, after, logged, aftermath, settled⟩

namespace Telling

variable {framing : Except Failure Pipeline} {late : Prop} {trace : List Action}

theorem ofFinish {e : Execution σ} (calm : e.handler.IsCalm) (faithful : Faithful framing trace)
    {ending : Ending} (fits : ending.Fits framing trace) (unsettled : settlements trace = [])
    (body : Option MeteredBody) :
    Telling framing late (e.finish ending body).1.stage (trace ++ (e.finish ending body).2) := by
  obtain ⟨gone, after, actions, aftermath, settled⟩ := e.finish_of_calm calm ending body
  rw [gone, actions, ← List.append_assoc]
  exact .told trace after ending rfl faithful fits unsettled aftermath settled

/-- The connection is handed back before the handler is told. -/
theorem ofRelease {e : Execution σ} (calm : e.handler.IsCalm) (faithful : Faithful framing trace)
    {ending : Ending} (fits : ending.Fits framing trace) (unsettled : settlements trace = [])
    (body : Option MeteredBody) (connection : Connection σ) {asked : List Action}
    (asking : Only Action.isSilent asked) :
    Telling framing late ((e.release connection).1.finish ending body).1.stage
      (trace ++ (asked ++ (e.release connection).2 ++
        ((e.release connection).1.finish ending body).2)) := by
  have silent : Only Action.isSilent (asked ++ (e.release connection).2) :=
    (only_append _ _).mpr ⟨asking, by simp [release, Action.isSilent]⟩
  rw [← List.append_assoc]
  refine ofFinish (e := (e.release connection).1) calm
    (faithful.unheard silent.unheard_of_silent) (fits.silent silent) ?_ body
  rw [settlements_append, unsettled, (silent.unfailing framing).2]
  rfl

/-- A task that is dropped leaves without a word. -/
theorem drop {e : Execution σ} (h : Telling framing late e.stage trace) :
    Telling framing late e.drop.1.stage (trace ++ e.drop.2) := by
  have leaving (left : Execution σ) (departure : Departure) (body : Option MeteredBody) :
      Only Action.isUnheard (left.leave departure body).2 := by
    unfold leave
    dsimp only
    split <;> simp [Action.isUnheard]
  have unheard : Only Action.isUnheard e.drop.2 := by
    unfold Execution.drop
    split
    · exact only_nil
    · exact leaving _ _ _
    · refine (only_append _ _).mpr ⟨?_, leaving _ _ _⟩
      unfold dropLease
      split <;> simp [Action.isUnheard, Run.after, release]
    · exact leaving _ _ _
    · exact only_nil
  cases present : e.stage.isGone with
  | true =>
      rw [e.drop_of_gone present, List.append_nil]
      exact h
  | false =>
      obtain ⟨body, gone⟩ := (e.drop_dropping present).gone
      rw [gone]
      have faithful : Faithful framing trace := by
        generalize e.stage = stage at h present
        cases h with
        | waiting isWaiting silent => exact .ofUnheard framing silent.unheard_of_silent
        | exchanging p framed same empty faithful unfinished unfailed unsettled => exact faithful
        | closing faithful fits unsettled => exact faithful
        | told | left | crashed => cases present
      exact .left (faithful.unheard unheard)

/-- The first poll of a task that found the pool's answer. -/
theorem ofAnswer (framing : Except Failure Pipeline) (waited : Only Action.isSilent trace)
    (more : List Action) (unheard : Only Action.isUnheard more)
    (unsettling : settlements more = []) :
    Faithful framing (trace ++ more) ∧
      .finish ∉ Pipeline.eventsOn framing (received (trace ++ more)) ∧
      failures framing (trace ++ more) = failures framing more ∧
      settlements (trace ++ more) = [] := by
  have all : Only Action.isUnheard (trace ++ more) :=
    (only_append _ _).mpr ⟨waited.unheard_of_silent, unheard⟩
  obtain ⟨unfailing, unsettled⟩ := waited.unfailing framing
  refine ⟨.ofUnheard framing all, ?_, ?_, ?_⟩
  · rw [all.unheard.2.1]
    cases framing <;> exact List.not_mem_nil
  · rw [failures_append, unfailing]
    rfl
  · rw [settlements_append, unsettled, unsettling]
    rfl

variable [Transport σ]

theorem ofPollClose {e : Execution σ} (calm : e.handler.IsCalm) (faithful : Faithful framing trace)
    {ending : Ending} (fits : ending.Fits framing trace) (unsettled : settlements trace = [])
    (connection : Connection σ) (body : Option MeteredBody) :
    Telling framing late (e.pollClose connection ending body).1.stage
      (trace ++ (e.pollClose connection ending body).2) := by
  have asking (answer : Readiness) : Only Action.isSilent [.close connection.id answer] := by
    simp [Action.isSilent]
  unfold pollClose
  dsimp only
  split
  · have silent := asking connection.close.1
    refine .closing (faithful.unheard silent.unheard_of_silent) (fits.silent silent) ?_
    rw [settlements_append, unsettled, (silent.unfailing framing).2]
    rfl
  · exact ofRelease calm faithful fits unsettled body connection.close.2 (asking _)

/-- However an exchange ends, the connection it has goes back first. -/
theorem ofEndExchange {e : Execution σ} (calm : e.handler.IsCalm)
    (faithful : Faithful framing trace) {x : Exchange} {outcome : Outcome}
    (fits : (e.endingOf outcome).Fits framing trace) (unsettled : settlements trace = [])
    {lease : Lease σ} {connection : Connection σ} (held : lease.connection = some connection) :
    Telling framing late (e.endExchange x lease outcome).1.stage
      (trace ++ (e.endExchange x lease outcome).2) := by
  by_cases fit : outcome = .complete ∧ x.writeState = .done
  · obtain ⟨rfl, written⟩ := fit
    rw [e.endExchange_of_fit held written]
    exact ofRelease calm faithful fits unsettled _ connection only_nil
  · rw [e.endExchange_of_unfit x held fit]
    exact ofPollClose calm faithful fits unsettled connection _

/-- A poll of an exchange tells what it hears. -/
theorem ofPollExchange {e : Execution σ} (calm : e.handler.IsCalm) {x : Exchange}
    {lease : Lease σ} {connection : Connection σ} (held : lease.connection = some connection)
    {p : Pipeline} (framed : framing = .ok p) (same : x.pipeline.decode = p.decode)
    (empty : x.events = []) (faithful : Faithful framing trace)
    (unfinished : .finish ∉ Pipeline.eventsOn framing (received trace))
    (unfailed : failures framing trace = []) (unsettled : settlements trace = []) (now : Instant)
    (overdue : (x.poll lease e.handler e.completion now).turn = .crashed → late) :
    Telling framing late (e.pollExchange x lease now).1.stage
      (trace ++ (e.pollExchange x lease now).2) := by
  have hears := Exchange.poll_hears same empty held e.handler e.completion now
  have driving := x.poll_driving lease e.handler e.completion now
  have sends := (x.poll_sends lease e.handler e.completion now).1
  obtain ⟨still, still_held, -⟩ := x.poll_leased held e.handler e.completion now
  have driven := e.pollExchange_drives x lease now
  generalize e.pollExchange x lease now = run at driven ⊢
  generalize x.poll lease e.handler e.completion now = step at *
  obtain ⟨unlogged, unsettling⟩ := driving.unsettling
  obtain ⟨told, met⟩ := faithful.hears unfinished unfailed framed hears unlogged
  have still_unsettled : settlements (trace ++ step.actions) = [] := by
    rw [settlements_append, unsettled, unsettling]
    rfl
  cases driven with
  | goesOn turn =>
      obtain ⟨still_faithful, finished⟩ := told (by rw [turn]; nofun)
      obtain ⟨frames, -, pipeline, -⟩ := sends.sent
      refine .exchanging p framed ?_ (hears.drained turn) still_faithful ?_ ?_ still_unsettled
      · rw [pipeline, Pipeline.decode_advance, same]
      · rw [finished, turn]
        nofun
      · rw [met, turn]
        rfl
  | ends outcome turn =>
      obtain ⟨still_faithful, finished⟩ := told (by rw [turn]; nofun)
      have fits : (e.endingOf outcome).Fits framing (trace ++ step.actions) := by
        rw [turn] at met finished
        cases outcome with
        | complete => exact finished.mpr rfl
        | writeFailed failure | failed failure | aborted failure =>
            exact ⟨finished.not.mpr nofun, met⟩
      rw [Run.after_snd, ← List.append_assoc]
      exact ofEndExchange (e := { e with completion := step.completion }) calm still_faithful fits
        still_unsettled still_held
  | breaksOff turn =>
      refine .crashed (overdue turn) ?_
      rw [Run.after_snd, verdicts_append, verdicts_append, verdicts_append, faithful.unsaid,
        driving.midway_of_driving.verdicts_eq_nil, (dropLease_inert _ _).silent,
        (leave_inert _ _ _).silent]
      rfl

end Telling

/-- The task was polled at a time from which the clock cannot show a whole period. -/
def Overdue (timeouts : Timeouts) (history : List (Stimulus σ)) : Prop :=
  ∃ now, .poll now ∈ history ∧
    (now.after? timeouts.write = none ∨ now.after? timeouts.read = none)

section Respond

variable [Transport σ] {granting : Acquisition σ} {history : List (Stimulus σ)}
  {timeouts : Timeouts} {framing : Except Failure Pipeline} {run : Run σ}

omit [Transport σ] in
theorem Overdue.concat (h : Overdue timeouts history) (stimulus : Stimulus σ) :
    Overdue timeouts (history ++ [stimulus]) := by
  obtain ⟨now, member, lost⟩ := h
  exact ⟨now, List.mem_append_left _ member, lost⟩

/-- A calm handler is not the one to break a poll off. -/
theorem overdue_of_crashed {handler : Handler} (calm : handler.IsCalm) {x : Exchange}
    (serves : x.idle.Serves timeouts) (unneeded : x.Unneeded) {lease : Lease σ} {c : Completion}
    {now : Instant} (crashed : (x.poll lease handler c now).turn = .crashed) :
    Overdue timeouts (history ++ [.poll now]) := by
  have times := Exchange.poll_times unneeded lease handler c now
  refine ⟨now, List.mem_append_right _ List.mem_cons_self, ?_⟩
  refine (times.crashed serves crashed).resolve_left ?_
  rintro ⟨callback, breaks⟩
  rw [calm callback] at breaks
  cases breaks

theorem poll_telling (reflects : granting.Reflects history run.1.acquisition)
    (configured : run.1.timeouts = timeouts) (calm : run.1.handler.IsCalm)
    (employs : run.1.stage.Employs granting history) (timed : run.1.stage.Timed timeouts)
    (framed : ∀ connection, granting.answerBy history = some (.ok connection) →
      (Pipeline.configure connection).1 = framing)
    (h : Telling framing (Overdue timeouts history) run.1.stage run.2) (now : Instant) :
    Telling framing (Overdue timeouts (history ++ [.poll now])) (run.1.poll now).1.stage
      (run.2 ++ (run.1.poll now).2) := by
  have known {connection : Connection σ} (granted : run.1.acquisition = .granted connection) :
      (Pipeline.configure connection).1 = framing := by
    rw [granted] at reflects
    obtain ⟨given, answered, same⟩ := reflects
    exact (Pipeline.configure_of_bare same).trans (framed given answered)
  have waited (isWaiting : run.1.stage.isWaiting = true) : Only Action.isSilent run.2 := by
    generalize run.1.stage = stage at h isWaiting
    cases h with
    | waiting isWaiting silent => exact silent
    | _ => cases isWaiting
  have polled := run.1.poll_polls now
  generalize run.1.poll now = next at polled ⊢
  cases polled with
  | waits isWaiting unanswered =>
      rw [List.append_nil]
      exact .waiting rfl (waited isWaiting)
  | refused isWaiting error refused message =>
      obtain ⟨faithful, unfinished, met, unsettled⟩ := Telling.ofAnswer framing
        (waited isWaiting) [.refused error] (by simp [Action.isUnheard]) rfl
      have fits : (Ending.failure message (.lease error)).Fits framing
          (run.2 ++ [.refused error]) := ⟨unfinished, met⟩
      rw [Run.after_snd, ← List.append_assoc]
      exact Telling.ofFinish (e := { run.1 with acquisition := .taken }) calm faithful fits
        unsettled none
  | unframed isWaiting connection granted cause unknown =>
      obtain ⟨faithful, unfinished, met, unsettled⟩ := Telling.ofAnswer framing
        (waited isWaiting) [.leased connection.id] (by simp [Action.isUnheard]) rfl
      have fits : (Ending.failure cause.text cause).Fits framing
          (run.2 ++ [.leased connection.id]) := by
        refine ⟨unfinished, met.trans ?_⟩
        rw [← known granted, unknown]
        rfl
      rw [Run.after_snd, ← List.append_assoc]
      exact Telling.ofPollClose (e := run.1.leased) calm faithful fits unsettled _ none
  | begins isWaiting connection granted p ready x pipeline writeState frames events idle
      opening only =>
      have silent := only.silent_of_opening
      have framed : framing = .ok p := (known granted).symm.trans ready
      have unheard : Only Action.isUnheard (.leased connection.id :: opening) :=
        (only_cons _ _).mpr ⟨rfl, silent.unheard_of_silent⟩
      obtain ⟨faithful, unfinished, met, unsettled⟩ := Telling.ofAnswer framing
        (waited isWaiting) _ unheard (silent.unfailing framing).2
      have unfailed : failures framing (.leased connection.id :: opening) = [] := by
        rw [framed]
        exact (silent.unfailing _).1
      obtain ⟨serves, unneeded⟩ := Exchange.timers_of_begin idle writeState
      rw [configured] at serves
      rw [Run.after_snd, ← List.append_assoc]
      exact Telling.ofPollExchange (e := run.1.leased) calm rfl framed (by rw [pipeline]) events
        faithful unfinished (met.trans unfailed) unsettled now
        (overdue_of_crashed calm serves unneeded)
  | drives x lease stage =>
      rw [stage] at h employs timed
      obtain ⟨connection, given, held, -, -⟩ := employs
      cases h with
      | waiting isWaiting silent => cases isWaiting
      | exchanging p framed same empty faithful unfinished unfailed unsettled =>
          exact Telling.ofPollExchange calm held framed same empty faithful unfinished unfailed
            unsettled now (overdue_of_crashed calm timed.1 timed.2)
  | closes connection ending body stage =>
      rw [stage] at h
      cases h with
      | waiting isWaiting silent => cases isWaiting
      | closing faithful fits unsettled =>
          exact Telling.ofPollClose calm faithful fits unsettled connection body
  | departed gone =>
      rw [List.append_nil]
      exact h.imp (·.concat _)

/-- Every stimulus keeps the account of what was told. -/
theorem respond_telling (reflects : granting.Reflects history run.1.acquisition)
    (configured : run.1.timeouts = timeouts) (calm : run.1.handler.IsCalm)
    (employs : run.1.stage.Employs granting history) (timed : run.1.stage.Timed timeouts)
    (framed : ∀ connection, granting.answerBy history = some (.ok connection) →
      (Pipeline.configure connection).1 = framing)
    (h : Telling framing (Overdue timeouts history) run.1.stage run.2) (stimulus : Stimulus σ) :
    Telling framing (Overdue timeouts (history ++ [stimulus])) (run.1.respond stimulus).1.stage
      (run.2 ++ (run.1.respond stimulus).2) := by
  have later : Telling framing (Overdue timeouts (history ++ [stimulus])) run.1.stage run.2 :=
    h.imp (·.concat stimulus)
  cases stimulus with
  | poll now => exact poll_telling reflects configured calm employs timed framed h now
  | drop => exact later.drop
  | answer given =>
      rw [respond, answer_stage, List.append_nil]
      exact later
  | cancel => exact later.cancels (by simp [respond, cancel, Action.isCancel])
  | transport id change =>
      rw [respond, List.append_nil]
      exact later.alike (run.1.stage.alike_mapConnection _)
  | feed items close =>
      rw [respond, List.append_nil]
      exact later.alike (run.1.stage.alike_mapBody (·.feed items close))

end Respond

end Execution

end HttpExchange
