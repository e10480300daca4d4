import HttpExchange.Proofs.Verdict

/-!
How an execution winds up once its exchange is over. The connection is asked to close, and asked
again at every poll until its transport answers; then it is handed back as closed, the handler is
told of the end, and the future is settled. As long as the transport does not answer, nobody
hears anything. Nothing else is asked of the transport, and nothing is delivered any more.
-/

namespace HttpExchange

open Trace

variable {σ : Type}

theorem Completion.cancel_isSettled (c : Completion) : c.cancel.2.isSettled = true := by
  cases settled : c.isSettled with
  | true => simp [cancel, complete, settled]
  | false => cases slot : c.slot <;> simp [cancel, complete, settled, abort, slot]

theorem Completion.await_isSome {c : Completion} (settled : c.isSettled = true) :
    c.await.isSome = true := by
  unfold await
  split <;> simp [settled]

/-- What was done to wind up: the connection was asked to close and its transport gave these
answers, these connections went back to the pool, and the handler was told this. -/
structure Winds (connection : ConnectionId) (answers : List Readiness)
    (handed : List (ConnectionId × Bool)) (told : List Callback) (trace : List Action) : Prop where
  unwinding : Only Action.isUnwinding trace
  closes : closes trace = answers.map (connection, ·)
  releases : releases trace = handed
  verdicts : verdicts trace = told

theorem winds_nil (connection : ConnectionId) : Winds connection [] [] [] [] :=
  ⟨only_nil, rfl, rfl, rfl⟩

/-- What says nothing of the end and asks for no close. -/
theorem Winds.ofMidway {trace : List Action} (unwinding : Only Action.isUnwinding trace)
    (midway : Only Action.isMidway trace) (connection : ConnectionId) :
    Winds connection [] [] [] trace :=
  ⟨unwinding, midway.closes_eq_nil, midway.releases_eq_nil, midway.verdicts_eq_nil⟩

theorem Winds.ofCancel {trace : List Action} (cancels : Only Action.isCancel trace)
    (connection : ConnectionId) : Winds connection [] [] [] trace :=
  .ofMidway cancels.unwinding_of_cancel cancels.midway_of_cancel connection

theorem Winds.append {connection : ConnectionId} {answers later : List Readiness}
    {handed back : List (ConnectionId × Bool)} {told heard : List Callback}
    {first second : List Action} (hfirst : Winds connection answers handed told first)
    (hsecond : Winds connection later back heard second) :
    Winds connection (answers ++ later) (handed ++ back) (told ++ heard) (first ++ second) where
  unwinding := (only_append _ _).mpr ⟨hfirst.unwinding, hsecond.unwinding⟩
  closes := by rw [closes_append, hfirst.closes, hsecond.closes, List.map_append]
  releases := by rw [releases_append, hfirst.releases, hsecond.releases]
  verdicts := by rw [verdicts_append, hfirst.verdicts, hsecond.verdicts]

namespace Execution

/-- The handler was told the end, the future is settled, and the task is over. -/
structure Concludes (verdict : Callback) (run : Run σ) : Prop where
  winds : ∀ connection, Winds connection [] [] [verdict] run.2
  ended : run.1.stage.ranToEnd = true
  settled : run.1.completion.isSettled = true

theorem Concludes.unwinding {verdict : Callback} {run : Run σ} (h : Concludes verdict run) :
    Only Action.isUnwinding run.2 :=
  (h.winds ⟨0⟩).unwinding

theorem leave_unwinding (e : Execution σ) (departure : Departure) (body : Option MeteredBody) :
    Only Action.isUnwinding (e.leave departure body).2 := by
  unfold leave
  dsimp only
  split <;> simp [Action.isUnwinding]

theorem leave_winds (e : Execution σ) (departure : Departure) (body : Option MeteredBody)
    (connection : ConnectionId) : Winds connection [] [] [] (e.leave departure body).2 := by
  obtain ⟨_, no_release⟩ := e.leave_silent departure body
  have silent := (e.leave_inert departure body).silent
  refine ⟨e.leave_unwinding departure body, ?_, no_release, silent⟩
  unfold leave
  dsimp only
  split <;> simp

theorem call_winds (h : Handler) {callback : Callback} (c : Completion)
    (last : callback.isVerdict = true) (connection : ConnectionId) :
    Winds connection [] [] [callback] (h.call callback c).actions := by
  have told := h.call_verdicts c last
  refine ⟨?_, ?_, ?_, told⟩
  all_goals
    unfold Handler.call
    dsimp only
    split <;> simp [Action.isUnwinding, last]

theorem conclude_concludes (e : Execution σ) {callback : Callback} (result : Result)
    (body : Option MeteredBody) (last : callback.isVerdict = true) :
    Concludes callback (e.conclude callback result body) := by
  have called := call_winds e.handler e.completion last
  unfold conclude
  dsimp only
  split
  · refine ⟨fun connection => ?_, rfl, Completion.complete_isSettled _ _⟩
    exact (called connection).append (leave_winds _ .crashed body connection)
  · refine ⟨fun connection => ?_, rfl, Completion.complete_isSettled _ _⟩
    have settles (result : Result) (won : Bool) : Winds connection [] [] [] [.settle result won] :=
      ⟨by simp [Action.isUnwinding], rfl, rfl, rfl⟩
    exact ((called connection).append (settles _ _)).append
      (leave_winds _ .finished body connection)

theorem finish_concludes (e : Execution σ) (ending : Ending) (body : Option MeteredBody) :
    Concludes ending.verdict (e.finish ending body) := by
  cases ending with
  | success => exact e.conclude_concludes _ body rfl
  | failure message failure =>
      have concluded : Concludes (.failed failure.classify) _ :=
        e.conclude_concludes (.failure failure.classify) body rfl
      refine ⟨fun connection => ?_, concluded.ended, concluded.settled⟩
      have logs : Winds connection [] [] [] [.log ⟨.error, message⟩] :=
        ⟨by simp [Action.isUnwinding], rfl, rfl, rfl⟩
      exact logs.append (concluded.winds connection)

theorem dropLease_unwinding (e : Execution σ) (lease : Lease σ) (departure : Departure)
    (body : Option MeteredBody) : Only Action.isUnwinding
      (((e.dropLease lease).1.leave departure body).after (e.dropLease lease).2).2 := by
  refine (only_append _ _).mpr ⟨?_, leave_unwinding _ departure body⟩
  unfold dropLease
  split <;> simp [Action.isUnwinding, Run.after, release]

/-- A lease that is dropped hands back the connection it holds as closed. -/
theorem dropLease_releases (e : Execution σ) {lease : Lease σ} {held : Connection σ}
    (leased : lease.connection = some held) (departure : Departure) (body : Option MeteredBody) :
    releases (((e.dropLease lease).1.leave departure body).after (e.dropLease lease).2).2 =
      [(held.id, false)] := by
  rw [Run.after_snd, releases_append, (leave_silent _ departure body).2]
  unfold dropLease
  simp only [leased]
  rfl

theorem drop_unwinding (e : Execution σ) : Only Action.isUnwinding e.drop.2 := by
  unfold drop
  split
  · exact only_nil
  · exact leave_unwinding _ _ _
  · exact dropLease_unwinding e _ .dropped _
  · exact leave_unwinding _ _ _
  · exact only_nil

/-- An exchange whose response is complete, with the request written before, hands back its
connection as it is. -/
theorem endExchange_of_fit [Transport σ] (e : Execution σ) {x : Exchange} {lease : Lease σ}
    {held : Connection σ} (leased : lease.connection = some held)
    (written : x.writeState = .done) :
    e.endExchange x lease .complete =
      ((e.release held).1.finish .success (some x.frames.body)).after
        [.release held.id held.isOpen] := by
  unfold endExchange
  simp only [written, leased]
  rfl

/-- The connection of an exchange is closed, unless the response is complete and the request was
written before. -/
theorem endExchange_of_unfit [Transport σ] (e : Execution σ) (x : Exchange) {lease : Lease σ}
    {held : Connection σ} (leased : lease.connection = some held) {outcome : Outcome}
    (unfit : ¬(outcome = .complete ∧ x.writeState = .done)) :
    e.endExchange x lease outcome =
      e.pollClose held (e.endingOf outcome) (some x.frames.body) := by
  unfold endExchange
  dsimp only
  split
  · rename_i written _
    exact absurd ⟨rfl, written⟩ unfit
  · simp only [closeLease, leased]

/-- One poll asks for the close once. -/
theorem pollClose_closes [Transport σ] (e : Execution σ) (held : Connection σ) (ending : Ending)
    (body : Option MeteredBody) :
    closes (e.pollClose held ending body).2 = [(held.id, held.close.1)] := by
  unfold pollClose
  dsimp only
  split
  · rename_i pending
    rw [pending]
    rfl
  · have concluded := finish_concludes (e.release held.close.2).1 ending body
    rw [Run.after_snd, closes_append, (concluded.winds held.id).closes]
    rfl

/-- Where the winding up of an exchange stands that ended with `ending` on `connection`, and what
was done for it: the transport has not answered yet, or the end was told, or the task was dropped
before it could be. -/
inductive Unwinding (connection : ConnectionId) (ending : Ending) (run : Run σ) : Prop where
  | waiting (held : Connection σ) (body : Option MeteredBody) (answers : List Readiness)
      (same : held.id = connection) (stage : run.1.stage = .closing held ending body)
      (unanswered : ∀ answer ∈ answers, answer = .pending)
      (winds : Winds connection answers [] [] run.2)
  | told (answers : List Readiness) (ended : run.1.stage.ranToEnd = true)
      (settled : run.1.completion.isSettled = true)
      (answered : ∃ answer ∈ answers, answer ≠ .pending)
      (winds : Winds connection answers [(connection, false)] [ending.verdict] run.2)
  | dropped (body : Option MeteredBody) (answers : List Readiness)
      (stage : run.1.stage = .gone .dropped body)
      (unanswered : ∀ answer ∈ answers, answer = .pending)
      (winds : Winds connection answers [] [] run.2)

namespace Unwinding

variable {connection : ConnectionId} {ending : Ending} {run : Run σ}

theorem only (h : Unwinding connection ending run) : Only Action.isUnwinding run.2 := by
  cases h with
  | waiting _ _ _ _ _ _ winds | told _ _ _ _ winds | dropped _ _ _ _ winds => exact winds.unwinding

/-- Once the transport answered, the end was told. -/
theorem of_answered (h : Unwinding connection ending run) {close : ConnectionId × Readiness}
    (asked : close ∈ closes run.2) (given : close.2 ≠ .pending) :
    verdicts run.2 = [ending.verdict] ∧ run.1.completion.isSettled = true := by
  cases h with
  | told answers ended settled answered winds => exact ⟨winds.verdicts, settled⟩
  | waiting _ _ answers _ _ unanswered winds | dropped _ answers _ unanswered winds =>
      rw [winds.closes] at asked
      obtain ⟨answer, member, rfl⟩ := List.mem_map.mp asked
      exact absurd (unanswered answer member) given

/-- As long as the transport did not answer, nobody was told. -/
theorem of_unanswered (h : Unwinding connection ending run)
    (pending : ∀ close ∈ closes run.2, close.2 = .pending) : verdicts run.2 = [] := by
  cases h with
  | told answers ended settled answered winds =>
      obtain ⟨answer, member, given⟩ := answered
      rw [winds.closes] at pending
      exact absurd (pending _ (List.mem_map_of_mem member)) given
  | waiting _ _ _ _ _ _ winds | dropped _ _ _ _ winds => exact winds.verdicts

/-- A task that ran to its end closed its connection and told the end. -/
theorem of_ranToEnd (h : Unwinding connection ending run) (ended : run.1.stage.ranToEnd = true) :
    releases run.2 = [(connection, false)] ∧ verdicts run.2 = [ending.verdict] := by
  cases h with
  | told answers _ _ _ winds => exact ⟨winds.releases, winds.verdicts⟩
  | waiting _ _ _ _ stage _ _ | dropped _ _ stage _ _ =>
      rw [stage] at ended
      cases ended

/-- What was done before may be asked as well, as long as the transport did not answer. -/
theorem after (h : Unwinding connection ending run) {asked : List Readiness}
    {actions : List Action} (pending : ∀ answer ∈ asked, answer = .pending)
    (winds : Winds connection asked [] [] actions) :
    Unwinding connection ending (run.after actions) := by
  cases h with
  | waiting held body answers same stage unanswered later =>
      exact .waiting held body _ same stage (List.forall_mem_append.mpr ⟨pending, unanswered⟩)
        (winds.append later)
  | told answers ended settled answered later =>
      obtain ⟨answer, member, given⟩ := answered
      exact .told _ ended settled ⟨answer, List.mem_append_right _ member, given⟩
        (winds.append later)
  | dropped body answers stage unanswered later =>
      exact .dropped body _ stage (List.forall_mem_append.mpr ⟨pending, unanswered⟩)
        (winds.append later)

/-- Of a task that went away nothing more is heard. -/
theorem ofGone [Transport σ] (h : Unwinding connection ending run) {departure : Departure}
    {body : Option MeteredBody} (gone : run.1.stage = .gone departure body)
    (stimulus : Stimulus σ) :
    Unwinding connection ending ((run.1.respond stimulus).after run.2) := by
  obtain ⟨⟨left, still_gone⟩, cancels, completion⟩ := run.1.respond_gone gone stimulus
  have quiet := Winds.ofCancel cancels connection
  cases h with
  | waiting held other answers same stage unanswered winds =>
      rw [stage] at gone
      cases gone
  | told answers ended settled answered winds =>
      have all := winds.append quiet
      rw [List.append_nil, List.append_nil, List.append_nil] at all
      refine .told answers ?_ ?_ answered all
      · rw [gone] at ended
        rw [Run.after_fst, still_gone]
        cases departure <;> exact ended
      · rcases completion with same | cancelled
        · rw [Run.after_fst, same]
          exact settled
        · rw [Run.after_fst, cancelled]
          exact run.1.completion.cancel_isSettled
  | dropped other answers stage unanswered winds =>
      rw [stage] at gone
      cases gone
      have all := winds.append quiet
      rw [List.append_nil] at all
      exact .dropped left answers still_gone unanswered all

variable [Transport σ]

/-- Asking the connection to close. -/
theorem ofPollClose (e : Execution σ) (held : Connection σ) (ending : Ending)
    (body : Option MeteredBody) : Unwinding held.id ending (e.pollClose held ending body) := by
  have asks : Winds held.id [held.close.1] [] [] [.close held.id held.close.1] :=
    ⟨by simp [Action.isUnwinding], rfl, rfl, rfl⟩
  unfold pollClose
  dsimp only
  split
  · rename_i pending
    rw [pending] at asks ⊢
    exact .waiting held.close.2 body _ rfl rfl (by simp) asks
  · rename_i answered
    have concluded := finish_concludes (e.release held.close.2).1 ending body
    have releases : Winds held.id [] [(held.id, false)] [] (e.release held.close.2).2 :=
      ⟨by simp [release, Action.isUnwinding], rfl, rfl, rfl⟩
    exact .told _ concluded.ended concluded.settled ⟨_, List.mem_singleton_self _, answered⟩
      ((asks.append releases).append (concluded.winds held.id))

/-- Every stimulus keeps the unwinding going. -/
theorem respond (h : Unwinding connection ending run) (stimulus : Stimulus σ) :
    Unwinding connection ending ((run.1.respond stimulus).after run.2) := by
  have departed {departure : Departure} {body : Option MeteredBody}
      (gone : run.1.stage = .gone departure body) := h.ofGone gone stimulus
  cases h with
  | told answers ended settled answered winds =>
      cases stage : run.1.stage with
      | gone departure body => exact departed stage
      | _ =>
          rw [stage] at ended
          cases ended
  | dropped body answers stage unanswered winds => exact departed stage
  | waiting held body answers same stage unanswered winds =>
  -- nothing but a poll asks again, and nothing but a drop ends the wait
  have waits (next : Execution σ) (left : Option MeteredBody) (now : Connection σ)
      (same : now.id = connection) (stage : next.stage = .closing now ending left)
      {actions : List Action} (idle : Winds connection [] [] [] actions) :
      Unwinding connection ending (Run.after (next, actions) run.2) := by
    have all := winds.append idle
    rw [List.append_nil] at all
    exact .waiting now left answers same stage unanswered all
  cases stimulus with
  | poll now =>
      simp only [Execution.respond, poll, stage]
      rw [← same] at winds ⊢
      exact (ofPollClose run.1 held ending body).after unanswered winds
  | drop =>
      have left := leave_winds { run.1 with lost := run.1.lost ++ [held] } .dropped body connection
      have all := winds.append left
      rw [List.append_nil] at all
      simp only [Execution.respond, drop, stage]
      exact .dropped body answers rfl unanswered all
  | answer given =>
      exact waits _ body held same ((run.1.answer_stage given).trans stage) (winds_nil connection)
  | cancel =>
      have cancels : Winds connection [] [] [] [.cancel run.1.completion.cancel.1] :=
        ⟨by simp [Action.isUnwinding], rfl, rfl, rfl⟩
      exact waits run.1.cancel.1 body held same stage cancels
  | transport id change =>
      have moved : (held.changeTransport id change).id = connection :=
        (congrArg (·.id) (held.bare_changeTransport id change)).trans same
      refine waits _ body _ moved ?_ (winds_nil connection)
      simp [mapConnections, stage, Stage.mapConnection]
  | feed items close =>
      refine waits _ (body.map (·.feed items close)) held same ?_ (winds_nil connection)
      simp [stage, Stage.mapBody]

/-- Whatever happens later keeps it going. -/
theorem play (h : Unwinding connection ending run) (later : List (Stimulus σ)) :
    Unwinding connection ending ((run.1.play later).after run.2) := by
  induction later generalizing run with
  | nil =>
      rw [Execution.play, Run.after, List.append_nil]
      exact h
  | cons stimulus rest ih =>
      have next := ih (h.respond stimulus)
      rw [Execution.play, Run.after_after]
      exact next

end Unwinding

end Execution

end HttpExchange
