import HttpExchange.Proofs.Transmission
import HttpExchange.Proofs.Unwinding

/-!
What one poll of a task comes to. A task that has not taken the pool's answer looks for it, and
may begin the exchange in the same poll; one that drives an exchange polls it; and one that waits
for its connection to close asks again. An exchange that is polled goes on, or comes to an end, or
its handler breaks off.
-/

namespace HttpExchange

open Trace

variable {σ : Type}

namespace Execution

/-- The execution whose task has just taken the connection that the pool granted. -/
def leased (e : Execution σ) : Execution σ :=
  { e with completion := e.completion.attach, acquisition := .taken }

variable [Transport σ]

/-- The ways in which a poll of a task can go. -/
inductive Polls (e : Execution σ) (now : Instant) : Run σ → Prop where
  | waits (isWaiting : e.stage.isWaiting = true)
      (unanswered : e.acquisition = .waiting ∨ e.acquisition = .taken) :
      Polls e now ({ e with stage := .acquiring }, [])
  | refused (isWaiting : e.stage.isWaiting = true) (error : LeaseError)
      (refused : e.acquisition = .refused error) (message : String) :
      Polls e now ((({ e with acquisition := .taken } : Execution σ).finish
        (.failure message (.lease error)) none).after [.refused error])
  | unframed (isWaiting : e.stage.isWaiting = true) (connection : Connection σ)
      (granted : e.acquisition = .granted connection) (cause : Failure)
      (unknown : (Pipeline.configure connection).1 = .error cause) :
      Polls e now ((e.leased.pollClose (Pipeline.configure connection).2
        (.failure cause.text cause) none).after [.leased connection.id])
  | begins (isWaiting : e.stage.isWaiting = true) (connection : Connection σ)
      (granted : e.acquisition = .granted connection) (p : Pipeline)
      (framed : (Pipeline.configure connection).1 = .ok p) (x : Exchange)
      (pipeline : x.pipeline = p) (writeState : x.writeState = .writing)
      (frames : x.frames = .ofBody e.request.head
        (.ofProducer e.request.head.headers e.request.content.produce))
      (events : x.events = [])
      (idle : x.idle = .ofTimeouts e.timeouts ∨
        x.idle = (IdleWatch.ofTimeouts e.timeouts).installRead now)
      (opening : List Action) (only : Only Action.isOpening opening)
      (isReading : x.isReading = e.request.isFullDuplex)
      (read : x.idle.read =
        if e.request.isFullDuplex then IdleWatch.started .read e.timeouts.read now else none) :
      Polls e now ((e.leased.pollExchange x ⟨some (Pipeline.configure connection).2⟩ now).after
        (.leased connection.id :: opening))
  | drives (x : Exchange) (lease : Lease σ) (stage : e.stage = .exchanging x lease) :
      Polls e now (e.pollExchange x lease now)
  | closes (connection : Connection σ) (ending : Ending) (body : Option MeteredBody)
      (stage : e.stage = .closing connection ending body) :
      Polls e now (e.pollClose connection ending body)
  | departed (gone : e.stage.isGone = true) : Polls e now (e, [])

theorem pollAcquire_polls (e : Execution σ) (isWaiting : e.stage.isWaiting = true)
    (now : Instant) : Polls e now (e.pollAcquire now) := by
  cases acquisition : e.acquisition with
  | waiting | taken =>
      rw [pollAcquire_of_unanswered (by simp [acquisition])]
      exact .waits isWaiting (by simp [acquisition])
  | refused error =>
      unfold pollAcquire
      rw [acquisition]
      exact .refused isWaiting error acquisition _
  | granted connection =>
      rw [pollAcquire_of_granted acquisition]
      cases framed : (Pipeline.configure connection).1 with
      | error cause =>
          have used : e.useConnection connection now =
              (e.leased.pollClose (Pipeline.configure connection).2
                (.failure cause.text cause) none).after [.leased connection.id] := by
            unfold useConnection
            dsimp only
            rw [framed]
            rfl
          rw [used]
          exact .unframed isWaiting connection acquisition cause framed
      | ok p =>
          obtain ⟨opening, x, begun, only, pipeline, writeState, frames, events, idle, isReading,
              read⟩ := e.leased.beginExchange_opening p (Pipeline.configure connection).2 now
          have used : e.useConnection connection now =
              (e.leased.pollExchange x ⟨some (Pipeline.configure connection).2⟩ now).after
                (.leased connection.id :: opening) := by
            have begins : e.useConnection connection now =
                (e.leased.beginExchange p (Pipeline.configure connection).2 now).after
                  [.leased connection.id] := by
              unfold useConnection
              dsimp only
              rw [framed]
              rfl
            rw [begins, begun, Run.after_after]
            rfl
          rw [used]
          exact .begins isWaiting connection acquisition p framed x pipeline writeState frames
            events idle opening only isReading read

theorem poll_polls (e : Execution σ) (now : Instant) : Polls e now (e.poll now) := by
  unfold poll
  cases stage : e.stage with
  | created | acquiring => exact e.pollAcquire_polls (by rw [stage]; rfl) now
  | exchanging x lease => exact .drives x lease stage
  | closing connection ending body => exact .closes connection ending body stage
  | gone departure body => exact .departed (by rw [stage]; rfl)

/-- The ways in which an execution can go on from a poll of its exchange. -/
inductive Drives (e : Execution σ) (step : Step (Lease σ)) : Run σ → Prop where
  | goesOn (turn : step.turn = .pending) :
      Drives e step ({ e with
        completion := step.completion
        stage := .exchanging step.exchange step.resource }, step.actions)
  | ends (outcome : Outcome) (turn : step.turn = .ended outcome) :
      Drives e step ((({ e with completion := step.completion } : Execution σ).endExchange
        step.exchange step.resource outcome).after step.actions)
  | breaksOff (turn : step.turn = .crashed) :
      Drives e step (((({ e with completion := step.completion } : Execution σ).dropLease
        step.resource).1.leave .crashed (some step.exchange.frames.body)).after
          (step.actions ++ (({ e with completion := step.completion } : Execution σ).dropLease
            step.resource).2))

theorem pollExchange_drives (e : Execution σ) (x : Exchange) (lease : Lease σ) (now : Instant) :
    Drives e (x.poll lease e.handler e.completion now) (e.pollExchange x lease now) := by
  unfold pollExchange
  dsimp only
  cases turn : (x.poll lease e.handler e.completion now).turn with
  | pending =>
      have same := Drives.goesOn (e := e) turn
      rw [← List.append_nil (x.poll lease e.handler e.completion now).actions] at same
      exact same
  | ended outcome => exact .ends outcome turn
  | crashed =>
      rw [Run.after_after]
      exact .breaksOff turn

section Rests

variable {e : Execution σ}

/-- Nothing but a poll or a drop ends the wait for the pool. -/
theorem respond_waiting (isWaiting : e.stage.isWaiting = true) (stimulus : Stimulus σ) :
    (∃ now, stimulus = .poll now) ∨ stimulus = .drop ∨
      (e.respond stimulus).1.stage.isWaiting = true ∧
      Only Action.isCancel (e.respond stimulus).2 ∧
      ((e.respond stimulus).1.completion = e.completion ∨
        (e.respond stimulus).1.completion = e.completion.cancel.2) := by
  cases stimulus with
  | poll now => exact .inl ⟨now, rfl⟩
  | drop => exact .inr (.inl rfl)
  | answer given =>
      have waiting := (congrArg Stage.isWaiting (e.answer_stage given)).trans isWaiting
      exact .inr (.inr ⟨waiting, only_nil, .inl (e.answer_completion given)⟩)
  | cancel =>
      exact .inr (.inr ⟨isWaiting, by simp [respond, cancel, Action.isCancel], .inr rfl⟩)
  | transport id change =>
      have alike := e.stage.alike_mapConnection (·.changeTransport id change)
      have waiting := alike.isWaiting.trans isWaiting
      exact .inr (.inr ⟨waiting, only_nil, .inl rfl⟩)
  | feed items close =>
      have waiting := (e.stage.alike_mapBody (·.feed items close)).isWaiting.trans isWaiting
      exact .inr (.inr ⟨waiting, only_nil, .inl rfl⟩)

/-- Nothing but a poll or a drop takes an exchange anywhere. Its producer may be given more, and
its transport may change. -/
theorem respond_exchanging {x : Exchange} {lease : Lease σ}
    (stage : e.stage = .exchanging x lease) (stimulus : Stimulus σ) :
    (∃ now, stimulus = .poll now) ∨ stimulus = .drop ∨
      (∃ y moved, (e.respond stimulus).1.stage = .exchanging y moved ∧
        moved.connection.map Connection.bare = lease.connection.map Connection.bare ∧
        (y = x ∨ ∃ items close, y =
          { x with frames := { x.frames with body := x.frames.body.feed items close } })) ∧
      Only Action.isCancel (e.respond stimulus).2 ∧
      ((e.respond stimulus).1.completion = e.completion ∨
        (e.respond stimulus).1.completion = e.completion.cancel.2) := by
  cases stimulus with
  | poll now => exact .inl ⟨now, rfl⟩
  | drop => exact .inr (.inl rfl)
  | answer given =>
      have stays := (e.answer_stage given).trans stage
      exact .inr (.inr ⟨⟨x, lease, stays, rfl, .inl rfl⟩, only_nil,
        .inl (e.answer_completion given)⟩)
  | cancel =>
      exact .inr (.inr ⟨⟨x, lease, stage, rfl, .inl rfl⟩,
        by simp [respond, cancel, Action.isCancel], .inr rfl⟩)
  | transport id change =>
      refine .inr (.inr
        ⟨⟨x, ⟨lease.connection.map (·.changeTransport id change)⟩, ?_, ?_, .inl rfl⟩,
          only_nil, .inl rfl⟩)
      · simp only [respond, mapConnections, stage, Stage.mapConnection]
      · simp [Function.comp_def]
  | feed items close =>
      refine .inr (.inr ⟨⟨_, lease, ?_, rfl, .inr ⟨items, close, rfl⟩⟩, only_nil, .inl rfl⟩)
      simp only [respond, stage, Stage.mapBody]

end Rests

end Execution

/-- A poll leaves a connection in the lease that is as open as before. -/
theorem Exchange.poll_leased [Transport σ] (x : Exchange) {lease : Lease σ}
    {connection : Connection σ} (leased : lease.connection = some connection) (h : Handler)
    (c : Completion) (now : Instant) :
    ∃ still, (x.poll lease h c now).resource.connection = some still ∧
      still.receipt = connection.receipt := by
  have kept := x.poll_lease lease h c now
  rw [leased] at kept
  obtain ⟨still, still_leased, bare⟩ := Option.map_eq_some_iff.mp kept
  exact ⟨still, still_leased, Connection.receipt_of_bare bare⟩

theorem Pipeline.configure_receipt (connection : Connection σ) :
    (configure connection).2.receipt = connection.receipt := by
  unfold configure
  split <;> rfl

/-- An exchange has the connection that the pool granted, as open as it was then. -/
def Stage.Employs (granting : Acquisition σ) (history : List (Stimulus σ)) : Stage σ → Prop
  | exchanging _ lease => ∃ connection given, lease.connection = some connection ∧
      granting.answerBy history = some (.ok given) ∧ connection.receipt = given.receipt
  | _ => True

namespace Stage

variable {granting : Acquisition σ} {history : List (Stimulus σ)}

/-- After its end an exchange has no connection. -/
theorem employs_of_remains {stage : Stage σ} {body : Option MeteredBody}
    (remains : stage.remains = some body) : stage.Employs granting history := by
  cases stage with
  | closing _ _ _ | gone _ _ => trivial
  | _ => cases remains

theorem Employs.concat {stage : Stage σ} (h : stage.Employs granting history)
    (stimulus : Stimulus σ) : stage.Employs granting (history ++ [stimulus]) := by
  cases stage with
  | exchanging x lease =>
      obtain ⟨connection, given, held, known, same⟩ := h
      exact ⟨connection, given, held, Acquisition.answerBy_concat known stimulus, same⟩
  | _ => trivial

theorem Employs.changeTransport {stage : Stage σ} (h : stage.Employs granting history)
    (id : ConnectionId) (change : σ → σ) :
    (stage.mapConnection (·.changeTransport id change)).Employs granting history := by
  cases stage with
  | exchanging x lease =>
      obtain ⟨connection, given, held, known, same⟩ := h
      have receipt : (connection.changeTransport id change).receipt = connection.receipt :=
        Connection.receipt_of_bare (connection.bare_changeTransport id change)
      exact ⟨connection.changeTransport id change, given, by rw [held]; rfl, known,
        receipt.trans same⟩
  | _ => trivial

end Stage

namespace Execution

variable [Transport σ] {granting : Acquisition σ} {history : List (Stimulus σ)}

theorem pollExchange_employs (e : Execution σ) (x : Exchange) {lease : Lease σ}
    {connection given : Connection σ} (held : lease.connection = some connection)
    (known : granting.answerBy history = some (.ok given))
    (same : connection.receipt = given.receipt) (now : Instant) :
    (e.pollExchange x lease now).1.stage.Employs granting history := by
  obtain ⟨still, still_held, receipt⟩ := x.poll_leased held e.handler e.completion now
  have driven := e.pollExchange_drives x lease now
  generalize e.pollExchange x lease now = run at driven ⊢
  cases driven with
  | goesOn turn => exact ⟨still, given, still_held, known, receipt.trans same⟩
  | ends outcome turn => exact Stage.employs_of_remains (endExchange_ends _ _ _ outcome).remains
  | breaksOff turn => trivial

/-- Every stimulus leaves an exchange with the connection that was granted. -/
theorem respond_employs {setting : Request × Timeouts × Handler} {run : Run σ}
    (custody : Custody granting setting history run)
    (h : run.1.stage.Employs granting history) (stimulus : Stimulus σ) :
    (run.1.respond stimulus).1.stage.Employs granting (history ++ [stimulus]) := by
  cases stimulus with
  | poll now =>
      refine Stage.Employs.concat ?_ _
      have polled := run.1.poll_polls now
      rw [respond]
      generalize run.1.poll now = next at polled ⊢
      cases polled with
      | waits isWaiting unanswered => trivial
      | refused isWaiting error refused message =>
          exact Stage.employs_of_remains (finish_ends _ _ none).remains
      | unframed isWaiting connection granted cause unknown =>
          exact Stage.employs_of_remains (pollClose_ends _ _ _ none).remains
      | begins isWaiting connection granted p framed x pipeline writeState frames events idle
          opening only =>
          have reflects := custody.reflects
          rw [granted] at reflects
          obtain ⟨given, known, bare⟩ := reflects
          have receipt := (Pipeline.configure_receipt connection).trans
            (Connection.receipt_of_bare bare)
          exact run.1.leased.pollExchange_employs x rfl known receipt now
      | drives x lease stage =>
          rw [stage] at h
          obtain ⟨connection, given, held, known, same⟩ := h
          exact run.1.pollExchange_employs x held known same now
      | closes connection ending body stage =>
          exact Stage.employs_of_remains (pollClose_ends _ _ _ body).remains
      | departed gone => exact h
  | drop =>
      refine Stage.Employs.concat ?_ _
      cases present : run.1.stage.isGone with
      | true => rw [respond, run.1.drop_of_gone present]; exact h
      | false => exact Stage.employs_of_remains (run.1.drop_ends present).remains
  | answer given =>
      rw [respond, answer_stage]
      exact h.concat _
  | cancel => exact h.concat _
  | transport id change => exact (h.changeTransport id change).concat _
  | feed items close =>
      refine Stage.Employs.concat ?_ _
      rw [respond]
      cases stage : run.1.stage with
      | exchanging x lease =>
          rw [stage] at h
          exact h
      | _ => trivial

/-- At every moment of its life an exchange has the connection that was granted. -/
theorem life_employs (id : ExecutionId) (request : Request) (timeouts : Timeouts)
    (handler : Handler) (acquisition : Acquisition σ) (history : List (Stimulus σ)) :
    (life id request timeouts handler acquisition history).1.stage.Employs acquisition history :=
  life_invariant id request timeouts handler acquisition
    (fun past run => run.1.stage.Employs acquisition past) trivial
    (fun past stimulus h => respond_employs
      (life_custody id request timeouts handler acquisition past) h stimulus) history

omit [Transport σ] in
/-- By the time the task has run to its end it lent what was granted and handed it back. -/
theorem Custody.of_ranToEnd {setting : Request × Timeouts × Handler} {run : Run σ}
    (custody : Custody granting setting history run) (ended : run.1.stage.ranToEnd = true) :
    leases run.2 = granting.grantedBy history ∧
      (releases run.2).map Prod.fst = granting.grantedBy history := by
  obtain ⟨isUnderway, none_held⟩ := Stage.underway_of_ranToEnd ended
  obtain ⟨_, lent, balance⟩ := custody.underway isUnderway
  rw [none_held, List.append_nil] at balance
  exact ⟨lent, balance⟩

omit [Transport σ] in
/-- As long as an exchange is driven its connection is lent and was not handed back. -/
theorem exchanging_unreleased {setting : Request × Timeouts × Handler} {run : Run σ}
    (custody : Custody granting setting history run)
    (employs : run.1.stage.Employs granting history) {x : Exchange} {lease : Lease σ}
    (stage : run.1.stage = .exchanging x lease) : releases run.2 = [] := by
  obtain ⟨_, _, balance⟩ := custody.underway (by rw [stage]; rfl)
  rw [stage] at employs balance
  obtain ⟨connection, given, held, known, same⟩ := employs
  have same_id : connection.id = given.id := congrArg Prod.fst same
  have holds : (Stage.exchanging x lease).held = [given.id] := by
    simp [Stage.held, Stage.connections, held, same_id]
  rw [holds, Acquisition.grantedBy_of_ok known] at balance
  simpa using balance

end Execution

end HttpExchange
