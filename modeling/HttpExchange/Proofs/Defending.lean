import HttpExchange.Proofs.Accountability
import HttpExchange.Proofs.Guarding
import HttpExchange.Proofs.Opening

/-!
Branches that are there only in case something else went wrong. Wherever a poll stands, the lease
it needs has its connection, its write loop has something to write, and the account of its body
is closed exactly if the producer was let go of. So neither the exchange itself ever finds its
socket unconnected, nor does a body turn away a chunk or an error of a producer it still has. A
result that was closed was also sent, and the one that says that the task was abandoned is sent by
the guard of the task and by nobody else.
-/

namespace HttpExchange

open Trace

variable {σ : Type}

/-- The body of an exchange in progress has its account. -/
def Stage.Accountable : Stage σ → Prop
  | exchanging x _ => x.frames.body.Accountable
  | _ => True

theorem Stage.accountable_of_remains {stage : Stage σ} {body : Option MeteredBody}
    (remains : stage.remains = some body) : stage.Accountable := by
  cases stage with
  | closing _ _ _ | gone _ _ => trivial
  | _ => cases remains

theorem Exchange.poll_accountable [Transport σ] {x : Exchange} {lease : Lease σ}
    {connection : Connection σ} (held : lease.connection = some connection)
    (h : x.frames.body.Accountable) (handler : Handler) (c : Completion) (now : Instant) :
    (x.poll lease handler c now).exchange.frames.body.Accountable := by
  obtain ⟨rounds, loops, -⟩ := PollPoint.starts_loops handler now x lease c
  exact loops.keeps (fun _ => PollPoint.round_sound) (PollPoint.starts_sound held h c)

/-- No defensive branch is open to a poll of an exchange, which is a loop from its start: wherever
that comes by, the lease has the connection that is needed, the write loop has something to write
and the body has its account; and if it ends for want of a connected socket, then the transport
said so. -/
structure Exchange.Defended [Transport σ] (x : Exchange) (lease : Lease σ) (handler : Handler)
    (c : Completion) (now : Instant) : Prop where
  loops : ∃ rounds,
    Loops (PollPoint.round handler now) (.starts x lease c) rounds (x.poll lease handler c now)
  points : ∀ point, Visits (PollPoint.round handler now) (.starts x lease c) point → point.Sound
  transport : ∀ outcome, (x.poll lease handler c now).turn = .ended outcome →
    outcome.isDisconnected = true →
      ∃ action ∈ (x.poll lease handler c now).actions,
        action.netError? = some .socketNotConnected

theorem Exchange.defended_of_held [Transport σ] {x : Exchange} {lease : Lease σ}
    {connection : Connection σ} (held : lease.connection = some connection)
    (h : x.frames.body.Accountable) (handler : Handler) (c : Completion) (now : Instant) :
    x.Defended lease handler c now where
  loops := (PollPoint.starts_loops handler now x lease c).imp fun _ found => found.1
  points _ visits :=
    visits.keeps (fun _ => PollPoint.round_sound) (PollPoint.starts_sound held h c)
  transport _ := x.poll_disconnected held handler c now

namespace Execution

section Driven

variable {e : Execution σ} {now : Instant} {x : Exchange} {lease : Lease σ} {c : Completion}

theorem driven_accountable (h : e.stage.Accountable)
    (driven : e.driven? now = some (x, lease, c)) : x.frames.body.Accountable := by
  rcases driven_cases driven with ⟨stage, -⟩ | ⟨-, opens⟩
  · rw [stage] at h
    exact h
  · obtain ⟨_, pipeline, -, -, rfl, -, -⟩ := opening_cases opens
    have first : (e.firstExchange pipeline now).frames.body =
        .ofProducer e.request.head.headers e.request.content.produce := by
      unfold firstExchange
      dsimp only
      split <;> rfl
    rw [first]
    exact MeteredBody.accountable_ofProducer _ _

/-- An exchange that is polled has its connection. -/
theorem driven_held {granting : Acquisition σ} {history : List (Stimulus σ)}
    (employs : e.stage.Employs granting history)
    (driven : e.driven? now = some (x, lease, c)) :
    ∃ connection, lease.connection = some connection := by
  rcases driven_cases driven with ⟨stage, -⟩ | ⟨-, opens⟩
  · rw [stage] at employs
    obtain ⟨connection, -, held, -, -⟩ := employs
    exact ⟨connection, held⟩
  · obtain ⟨_, _, -, -, -, rfl, -⟩ := opening_cases opens
    exact ⟨_, rfl⟩

end Driven

variable [Transport σ] {granting : Acquisition σ} {history : List (Stimulus σ)}

theorem poll_accountable {e : Execution σ} (employs : e.stage.Employs granting history)
    (h : e.stage.Accountable) (now : Instant) : (e.poll now).1.stage.Accountable := by
  cases driven : e.driven? now with
  | none =>
      have unresumed := (poll_of_undriven driven).2
      cases stage : (e.poll now).1.stage with
      | exchanging x lease => exact absurd stage (unresumed x lease)
      | _ => trivial
  | some polled =>
      obtain ⟨x, lease, c⟩ := polled
      obtain ⟨connection, held⟩ := driven_held employs driven
      have account := driven_accountable h driven
      obtain ⟨acquisition, before, whole⟩ := poll_of_driven driven
      rw [whole, Run.after_fst]
      have next := Exchange.poll_accountable held account e.handler c now
      have driven := ({ e with completion := c, acquisition := acquisition } :
        Execution σ).pollExchange_drives x lease now
      generalize ({ e with completion := c, acquisition := acquisition } :
        Execution σ).pollExchange x lease now = run at driven ⊢
      cases driven with
      | goesOn turn => exact next
      | ends outcome turn =>
          exact Stage.accountable_of_remains (endExchange_ends _ _ _ outcome).remains
      | breaksOff turn => trivial

/-- Every stimulus leaves the body its account. -/
theorem respond_accountable {e : Execution σ} (employs : e.stage.Employs granting history)
    (h : e.stage.Accountable) (stimulus : Stimulus σ) :
    (e.respond stimulus).1.stage.Accountable := by
  cases stimulus with
  | poll now => exact poll_accountable employs h now
  | drop =>
      rw [respond]
      cases present : e.stage.isGone with
      | true =>
          rw [e.drop_of_gone present]
          exact h
      | false => exact Stage.accountable_of_remains (e.drop_ends present).remains
  | answer given =>
      rw [respond, answer_stage]
      exact h
  | cancel => exact h
  | transport id change =>
      rw [respond]
      cases stage : e.stage with
      | exchanging x lease =>
          rw [stage] at h
          simp only [mapConnections, stage, Stage.mapConnection]
          exact h
      | _ => simp [mapConnections, stage, Stage.mapConnection, Stage.Accountable]
  | feed items close =>
      rw [respond]
      cases stage : e.stage with
      | exchanging x lease =>
          rw [stage] at h
          exact MeteredBody.Accountable.feed h items close
      | _ => trivial

section Life

variable (id : ExecutionId) (request : Request) (timeouts : Timeouts) (handler : Handler)
  (acquisition : Acquisition σ)

theorem life_accountable (history : List (Stimulus σ)) :
    (life id request timeouts handler acquisition history).1.stage.Accountable :=
  life_invariant id request timeouts handler acquisition (fun _ run => run.1.stage.Accountable)
    trivial (fun past stimulus h => respond_accountable
      (life_employs id request timeouts handler acquisition past) h stimulus) history

/-- All its life, whatever exchange a task polls, the poll comes by no defensive branch, and it
ends for want of a connected socket only if the transport said so. A body, polled in whatever way,
keeps its account. Whenever the result was closed, one was sent; and the future yields the
abandonment only after the task is gone and its guard settled it so. -/
theorem defensive_branches_dead (history : List (Stimulus σ)) :
    let run := life id request timeouts handler acquisition history
    (∀ now x lease c, run.1.driven? now = some (x, lease, c) →
      x.Defended lease run.1.handler c now ∧
        ∃ acquisition before, run.1.poll now =
          (({ run.1 with completion := c, acquisition := acquisition } : Execution σ).pollExchange
            x lease now).after before) ∧
    (∀ now, run.1.driven? now = none → ∀ abort, .control abort ∉ (run.1.poll now).2) ∧
    (∀ headers producer steps,
      ((MeteredBody.ofProducer headers producer).play steps).body.Accountable) ∧
    (run.1.completion.isSettled = true → run.1.completion.result ≠ none) ∧
    (run.1.completion.await = some .abandoned → run.1.stage.isGone = true ∧
      guarding <:+: run.2) := by
  intro run
  have employs := life_employs id request timeouts handler acquisition history
  have account := life_accountable id request timeouts handler acquisition history
  have tally := (life_attended id request timeouts handler acquisition history).tally
  refine ⟨fun now x lease c driven => ⟨?_, poll_of_driven driven⟩,
    fun now undriven => (poll_of_undriven undriven).1,
    fun headers producer => (MeteredBody.accountable_ofProducer headers producer).play, ?_, ?_⟩
  · obtain ⟨connection, held⟩ := driven_held employs driven
    exact Exchange.defended_of_held held (driven_accountable account driven) _ c now
  · intro settled unsent
    rw [tally.settled, unsent] at settled
    cases settled
  · rw [tally.await]
    exact (life_guards id request timeouts handler acquisition history).result

end Life

end Execution

namespace Bench

/-- A plain request on a connection whose socket is not connected. -/
def looseLife (history : List (Stimulus Wire)) : Execution.Run Wire :=
  Execution.life 1 plainRequest .standard .quiet (.granted (.ofTransport ⟨7⟩ Protocol.http11.text
    { Wire.idle with readyError := some .socketNotConnected })) history

/-- The first poll on a loose socket ends as its transport answered, and a task that is dropped
after its first poll is abandoned by its guard. -/
theorem defensive_branches_dead_loose :
    (∃ x lease c, (looseLife []).1.driven? .start = some (x, lease, c) ∧
      (x.poll lease .quiet c .start).turn =
        .ended (.writeFailed (.writeFailed .socketNotConnected)) ∧
      ∃ action ∈ (x.poll lease .quiet c .start).actions,
        action.netError? = some .socketNotConnected) ∧
    (looseLife [.drop]).1.driven? .start = none ∧
    (∀ abort, .control abort ∉ ((looseLife [.drop]).1.poll .start).2) ∧
    (plainLife [.poll .start, .drop]).1.completion.result ≠ none ∧
    guarding <:+: (plainLife [.poll .start, .drop]).2 := by
  have dead (history : List (Stimulus Wire)) := Execution.defensive_branches_dead 1 plainRequest
    .standard .quiet (.granted (.ofTransport ⟨7⟩ Protocol.http11.text
      { Wire.idle with readyError := some .socketNotConnected })) history
  have dropped := Execution.defensive_branches_dead 1 plainRequest .standard .quiet
    (.granted stickyConnection) [.poll .start, .drop]
  obtain ⟨-, -, -, sent, guarded⟩ := dropped
  let e := (looseLife []).1
  have ends : ((e.firstExchange .single .start).poll ⟨some (.ofTransport ⟨7⟩ Protocol.http11.text
      { Wire.idle with readyError := some .socketNotConnected })⟩ .quiet e.completion.attach
        .start).turn = .ended (.writeFailed (.writeFailed .socketNotConnected)) := by
    decide +kernel
  refine ⟨⟨_, _, _, rfl, ends, ?_⟩, rfl, ?_, ?_, ?_⟩
  · exact (((dead []).1 .start _ _ _ rfl).1.transport _ ends rfl)
  · exact (dead [.drop]).2.1 .start rfl
  · exact sent (by decide +kernel)
  · exact (guarded (by decide +kernel)).2

end Bench

end HttpExchange
