import HttpExchange.Proofs.History

/-!
What each part of a task does with the connection it was given. A part that works on a
connection either still holds it afterwards or has handed it back to the pool, once, and it
takes no other. The lemmas follow the task from its last step back to its first: leaving,
concluding, closing, the end of the exchange, one poll of it, and the poll that leased the
connection.
-/

namespace HttpExchange

open Trace

variable {σ : Type}

/-- A declared length that cannot be read is no error. -/
theorem Headers.declaredLength_warns (headers : Headers) :
    ∀ line ∈ headers.declaredLength.2, line.level = .warn := by
  unfold declaredLength
  split
  · nofun
  · split
    · nofun
    · intro line member
      rw [List.mem_singleton.mp member]
      rfl

/-- What the pool is told when a connection is handed back. -/
def Connection.receipt (c : Connection σ) : ConnectionId × Bool := (c.id, c.isOpen)

theorem Connection.receipt_of_bare {c other : Connection σ} (same : c.bare = other.bare) :
    c.receipt = other.receipt :=
  congrArg (fun bare : Connection Unit => bare.receipt) same

namespace Stage

/-- The identities of the connections a task holds. -/
def held (stage : Stage σ) : List ConnectionId := stage.connections.map Connection.id

/-- The task has not taken the pool's answer. -/
def isWaiting : Stage σ → Bool
  | created | acquiring => true
  | _ => false

/-- The task drives its exchange. -/
def isExchanging : Stage σ → Bool
  | exchanging _ _ => true
  | _ => false

/-- The task has taken the pool's answer and was not dropped. -/
def isUnderway : Stage σ → Bool
  | exchanging _ _ | closing _ _ _ | gone .finished _ | gone .crashed _ => true
  | created | acquiring | gone .dropped _ => false

/-- The task ran to its end, by itself or because its handler broke off. -/
def ranToEnd : Stage σ → Bool
  | gone .finished _ | gone .crashed _ => true
  | _ => false

/-- The task waits for its connection to close. -/
def isClosing : Stage σ → Bool
  | closing _ _ _ => true
  | _ => false

def isGone : Stage σ → Bool
  | gone _ _ => true
  | _ => false

theorem present_of_waiting {stage : Stage σ} (isWaiting : stage.isWaiting = true) :
    stage.isGone = false := by
  cases stage with
  | created | acquiring => rfl
  | _ => cases isWaiting

/-- What goes to the pool, as closed, when the task is dropped where it stands. -/
def surrendered : Stage σ → List (ConnectionId × Bool)
  | exchanging _ lease => lease.connection.toList.map fun connection => (connection.id, false)
  | _ => []

theorem held_mapConnection (stage : Stage σ) (id : ConnectionId) (change : σ → σ) :
    (stage.mapConnection (·.changeTransport id change)).held = stage.held := by
  have same (c : Connection σ) : (c.changeTransport id change).id = c.id := by
    unfold Connection.changeTransport
    split <;> rfl
  cases stage with
  | exchanging x lease =>
      simp only [held, mapConnection, connections]
      cases lease.connection with
      | none => rfl
      | some connection => simp [same]
  | closing connection ending body => simp [held, mapConnection, connections, same]
  | _ => rfl

theorem held_mapBody (stage : Stage σ) (f : MeteredBody → MeteredBody) :
    (stage.mapBody f).held = stage.held := by
  cases stage <;> rfl

/-- The other stage is of the same kind and ends as this one does. Only the connections and the
body of the request may differ, so it is where a task stands after either was changed. -/
inductive Alike : Stage σ → Stage σ → Prop where
  | created : Alike created created
  | acquiring : Alike acquiring acquiring
  | exchanging (x : Exchange) (lease other : Lease σ) (body : MeteredBody) :
      Alike (exchanging x lease)
        (exchanging { x with frames := { x.frames with body := body } } other)
  | closing (connection other : Connection σ) (ending : Ending)
      (body changed : Option MeteredBody) :
      Alike (closing connection ending body) (closing other ending changed)
  | gone (departure : Departure) (body changed : Option MeteredBody) :
      Alike (gone departure body) (gone departure changed)

theorem alike_mapConnection (stage : Stage σ) (f : Connection σ → Connection σ) :
    stage.Alike (stage.mapConnection f) := by
  cases stage with
  | created => exact .created
  | acquiring => exact .acquiring
  | exchanging x lease => exact .exchanging x lease _ x.frames.body
  | closing connection ending body => exact .closing connection _ ending body body
  | gone departure body => exact .gone departure body body

theorem alike_mapBody (stage : Stage σ) (f : MeteredBody → MeteredBody) :
    stage.Alike (stage.mapBody f) := by
  cases stage with
  | created => exact .created
  | acquiring => exact .acquiring
  | exchanging x lease => exact .exchanging x lease lease _
  | closing connection ending body => exact .closing connection connection ending body _
  | gone departure body => exact .gone departure body _

namespace Alike

variable {stage other : Stage σ}

theorem isWaiting (alike : stage.Alike other) : other.isWaiting = stage.isWaiting := by
  cases alike <;> rfl

theorem isUnderway (alike : stage.Alike other) : other.isUnderway = stage.isUnderway := by
  cases alike with
  | gone departure body changed => cases departure <;> rfl
  | _ => rfl

theorem isGone (alike : stage.Alike other) : other.isGone = stage.isGone := by
  cases alike <;> rfl

end Alike

theorem gone_of_ranToEnd {stage : Stage σ} (ended : stage.ranToEnd = true) :
    ∃ departure body, stage = gone departure body := by
  cases stage with
  | gone departure body => exact ⟨departure, body, rfl⟩
  | _ => cases ended

/-- A task that ran to its end took the pool's answer and holds nothing. -/
theorem underway_of_ranToEnd {stage : Stage σ} (ended : stage.ranToEnd = true) :
    stage.isUnderway = true ∧ stage.held = [] := by
  cases stage with
  | gone departure body =>
      refine ⟨?_, rfl⟩
      cases departure with
      | finished | crashed => rfl
      | dropped => cases ended
  | _ => cases ended

end Stage

namespace Execution

/-- What an execution was started with. -/
def setting (e : Execution σ) : Request × Timeouts × Handler := (e.request, e.timeouts, e.handler)

/-- A part of a task was given the connections `ids` and accounts for them: those it does not
hold afterwards went to the pool. It takes no other connection. -/
structure AccountsFor (e : Execution σ) (ids : List ConnectionId) (run : Run σ) : Prop where
  setting : run.1.setting = e.setting
  acquisition : run.1.acquisition = e.acquisition
  underway : run.1.stage.isUnderway = true
  leases : leases run.2 = []
  balance : (releases run.2).map Prod.fst ++ run.1.stage.held = ids
  returned : run.1.returned.map Connection.receipt =
    e.returned.map Connection.receipt ++ releases run.2

/-- Actions that have nothing to do with the pool can be put in front. -/
theorem AccountsFor.after {e : Execution σ} {ids : List ConnectionId} {run : Run σ}
    (h : AccountsFor e ids run) (actions : List Action) (noLease : Trace.leases actions = [])
    (noRelease : releases actions = []) : AccountsFor e ids (run.after actions) where
  setting := h.setting
  acquisition := h.acquisition
  underway := h.underway
  leases := by simp [noLease, h.leases]
  balance := by simpa [noRelease] using h.balance
  returned := by simpa [noRelease] using h.returned

/-- The completion has no part in the account. -/
theorem AccountsFor.ofCompletion {e : Execution σ} {c : Completion} {ids : List ConnectionId}
    {run : Run σ} (h : AccountsFor { e with completion := c } ids run) : AccountsFor e ids run :=
  ⟨h.setting, h.acquisition, h.underway, h.leases, h.balance, h.returned⟩

/-- Handing back a connection accounts for it, if what follows needs none. -/
theorem AccountsFor.afterRelease {e : Execution σ} {connection : Connection σ} {run : Run σ}
    (h : AccountsFor (e.release connection).1 [] run) :
    AccountsFor e [connection.id] (run.after (e.release connection).2) where
  setting := h.setting
  acquisition := h.acquisition
  underway := h.underway
  leases := by simpa [release] using h.leases
  balance := by
    have none_left := h.balance
    simpa [release] using none_left
  returned := by
    have kept := h.returned
    simpa [release, Connection.receipt] using kept

/-- Leaving is no matter of the pool. -/
theorem leave_silent (e : Execution σ) (departure : Departure) (body : Option MeteredBody) :
    leases (e.leave departure body).2 = [] ∧ releases (e.leave departure body).2 = [] := by
  unfold leave
  dsimp only
  split <;> simp

theorem leave_accounts (e : Execution σ) (departure : Departure) (body : Option MeteredBody)
    (ended : departure ≠ .dropped) : AccountsFor e [] (e.leave departure body) := by
  obtain ⟨noLease, noRelease⟩ := e.leave_silent departure body
  refine ⟨rfl, rfl, ?_, noLease, ?_, ?_⟩
  · cases departure <;> first | rfl | contradiction
  · rw [noRelease]
    rfl
  · rw [noRelease, List.append_nil]
    rfl

theorem conclude_accounts (e : Execution σ) (callback : Callback) (result : Result)
    (body : Option MeteredBody) : AccountsFor e [] (e.conclude callback result body) := by
  have called : leases (e.handler.call callback e.completion).actions = [] ∧
      releases (e.handler.call callback e.completion).actions = [] := by
    unfold Handler.call
    dsimp only
    split <;> simp
  have left (c : Completion) (departure : Departure) (ended : departure ≠ .dropped) :
      AccountsFor e [] ({ e with completion := c }.leave departure body) :=
    (leave_accounts { e with completion := c } departure body ended).ofCompletion
  unfold conclude
  dsimp only
  split
  · exact (left _ .crashed (by decide)).after _ called.1 called.2
  · exact (left _ .finished (by decide)).after _ (by simpa using called.1)
      (by simpa using called.2)

theorem finish_accounts (e : Execution σ) (ending : Ending) (body : Option MeteredBody) :
    AccountsFor e [] (e.finish ending body) := by
  cases ending with
  | success => exact e.conclude_accounts _ _ body
  | failure message failure => exact (e.conclude_accounts _ _ body).after _ (by simp) (by simp)

theorem drop_of_gone (e : Execution σ) (gone : e.stage.isGone = true) : e.drop = (e, []) := by
  unfold drop
  cases stage : e.stage with
  | gone departure body => rfl
  | _ =>
      rw [stage] at gone
      cases gone

/-- Dropping a task takes nothing from the pool, hands back what the stage surrenders, and
leaves the task gone. -/
structure Dropping (e : Execution σ) (run : Run σ) : Prop where
  setting : run.1.setting = e.setting
  acquisition : run.1.acquisition = e.acquisition ∨ run.1.acquisition = .taken
  leases : leases run.2 = []
  releases : releases run.2 = e.stage.surrendered
  returned : run.1.returned.map Connection.receipt =
    e.returned.map Connection.receipt ++ Trace.releases run.2
  gone : ∃ body, run.1.stage = .gone .dropped body

theorem abandonAcquisition_taken (e : Execution σ) : e.abandonAcquisition.acquisition = .taken := by
  unfold abandonAcquisition
  split <;> rfl

theorem abandonAcquisition_setting (e : Execution σ) :
    e.abandonAcquisition.setting = e.setting := by
  unfold abandonAcquisition
  split <;> rfl

theorem abandonAcquisition_returned (e : Execution σ) :
    e.abandonAcquisition.returned = e.returned := by
  unfold abandonAcquisition
  split <;> rfl

/-- Leaving adds nothing to what was handed back before. -/
theorem Dropping.ofLeave {e left : Execution σ} (body : Option MeteredBody)
    (handing : List Action) (setting : left.setting = e.setting)
    (acquisition : left.acquisition = e.acquisition ∨ left.acquisition = .taken)
    (noLease : Trace.leases handing = []) (handed : Trace.releases handing = e.stage.surrendered)
    (returned : left.returned.map Connection.receipt =
      e.returned.map Connection.receipt ++ Trace.releases handing) :
    Dropping e ((left.leave .dropped body).after handing) where
  setting := setting
  acquisition := acquisition
  leases := by
    rw [Run.after_snd, leases_append, noLease, (left.leave_silent .dropped body).1]
    rfl
  releases := by
    rw [Run.after_snd, releases_append, handed, (left.leave_silent .dropped body).2,
      List.append_nil]
  returned := by
    rw [Run.after_snd, releases_append, (left.leave_silent .dropped body).2, List.append_nil]
    exact returned
  gone := ⟨body, rfl⟩

theorem dropLease_dropping (e : Execution σ) (x : Exchange) (lease : Lease σ)
    (stage : e.stage = .exchanging x lease) :
    Dropping e (((e.dropLease lease).1.leave .dropped (some x.frames.body)).after
      (e.dropLease lease).2) := by
  unfold dropLease
  cases held : lease.connection with
  | none =>
      have nothing : e.stage.surrendered = [] := by simp [stage, Stage.surrendered, held]
      exact Dropping.ofLeave _ [] rfl (.inl rfl) rfl nothing.symm (by simp)
  | some connection =>
      have handed : e.stage.surrendered = [(connection.id, false)] := by
        simp [stage, Stage.surrendered, held]
      refine Dropping.ofLeave _ _ rfl (.inl rfl) rfl handed.symm ?_
      simp only [Run.after_fst, release, List.map_append, Connection.markClosed]
      rfl

theorem drop_dropping (e : Execution σ) (present : e.stage.isGone = false) :
    Dropping e e.drop := by
  have quiet (left : Execution σ) (body : Option MeteredBody)
      (setting : left.setting = e.setting)
      (acquisition : left.acquisition = e.acquisition ∨ left.acquisition = .taken)
      (returned : left.returned = e.returned) (nothing : e.stage.surrendered = []) :
      Dropping e (left.leave .dropped body) :=
    Dropping.ofLeave body [] setting acquisition rfl nothing.symm (by simp [returned])
  unfold drop
  cases stage : e.stage with
  | created =>
      refine ⟨e.abandonAcquisition_setting, .inr e.abandonAcquisition_taken, rfl, ?_, ?_, _, rfl⟩
      · rw [stage]
        rfl
      · simp [e.abandonAcquisition_returned]
  | acquiring =>
      exact quiet _ none e.abandonAcquisition_setting (.inr e.abandonAcquisition_taken)
        e.abandonAcquisition_returned (by rw [stage]; rfl)
  | exchanging x lease => exact e.dropLease_dropping x lease stage
  | closing connection ending body =>
      exact quiet _ body rfl (.inl rfl) rfl (by rw [stage]; rfl)
  | gone departure body =>
      rw [stage] at present
      cases present

variable [Transport σ]

theorem pollClose_accounts (e : Execution σ) (connection : Connection σ) (ending : Ending)
    (body : Option MeteredBody) :
    AccountsFor e [connection.id] (e.pollClose connection ending body) := by
  unfold pollClose
  dsimp only
  split
  · exact ⟨rfl, rfl, rfl, by simp, rfl, by simp⟩
  · have finished := finish_accounts (e.release connection.close.2).1 ending body
    have handed := finished.afterRelease.after [.close connection.id connection.close.1]
      (by simp) (by simp)
    rw [Run.after_after] at handed
    exact handed

theorem closeLease_accounts (e : Execution σ) (lease : Lease σ) (ending : Ending)
    (body : Option MeteredBody) :
    AccountsFor e (lease.connection.toList.map Connection.id)
      (e.closeLease lease ending body) := by
  unfold closeLease
  split
  · rename_i empty
    rw [empty]
    exact e.finish_accounts ending body
  · rename_i connection held
    rw [held]
    exact e.pollClose_accounts connection ending body

theorem endExchange_accounts (e : Execution σ) (x : Exchange) (lease : Lease σ)
    (outcome : Outcome) :
    AccountsFor e (lease.connection.toList.map Connection.id)
      (e.endExchange x lease outcome) := by
  unfold endExchange
  dsimp only
  split
  · rename_i connection _ held
    rw [held]
    exact (finish_accounts (e.release connection).1 _ _).afterRelease
  · exact e.closeLease_accounts lease _ _

omit [Transport σ] in
/-- The lease of a task whose handler broke off. -/
theorem dropLease_accounts (e : Execution σ) (lease : Lease σ) (body : Option MeteredBody) :
    AccountsFor e (lease.connection.toList.map Connection.id)
      (((e.dropLease lease).1.leave .crashed body).after (e.dropLease lease).2) := by
  unfold dropLease
  split
  · rename_i empty
    rw [empty]
    exact (e.leave_accounts .crashed body (by decide)).after _ (by simp) (by simp)
  · rename_i connection held
    rw [held]
    have left := leave_accounts (e.release connection.markClosed).1 .crashed body (by decide)
    have handed := left.afterRelease.after
      [.log ⟨.warn, "lease dropped without release, discarding connection"⟩] (by simp) (by simp)
    rw [Run.after_after] at handed
    exact handed

/-- A poll of the exchange either goes on with the connection in its lease or parts with it. -/
theorem pollExchange_accounts (e : Execution σ) (x : Exchange) (lease : Lease σ)
    (now : Instant) :
    AccountsFor e (lease.connection.toList.map Connection.id)
      (e.pollExchange x lease now) := by
  have driving := x.poll_driving lease e.handler e.completion now
  have kept : (x.poll lease e.handler e.completion now).resource.connection.toList.map
      Connection.id = lease.connection.toList.map Connection.id := by
    have bare := congrArg (fun held => held.toList.map Connection.id)
      (x.poll_lease lease e.handler e.completion now)
    simpa [Option.toList_map, Connection.bare, Function.comp_def] using bare
  unfold pollExchange
  dsimp only
  refine AccountsFor.after ?_ _ driving.leases_eq_nil
    driving.midway_of_driving.releases_eq_nil
  rw [← kept]
  split
  · exact ⟨rfl, rfl, rfl, rfl, by simp [Stage.held, Stage.connections], by simp⟩
  · exact (endExchange_accounts _ _ _ _).ofCompletion
  · exact (dropLease_accounts _ _ _).ofCompletion

/-- An exchange begins with preparations and goes on with its first poll. -/
theorem beginExchange_opening (e : Execution σ) (p : Pipeline) (connection : Connection σ)
    (now : Instant) :
    ∃ opening x, e.beginExchange p connection now =
        (e.pollExchange x ⟨some connection⟩ now).after opening ∧
      Only Action.isOpening opening ∧ x.pipeline = p ∧ x.writeState = .writing ∧
      x.frames = .ofBody e.request.head
        (.ofProducer e.request.head.headers e.request.content.produce) ∧
      x.events = [] ∧ (x.idle = .ofTimeouts e.timeouts ∨
        x.idle = (IdleWatch.ofTimeouts e.timeouts).installRead now) ∧
      x.isReading = e.request.isFullDuplex ∧ x.idle.read =
        if e.request.isFullDuplex then IdleWatch.started .read e.timeouts.read now else none := by
  have produced : Only Action.isOpening
      (.produce :: e.request.head.headers.declaredLength.2.map .log) := by
    refine (only_cons _ _).mpr ⟨rfl, fun action member => ?_⟩
    obtain ⟨line, warned, rfl⟩ := List.mem_map.mp member
    simp [Action.isOpening, Headers.declaredLength_warns _ line warned]
  unfold beginExchange
  dsimp only
  cases e.request.isFullDuplex with
  | true =>
      exact ⟨_, _, rfl, (only_append _ _).mpr ⟨produced, by simp [Action.isOpening]⟩, rfl, rfl,
        rfl, rfl, .inr rfl, rfl, rfl⟩
  | false => exact ⟨_, _, rfl, produced, rfl, rfl, rfl, rfl, .inl rfl, rfl, rfl⟩

theorem beginExchange_accounts (e : Execution σ) (p : Pipeline) (connection : Connection σ)
    (now : Instant) : AccountsFor e [connection.id] (e.beginExchange p connection now) := by
  obtain ⟨opening, x, begun, only, _⟩ := e.beginExchange_opening p connection now
  rw [begun]
  refine (e.pollExchange_accounts x ⟨some connection⟩ now).after opening ?_ ?_
  · exact only.filterMap_eq_nil fun action h => by cases action <;> first | rfl | cases h
  · exact only.filterMap_eq_nil fun action h => by cases action <;> first | rfl | cases h

omit [Transport σ] in
theorem configure_id (connection : Connection σ) :
    (Pipeline.configure connection).2.id = connection.id := by
  unfold Pipeline.configure
  split <;> rfl

/-- A leased connection is held or handed back by the end of the poll that leased it. -/
theorem useConnection_accounts (e : Execution σ) (connection : Connection σ) (now : Instant) :
    ∃ run, e.useConnection connection now = run.after [.leased connection.id] ∧
      AccountsFor { e with acquisition := .taken } [connection.id] run := by
  refine ⟨_, rfl, ?_⟩
  rw [← configure_id connection]
  split
  · exact (beginExchange_accounts _ _ _ now).ofCompletion
  · exact (closeLease_accounts _ ⟨some (Pipeline.configure connection).2⟩ _ _).ofCompletion

/-- A task that is underway keeps or hands back what it holds. -/
theorem poll_accounts (e : Execution σ) (now : Instant) (underway : e.stage.isUnderway = true) :
    AccountsFor e e.stage.held (e.poll now) := by
  unfold poll
  cases stage : e.stage with
  | created => rw [stage] at underway; cases underway
  | acquiring => rw [stage] at underway; cases underway
  | exchanging x lease => exact e.pollExchange_accounts x lease now
  | closing connection ending body => exact e.pollClose_accounts connection ending body
  | gone departure body =>
      rw [stage] at underway
      refine ⟨rfl, rfl, by rw [stage]; exact underway, rfl, by simp [stage], by simp⟩

theorem poll_of_waiting {e : Execution σ} (isWaiting : e.stage.isWaiting = true)
    (now : Instant) : e.poll now = e.pollAcquire now := by
  unfold poll
  cases stage : e.stage with
  | created | acquiring => rfl
  | _ =>
      rw [stage] at isWaiting
      cases isWaiting

theorem poll_of_gone {e : Execution σ} (gone : e.stage.isGone = true) (now : Instant) :
    e.poll now = (e, []) := by
  unfold poll
  cases stage : e.stage with
  | gone departure body => rfl
  | _ =>
      rw [stage] at gone
      cases gone

theorem pollAcquire_of_granted {e : Execution σ} {connection : Connection σ}
    (granted : e.acquisition = .granted connection) (now : Instant) :
    e.pollAcquire now = e.useConnection connection now := by
  unfold pollAcquire
  rw [granted]

/-- As long as there is no answer to take, the task waits for it. -/
theorem pollAcquire_of_unanswered {e : Execution σ}
    (unanswered : e.acquisition = .waiting ∨ e.acquisition = .taken) (now : Instant) :
    e.pollAcquire now = ({ e with stage := .acquiring }, []) := by
  unfold pollAcquire
  rcases unanswered with acquisition | acquisition <;> rw [acquisition]

/-- A refused task needs no connection. -/
theorem pollAcquire_refused (e : Execution σ) {error : LeaseError} (now : Instant)
    (refused : e.acquisition = .refused error) :
    ∃ run, e.pollAcquire now = run.after [.refused error] ∧
      AccountsFor { e with acquisition := .taken } [] run := by
  refine ⟨_, by unfold pollAcquire; rw [refused], ?_⟩
  exact (conclude_accounts _ _ _ none).after _ (by simp) (by simp)

end Execution

end HttpExchange
