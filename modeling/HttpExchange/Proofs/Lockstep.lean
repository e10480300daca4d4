import HttpExchange.Proofs.Correspondence

/-!
Two executions in lockstep. They carry out the same request with the same handler, and the same
happens to them at the same times; their connections correspond in the sense of `Lockstep`. Then
they do the same, word for word: every callback, timer, cancellation, release and log line of the
one is one of the other. Each operation of an execution has one lemma: done on both sides it
leaves both sides in step.
-/

namespace HttpExchange

open Trace

/-- An exchange without a connection has none to hand back. -/
theorem Execution.endExchange_of_bare {σ : Type} [Transport σ] (e : Execution σ) (x : Exchange)
    (outcome : Outcome) :
    e.endExchange x ⟨none⟩ outcome = e.finish (e.endingOf outcome) (some x.frames.body) := by
  unfold endExchange
  dsimp only
  split
  · cases ‹none = some _›
  · rfl

namespace Lockstep

variable {σ τ : Type} [Transport σ] [Transport τ] {L : Lockstep σ τ}

structure Grants (L : Lockstep σ τ) (c : Connection σ) (d : Connection τ) : Prop where
  setup : L.Setup c.bare d.bare
  transport : L.Matches c.transport d.transport

inductive Answers (L : Lockstep σ τ) :
    Except LeaseError (Connection σ) → Except LeaseError (Connection τ) → Prop
  | granted {c : Connection σ} {d : Connection τ} (grants : L.Grants c d) :
      Answers L (.ok c) (.ok d)
  | refused (error : LeaseError) : Answers L (.error error) (.error error)

inductive Acquisitions (L : Lockstep σ τ) : Acquisition σ → Acquisition τ → Prop
  | waiting : Acquisitions L .waiting .waiting
  | granted {c : Connection σ} {d : Connection τ} (grants : L.Grants c d) :
      Acquisitions L (.granted c) (.granted d)
  | refused (error : LeaseError) : Acquisitions L (.refused error) (.refused error)
  | taken : Acquisitions L .taken .taken

inductive Stages (L : Lockstep σ τ) : Stage σ → Stage τ → Prop
  | created : Stages L .created .created
  | acquiring : Stages L .acquiring .acquiring
  | exchanging {x y : Exchange} {one : Lease σ} {other : Lease τ}
      (exchanges : L.Exchanges x y) (leases : L.Leases one other) :
      Stages L (.exchanging x one) (.exchanging y other)
  | closing {c : Connection σ} {d : Connection τ} (joins : L.Joins c d) (ending : Ending)
      (body : Option MeteredBody) : Stages L (.closing c ending body) (.closing d ending body)
  | gone (departure : Departure) (body : Option MeteredBody) :
      Stages L (.gone departure body) (.gone departure body)

structure Executions (L : Lockstep σ τ) (e : Execution σ) (f : Execution τ) : Prop where
  request : e.request = f.request
  timeouts : e.timeouts = f.timeouts
  handler : e.handler = f.handler
  completion : e.completion = f.completion
  feeds : L.Feeds e.request.content.produce.items
  acquisition : L.Acquisitions e.acquisition f.acquisition
  stage : L.Stages e.stage f.stage

structure Runs (L : Lockstep σ τ) (one : Execution.Run σ) (other : Execution.Run τ) : Prop where
  execution : L.Executions one.1 other.1
  actions : L.Traces one.2 other.2

theorem Runs.after {one : Execution.Run σ} {other : Execution.Run τ} (runs : L.Runs one other)
    {first second : List Action} (traces : L.Traces first second) :
    L.Runs (one.after first) (other.after second) :=
  ⟨runs.execution, traces.append runs.actions⟩

section Execution

variable {e : Execution σ} {f : Execution τ}

theorem Executions.withCompletion (executions : L.Executions e f) {c d : Completion}
    (same : c = d) : L.Executions { e with completion := c } { f with completion := d } := by
  obtain ⟨request, timeouts, handler, -, feeds, acquisition, stage⟩ := executions
  exact ⟨request, timeouts, handler, same, feeds, acquisition, stage⟩

theorem Executions.withStage (executions : L.Executions e f) {stage : Stage σ}
    {stage' : Stage τ} (stages : L.Stages stage stage') :
    L.Executions { e with stage := stage } { f with stage := stage' } := by
  obtain ⟨request, timeouts, handler, completion, feeds, acquisition, -⟩ := executions
  exact ⟨request, timeouts, handler, completion, feeds, acquisition, stages⟩

theorem Executions.withAcquisition (executions : L.Executions e f) {acquired : Acquisition σ}
    {acquired' : Acquisition τ} (acquisitions : L.Acquisitions acquired acquired') :
    L.Executions { e with acquisition := acquired } { f with acquisition := acquired' } := by
  obtain ⟨request, timeouts, handler, completion, feeds, -, stage⟩ := executions
  exact ⟨request, timeouts, handler, completion, feeds, acquisitions, stage⟩

theorem Executions.withLost (executions : L.Executions e f) (lost : List (Connection σ))
    (lost' : List (Connection τ)) :
    L.Executions { e with lost := lost } { f with lost := lost' } := by
  obtain ⟨request, timeouts, handler, completion, feeds, acquisition, stage⟩ := executions
  exact ⟨request, timeouts, handler, completion, feeds, acquisition, stage⟩

theorem leave (executions : L.Executions e f) (departure : Departure)
    (body : Option MeteredBody) : L.Runs (e.leave departure body) (f.leave departure body) := by
  have gone := executions.withStage (.gone departure body)
  unfold Execution.leave
  dsimp only
  rw [← executions.completion]
  refine ⟨gone.withCompletion rfl, .wordless ?_⟩
  split <;> simp [Action.isWordless]

theorem release (executions : L.Executions e f) {c : Connection σ} {d : Connection τ}
    (joins : L.Joins c d) : L.Runs (e.release c) (f.release d) := by
  obtain ⟨request, timeouts, handler, completion, feeds, acquisition, stage⟩ := executions
  obtain ⟨sameId, sameOpen⟩ := Prod.mk.inj joins.receipt
  unfold Execution.release
  rw [← completion, ← sameId, ← sameOpen]
  exact ⟨⟨request, timeouts, handler, rfl, feeds, acquisition, stage⟩,
    .wordless (by simp [Action.isWordless])⟩

theorem dropLease (executions : L.Executions e f) {one : Lease σ} {other : Lease τ}
    (leases : L.Leases one other) : L.Runs (e.dropLease one) (f.dropLease other) := by
  obtain ⟨connection⟩ := one
  obtain ⟨connection'⟩ := other
  cases leases with
  | none => exact ⟨executions, .nil⟩
  | some joins =>
      refine (release executions (joins.shut joins.transport)).after ?_
      exact .wordless (by simp [Action.isWordless])

theorem conclude (executions : L.Executions e f) (callback : Callback) (result : Result)
    (body : Option MeteredBody) :
    L.Runs (e.conclude callback result body) (f.conclude callback result body) := by
  have told := call_wordless e.handler callback e.completion
  have same : f.handler.call callback f.completion = e.handler.call callback e.completion := by
    rw [executions.handler, executions.completion]
  unfold Execution.conclude
  dsimp only
  rw [same]
  split
  · exact (leave (executions.withCompletion rfl) _ _).after (.wordless told)
  · refine (leave (executions.withCompletion rfl) _ _).after ?_
    exact .wordless ((only_append _ _).mpr ⟨told, by simp [Action.isWordless]⟩)

theorem finish (executions : L.Executions e f) (ending : Ending) (body : Option MeteredBody) :
    L.Runs (e.finish ending body) (f.finish ending body) := by
  cases ending with
  | success => exact conclude executions .complete .success body
  | failure message failure =>
      exact (conclude executions (.failed failure.classify) (.failure failure.classify)
        body).after (.wordless (by simp [Action.isWordless]))

theorem pollClose (executions : L.Executions e f) {c : Connection σ} {d : Connection τ}
    (joins : L.Joins c d) (ending : Ending) (body : Option MeteredBody) :
    L.Runs (e.pollClose c ending body) (f.pollClose d ending body) := by
  obtain ⟨same, later⟩ := L.mirrors.close joins.transport
  have closed := joins.shut later
  have released := release executions closed
  have asking (answer : Readiness) : L.Traces [.close c.id answer] [.close d.id answer] := by
    rw [joins.id]
    exact .wordless (by simp [Action.isWordless])
  unfold Execution.pollClose
  dsimp only [Connection.close]
  rw [← same]
  split
  · exact ⟨executions.withStage (.closing closed ending body), asking _⟩
  · exact (finish released.execution ending body).after ((asking _).append released.actions)

theorem endingOf (executions : L.Executions e f) (outcome : Outcome) :
    e.endingOf outcome = f.endingOf outcome := by
  unfold Execution.endingOf Execution.uri
  rw [executions.request]

theorem endExchange (executions : L.Executions e f) {x y : Exchange} {one : Lease σ}
    {other : Lease τ} (exchanges : L.Exchanges x y) (leases : L.Leases one other)
    (outcome : Outcome) :
    L.Runs (e.endExchange x one outcome) (f.endExchange y other outcome) := by
  have written := exchanges.writeState
  obtain ⟨connection⟩ := one
  obtain ⟨connection'⟩ := other
  cases leases with
  | none =>
      rw [Execution.endExchange_of_bare, Execution.endExchange_of_bare, exchanges.frames,
        ← endingOf executions outcome]
      exact finish executions _ _
  | @some c d joins =>
      by_cases fit : outcome = .complete ∧ x.writeState = .done
      · obtain ⟨rfl, finished⟩ := fit
        rw [Execution.endExchange_of_fit e rfl finished,
          Execution.endExchange_of_fit f rfl (written.trans finished), exchanges.frames]
        have released := release executions joins
        exact (finish released.execution .success _).after released.actions
      · rw [Execution.endExchange_of_unfit e x rfl fit,
          Execution.endExchange_of_unfit f y rfl (written ▸ fit), exchanges.frames,
          ← endingOf executions outcome]
        exact pollClose executions joins _ _

theorem pollExchange (executions : L.Executions e f) {x y : Exchange} {one : Lease σ}
    {other : Lease τ} (exchanges : L.Exchanges x y) (leases : L.Leases one other)
    (now : Instant) : L.Runs (e.pollExchange x one now) (f.pollExchange y other now) := by
  have step : L.Steps L.Leases (x.poll one e.handler e.completion now)
      (y.poll other f.handler f.completion now) := by
    rw [← executions.handler, ← executions.completion]
    exact poll exchanges leases
  have moved := executions.withCompletion step.completion
  unfold Execution.pollExchange
  dsimp only
  refine Runs.after ?_ step.actions
  rw [← step.turn]
  split
  · exact ⟨moved.withStage (.exchanging step.exchange step.resource), .nil⟩
  · exact endExchange moved step.exchange step.resource _
  · have dropped := dropLease moved step.resource
    rw [step.exchange.frames]
    exact (leave dropped.execution _ _).after dropped.actions

theorem beginExchange (executions : L.Executions e f) {p q : Pipeline} {c : Connection σ}
    {d : Connection τ} (joins : L.Joins c d)
    (framed : ∀ head headers producer, L.Feeds producer.items →
      L.Framed (.ofBody head (.ofProducer headers producer)) p q) (now : Instant) :
    L.Runs (e.beginExchange p c now) (f.beginExchange q d now) := by
  have framed := framed e.request.head e.request.head.headers _ executions.feeds
  have logging : Only Action.isWordless (e.request.head.headers.declaredLength.2.map .log) :=
    only_map_log (fun _ => rfl) _
  unfold Execution.beginExchange
  dsimp only
  rw [← executions.request, ← executions.timeouts]
  split
  · refine (pollExchange executions (.of _ q framed) (.some joins) now).after (.wordless ?_)
    exact (only_append _ _).mpr ⟨(only_cons _ _).mpr ⟨rfl, logging⟩, by simp [Action.isWordless]⟩
  · refine (pollExchange executions (.of _ q framed) (.some joins) now).after (.wordless ?_)
    exact (only_cons _ _).mpr ⟨rfl, logging⟩

theorem Grants.joins {c : Connection σ} {d : Connection τ} (grants : L.Grants c d) :
    L.Joins (Pipeline.configure c).2 (Pipeline.configure d).2 := by
  have keeps {ρ : Type} (c : Connection ρ) : (Pipeline.configure c).2.transport = c.transport := by
    unfold Pipeline.configure
    split <;> rfl
  refine ⟨?_, ?_⟩
  · rw [Pipeline.configure_receipt, Pipeline.configure_receipt]
    exact L.receipt grants.setup
  · rw [keeps, keeps]
    exact grants.transport

theorem useConnection (executions : L.Executions e f) {c : Connection σ} {d : Connection τ}
    (grants : L.Grants c d) (now : Instant) :
    L.Runs (e.useConnection c now) (f.useConnection d now) := by
  obtain ⟨p, q, framed, framed', fits⟩ := L.configure grants.setup
  have same : c.id = d.id := congrArg Prod.fst (L.receipt grants.setup)
  have leased := (executions.withCompletion
    (congrArg Completion.attach executions.completion)).withAcquisition .taken
  have begun := beginExchange leased grants.joins fits now
  unfold Execution.useConnection
  dsimp only
  rw [framed, framed', ← same]
  exact begun.after (.wordless (by simp [Action.isWordless]))

theorem pollAcquire (executions : L.Executions e f) (now : Instant) :
    L.Runs (e.pollAcquire now) (f.pollAcquire now) := by
  have acquisitions := executions.acquisition
  generalize one : e.acquisition = acquired, other : f.acquisition = acquired' at acquisitions
  cases acquisitions with
  | waiting =>
      rw [Execution.pollAcquire_of_unanswered (.inl one),
        Execution.pollAcquire_of_unanswered (.inl other)]
      exact ⟨executions.withStage .acquiring, .nil⟩
  | taken =>
      rw [Execution.pollAcquire_of_unanswered (.inr one),
        Execution.pollAcquire_of_unanswered (.inr other)]
      exact ⟨executions.withStage .acquiring, .nil⟩
  | refused error =>
      have told {ρ : Type} [Transport ρ] {g : Execution ρ}
          (refused : g.acquisition = .refused error) :
          g.pollAcquire now = (({ g with acquisition := .taken }).finish (.failure
            ("Failed to create connection to " ++ g.uri) (.lease error)) none).after
              [.refused error] := by
        unfold Execution.pollAcquire
        rw [refused]
        rfl
      have same : f.uri = e.uri := congrArg (·.head.uri) executions.request.symm
      rw [told one, told other, same]
      exact (finish (executions.withAcquisition .taken) _ none).after
        (.wordless (by simp [Action.isWordless]))
  | granted grants =>
      rw [Execution.pollAcquire_of_granted one, Execution.pollAcquire_of_granted other]
      exact useConnection executions grants now

theorem pollTask (executions : L.Executions e f) (now : Instant) :
    L.Runs (e.poll now) (f.poll now) := by
  have stages := executions.stage
  unfold Execution.poll
  generalize e.stage = one, f.stage = other at stages
  cases stages with
  | created | acquiring => exact pollAcquire executions now
  | exchanging exchanges leases => exact pollExchange executions exchanges leases now
  | closing joins ending body => exact pollClose executions joins ending body
  | gone departure body => exact ⟨executions, .nil⟩

theorem abandonAcquisition (executions : L.Executions e f) :
    L.Executions e.abandonAcquisition f.abandonAcquisition := by
  obtain ⟨request, timeouts, handler, completion, feeds, acquisition, stage⟩ := executions
  unfold Execution.abandonAcquisition
  split <;> split <;> exact ⟨request, timeouts, handler, completion, feeds, .taken, stage⟩

theorem dropTask (executions : L.Executions e f) : L.Runs e.drop f.drop := by
  have stages := executions.stage
  have abandoned := abandonAcquisition executions
  generalize one : e.stage = stage, other : f.stage = stage' at stages
  unfold Execution.drop
  rw [one, other]
  cases stages with
  | created => exact ⟨abandoned.withStage (.gone _ _), .nil⟩
  | acquiring => exact leave abandoned _ _
  | exchanging exchanges leases =>
      have dropped := dropLease executions leases
      dsimp only
      rw [exchanges.frames]
      exact (leave dropped.execution _ _).after dropped.actions
  | closing joins ending body =>
      exact leave ((executions.withStage (.closing joins ending body)).withLost _ _) _ _
  | gone departure body => exact ⟨executions, .nil⟩

theorem cancel (executions : L.Executions e f) : L.Runs e.cancel f.cancel := by
  unfold Execution.cancel
  rw [← executions.completion]
  exact ⟨executions.withCompletion rfl, .wordless (by simp [Action.isWordless])⟩

theorem answer (executions : L.Executions e f)
    {given : Except LeaseError (Connection σ)} {given' : Except LeaseError (Connection τ)}
    (answers : L.Answers given given') : L.Executions (e.answer given) (f.answer given') := by
  have acquisitions := executions.acquisition
  unfold Execution.answer
  generalize e.acquisition = one, f.acquisition = other at acquisitions
  cases acquisitions with
  | waiting =>
      refine executions.withAcquisition ?_
      cases answers with
      | granted grants => exact .granted grants
      | refused error => exact .refused error
  | granted _ | refused _ | taken => exact executions

/-- The same happens to both executions, and what happens to their transports keeps them
matching. -/
inductive Stimuli (L : Lockstep σ τ) : Stimulus σ → Stimulus τ → Prop
  | poll (now : Instant) : Stimuli L (.poll now) (.poll now)
  | drop : Stimuli L .drop .drop
  | answer {given : Except LeaseError (Connection σ)}
      {given' : Except LeaseError (Connection τ)} (answers : L.Answers given given') :
      Stimuli L (.answer given) (.answer given')
  | cancel : Stimuli L .cancel .cancel
  | transport (id : ConnectionId) {change : σ → σ} {change' : τ → τ}
      (kept : ∀ {s t}, L.Matches s t → L.Matches (change s) (change' t)) :
      Stimuli L (.transport id change) (.transport id change')
  | feed {items : List BodyItem} (feeds : L.Feeds items) (close : Bool) :
      Stimuli L (.feed items close) (.feed items close)

theorem changeTransport_matches {c : Connection σ} {d : Connection τ} (same : c.id = d.id)
    (matched : L.Matches c.transport d.transport) (id : ConnectionId) {change : σ → σ}
    {change' : τ → τ} (kept : ∀ {s t}, L.Matches s t → L.Matches (change s) (change' t)) :
    L.Matches (c.changeTransport id change).transport
      (d.changeTransport id change').transport := by
  unfold Connection.changeTransport
  by_cases targeted : c.id = id
  · rw [if_pos targeted, if_pos (same ▸ targeted)]
    exact kept matched
  · rw [if_neg targeted, if_neg (same ▸ targeted)]
    exact matched

theorem Joins.changeTransport {c : Connection σ} {d : Connection τ} (joins : L.Joins c d)
    (id : ConnectionId) {change : σ → σ} {change' : τ → τ}
    (kept : ∀ {s t}, L.Matches s t → L.Matches (change s) (change' t)) :
    L.Joins (c.changeTransport id change) (d.changeTransport id change') := by
  refine ⟨?_, changeTransport_matches joins.id joins.transport id kept⟩
  rw [Connection.receipt_of_bare (c.bare_changeTransport id change),
    Connection.receipt_of_bare (d.bare_changeTransport id change')]
  exact joins.receipt

theorem Grants.changeTransport {c : Connection σ} {d : Connection τ} (grants : L.Grants c d)
    (id : ConnectionId) {change : σ → σ} {change' : τ → τ}
    (kept : ∀ {s t}, L.Matches s t → L.Matches (change s) (change' t)) :
    L.Grants (c.changeTransport id change) (d.changeTransport id change') := by
  have same : c.id = d.id := congrArg Prod.fst (L.receipt grants.setup)
  refine ⟨?_, changeTransport_matches same grants.transport id kept⟩
  rw [Connection.bare_changeTransport, Connection.bare_changeTransport]
  exact grants.setup

theorem Leases.changeTransport {one : Lease σ} {other : Lease τ} (leases : L.Leases one other)
    (id : ConnectionId) {change : σ → σ} {change' : τ → τ}
    (kept : ∀ {s t}, L.Matches s t → L.Matches (change s) (change' t)) :
    L.Leases ⟨one.connection.map (·.changeTransport id change)⟩
      ⟨other.connection.map (·.changeTransport id change')⟩ := by
  obtain ⟨connection⟩ := one
  obtain ⟨connection'⟩ := other
  cases leases with
  | none => exact .none
  | some joins => exact .some (joins.changeTransport id kept)

theorem mapConnections (executions : L.Executions e f) (id : ConnectionId) {change : σ → σ}
    {change' : τ → τ} (kept : ∀ {s t}, L.Matches s t → L.Matches (change s) (change' t)) :
    L.Executions (e.mapConnections (·.changeTransport id change))
      (f.mapConnections (·.changeTransport id change')) := by
  have stages : L.Stages (e.stage.mapConnection (·.changeTransport id change))
      (f.stage.mapConnection (·.changeTransport id change')) := by
    have stages := executions.stage
    generalize e.stage = one, f.stage = other at stages
    cases stages with
    | created => exact .created
    | acquiring => exact .acquiring
    | exchanging exchanges leases =>
        exact .exchanging exchanges (leases.changeTransport id kept)
    | closing joins ending body => exact .closing (joins.changeTransport id kept) ending body
    | gone departure body => exact .gone departure body
  have acquisitions : L.Acquisitions (e.acquisition.mapConnection (·.changeTransport id change))
      (f.acquisition.mapConnection (·.changeTransport id change')) := by
    have acquisitions := executions.acquisition
    generalize e.acquisition = one, f.acquisition = other at acquisitions
    cases acquisitions with
    | waiting => exact .waiting
    | granted grants => exact .granted (grants.changeTransport id kept)
    | refused error => exact .refused error
    | taken => exact .taken
  obtain ⟨request, timeouts, handler, completion, feeds, -, -⟩ := executions
  exact ⟨request, timeouts, handler, completion, feeds, acquisitions, stages⟩

theorem mapBody (executions : L.Executions e f) {items : List BodyItem} (feeds : L.Feeds items)
    (close : Bool) :
    L.Stages (e.stage.mapBody (·.feed items close)) (f.stage.mapBody (·.feed items close)) := by
  have stages := executions.stage
  generalize e.stage = one, f.stage = other at stages
  cases stages with
  | created => exact .created
  | acquiring => exact .acquiring
  | @exchanging x y one other exchanges leases =>
      obtain ⟨q, framed⟩ := exchanges
      exact .exchanging (.of { x with frames := _ } q (L.feed framed feeds)) leases
  | closing joins ending body => exact .closing joins ending _
  | gone departure body => exact .gone departure _

theorem respond (executions : L.Executions e f) {stimulus : Stimulus σ} {stimulus' : Stimulus τ}
    (stimuli : L.Stimuli stimulus stimulus') :
    L.Runs (e.respond stimulus) (f.respond stimulus') := by
  cases stimuli with
  | poll now => exact pollTask executions now
  | drop => exact dropTask executions
  | answer answers => exact ⟨answer executions answers, .nil⟩
  | cancel => exact cancel executions
  | transport id kept => exact ⟨mapConnections executions id kept, .nil⟩
  | feed feeds close => exact ⟨executions.withStage (mapBody executions feeds close), .nil⟩

/-- What is done to both in step leaves both in step. -/
theorem play (executions : L.Executions e f) {history : List (Stimulus σ)}
    {history' : List (Stimulus τ)} (stimuli : List.Forall₂ L.Stimuli history history') :
    L.Runs (e.play history) (f.play history') := by
  induction stimuli generalizing e f with
  | nil => exact ⟨executions, .nil⟩
  | cons stimuli rest ih =>
      have responded := respond executions stimuli
      exact (ih responded.execution).after responded.actions

/-- Two executions of one request, from the start on. -/
theorem life (id : ExecutionId) {request : Request} (timeouts : Timeouts) (handler : Handler)
    (feeds : L.Feeds request.content.produce.items) {acquisition : Acquisition σ}
    {acquisition' : Acquisition τ} (acquisitions : L.Acquisitions acquisition acquisition')
    {history : List (Stimulus σ)} {history' : List (Stimulus τ)}
    (stimuli : List.Forall₂ L.Stimuli history history') :
    L.Runs (Execution.life id request timeouts handler acquisition history)
      (Execution.life id request timeouts handler acquisition' history') := by
  refine (play ?_ stimuli).after (.wordless (by simp [Execution.start, Action.isWordless]))
  exact ⟨rfl, rfl, rfl, rfl, feeds, acquisitions, .created⟩

end Execution

end Lockstep

/-- How far an exchange got with its request, and its timers. -/
def Stage.progress? {σ : Type} : Stage σ → Option (WriteState × IdleWatch)
  | exchanging x _ => some (x.writeState, x.idle)
  | _ => none

/-- What shows of two executions is the same, apart from the frames they write. -/
structure Execution.Agree {σ τ : Type} (one : Run σ) (other : Run τ) : Prop where
  callbacks : callbacks one.2 = callbacks other.2
  completion : one.1.completion = other.1.completion
  releases : releases one.2 = releases other.2
  progress : one.1.stage.progress? = other.1.stage.progress?

theorem Lockstep.Runs.agree {σ τ : Type} [Transport σ] [Transport τ] {L : Lockstep σ τ}
    {one : Execution.Run σ} {other : Execution.Run τ} (runs : L.Runs one other) :
    Execution.Agree one other where
  callbacks := runs.actions.filterMap_eq fun action worded => by
    cases action <;> first | rfl | cases worded
  completion := runs.execution.completion
  releases := runs.actions.filterMap_eq fun action worded => by
    cases action <;> first | rfl | cases worded
  progress := by
    have stages := runs.execution.stage
    generalize one.1.stage = stage, other.1.stage = stage' at stages
    cases stages with
    | exchanging exchanges leases =>
        simp only [Stage.progress?, exchanges.writeState, exchanges.idle]
    | created | acquiring | closing _ _ _ | gone _ _ => rfl

namespace Bench

/-- What two wires have received, if the one says the same as the other. -/
inductive Parcels (V : Vocabulary) : List Parcel → List Parcel → Prop
  | nil : Parcels V [] []
  | frame {one other : Inbound} (received : V.Receives one other) {rest rest' : List Parcel}
      (parcels : Parcels V rest rest') : Parcels V (.frame one :: rest) (.frame other :: rest')
  | failed (error : NetError) {rest rest' : List Parcel} (parcels : Parcels V rest rest') :
      Parcels V (.failed error :: rest) (.failed error :: rest')
  | closed {rest rest' : List Parcel} (parcels : Parcels V rest rest') :
      Parcels V (.closed :: rest) (.closed :: rest')
  | first {frame : Inbound} (ignored : V.Ignores frame) {rest rest' : List Parcel}
      (parcels : Parcels V rest rest') : Parcels V (.frame frame :: rest) rest'
  | second {frame : Inbound} (ignored : V.Ignores frame) {rest rest' : List Parcel}
      (parcels : Parcels V rest rest') : Parcels V rest (.frame frame :: rest')

variable {V : Vocabulary}

theorem Parcels.append {one other more less : List Parcel} (parcels : Parcels V one other)
    (later : Parcels V more less) : Parcels V (one ++ more) (other ++ less) := by
  induction parcels with
  | nil => exact later
  | frame received _ ih => exact .frame received ih
  | failed error _ ih => exact .failed error ih
  | closed _ ih => exact .closed ih
  | first ignored _ ih => exact .first ignored ih
  | second ignored _ ih => exact .second ignored ih

namespace Wire

/-- More has arrived at a wire. -/
def arrive (parcels : List Parcel) (w : Wire) : Wire := { w with inbound := w.inbound ++ parcels }

/-- Two wires that are set up in the same way and have received the same in their own words. -/
inductive Matches (V : Vocabulary) : Wire → Wire → Prop
  | of (w : Wire) {inbound : List Parcel} (parcels : Parcels V w.inbound inbound) :
      Matches V w { w with inbound := inbound }

theorem Matches.arrive {w v : Wire} (matched : Matches V w v) {parcels parcels' : List Parcel}
    (arriving : Parcels V parcels parcels') :
    Matches V (w.arrive parcels) (v.arrive parcels') := by
  obtain ⟨waiting⟩ := matched
  exact .of (w.arrive parcels) (waiting.append arriving)

theorem mirrors (V : Vocabulary) : V.Mirrors (Matches V) where
  ready := by
    rintro w _ ⟨parcels⟩
    exact ⟨rfl, .of w parcels⟩
  flush := by
    rintro w _ ⟨parcels⟩
    exact ⟨rfl, .of w parcels⟩
  close := by
    rintro w _ ⟨parcels⟩
    exact ⟨rfl, .of w parcels⟩
  send := by
    rintro w _ frame image ⟨parcels⟩ -
    simp only [Transport.send, Wire.send]
    split
    · exact ⟨rfl, .of w parcels⟩
    · exact ⟨rfl, .of { w with capacity := _ } parcels⟩
  receive := by
    rintro ⟨capacity, readyError, sendError, flushError, closeError, holdsFlush, holdsClose,
      waiting⟩ _ ⟨parcels⟩
    dsimp only at parcels
    cases parcels with
    | nil => exact .together .pending (.of _ .nil)
    | frame received parcels => exact .together (.frame received) (.of _ parcels)
    | failed error parcels => exact .together (.failed error) (.of _ parcels)
    | closed parcels => exact .together .closed (.of _ (.closed parcels))
    | first ignored parcels => exact .first rfl ignored (.of _ parcels)
    | second ignored parcels => exact .second rfl ignored (.of _ parcels)

end Wire

end Bench

end HttpExchange
