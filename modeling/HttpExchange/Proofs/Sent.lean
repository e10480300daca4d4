import HttpExchange.Proofs.Account
import HttpExchange.Proofs.Sending

/-!
What an exchange has sent of its request, and what its end leaves of that. The frames that were
offered are of the reference of the request, and the frames of all items that were taken from the
producer are among them. Once the exchange is over nothing is sent any more.
-/

namespace HttpExchange

open Trace

variable {σ : Type}

/-- The framing of a connection has nothing to do with its transport. -/
theorem Pipeline.configure_of_bare {connection other : Connection σ}
    (same : connection.bare = other.bare) :
    (configure connection).1 = (configure other).1 := by
  have negotiated : connection.bare.negotiated = other.bare.negotiated := by rw [same]
  have nextStream : connection.bare.nextStream = other.bare.nextStream := by rw [same]
  change connection.negotiated = other.negotiated at negotiated
  change connection.nextStream = other.nextStream at nextStream
  unfold configure
  rw [negotiated]
  simp only [Connection.allocateStream, nextStream]
  split <;> rfl

/-- The exchange of a request on a framing, before anything was sent, if its producer is given
these items in all. -/
def Exchange.unsent (p : Pipeline) (request : Request) (script : List BodyItem) : Exchange :=
  .ofRequest (.ofBody request.head
    (.ofProducer request.head.headers { request.content.produce with items := script })) p .standard

/-- The length that a request declares, as the room for its body. -/
def Request.room (request : Request) : Room := request.head.headers.declaredLength.1

/-- What was sent of a request: all that was offered is of the reference, and the frames of all
that was taken from the producer were offered. -/
structure Sent (p : Pipeline) (request : Request) (trace : List Action) : Prop where
  within : ∀ later, offered trace <+: p.reference request.head request.room (answers trace ++ later)
  whole : answers trace ≠ [] →
    p.wire (.head request.head :: itemFrames request.room (answers trace)) <+: offered trace
  ordered : offered trace = accepted trace ++ refused trace

/-- What a producer gave, and what it still has, is its script. -/
def Taken (script : List BodyItem) (trace : List Action) (body : MeteredBody) : Prop :=
  (answers trace).filterMap BodyAnswer.item? ++ solidItems body.producer.items = solidItems script

theorem Taken.feed {script : List BodyItem} {trace : List Action} {body : MeteredBody}
    (h : Taken script trace body) (items : List BodyItem) (close : Bool) :
    Taken (script ++ items) trace (body.feed items close) := by
  have fed : (body.feed items close).producer.items = body.producer.items ++ items := by
    unfold MeteredBody.feed
    cases close <;> rfl
  unfold Taken at h ⊢
  rw [fed, solidItems_append, solidItems_append, ← List.append_assoc, h]

namespace Exchange

variable {p : Pipeline} {request : Request} {script : List BodyItem} {x : Exchange}
  {trace : List Action}

theorem unsent_rest (later : List BodyAnswer) :
    (unsent p request script).frames.rest later =
      requestFrames request.head request.room later := by
  have room : (Allowance.ofDeclared request.room).remaining = request.room := by
    cases declared : request.room <;> simp [Allowance.ofDeclared, Allowance.remaining]
  exact congrArg (fun room => .head request.head :: bodyFrames room later) room

/-- Behind the head there is nothing left to send but the end marker, unless the producer
answers more. -/
theorem rest_nil (s : FrameSource) (behind : s.isAtHead = false) :
    s.rest [] = [] ∨ s.rest [] = [.finish] := by
  cases phase : s.phase with
  | head head =>
      simp only [FrameSource.isAtHead, phase] at behind
      cases behind
  | body =>
      simp only [FrameSource.rest, phase]
      cases ended : s.body.isOver with
      | true => exact .inr (s.body.rest_of_over ended [])
      | false => exact .inl (s.body.rest_of_open ended [])
  | done =>
      left
      simp only [FrameSource.rest, phase]

/-- Frames without an end marker, followed by one or not, are found whole in front of one. -/
theorem isPrefix_of_marker {items frames rest : List RequestFrame} {ended : Bool}
    (no_marker : .finish ∉ items)
    (split : items ++ (if ended then [.finish] else []) = frames ++ rest)
    (marker : rest = [] ∨ rest = [.finish]) : items <+: frames := by
  rcases marker with rfl | rfl
  · rw [List.append_nil] at split
    rw [← split]
    exact List.prefix_append _ _
  · cases ended with
    | true => rw [List.append_cancel_right split]
    | false =>
        have whole : items = frames ++ [.finish] := by simpa using split
        rw [whole] at no_marker
        simp at no_marker

/-- An exchange on its way has sent what its request demands. -/
theorem Sends.sent_of_unsent (h : Sends (unsent p request script) x trace) :
    Sent p request trace := by
  obtain ⟨frames, coming, pipeline, wire⟩ := h.sent
  refine ⟨?_, ?_, h.ordered⟩
  · intro later
    have split := coming later
    rw [unsent_rest] at split
    rw [Pipeline.reference, split, Pipeline.wire_append, wire]
    exact List.prefix_append _ _
  · intro asked
    have behind : x.frames.isAtHead = false := by
      by_contra at_head
      exact asked (h.atHead (by simpa using at_head)).1
    have split := coming []
    rw [unsent_rest, List.append_nil, requestFrames, bodyFrames, ← List.cons_append] at split
    have no_marker : RequestFrame.finish ∉
        .head request.head :: itemFrames request.room (answers trace) := by
      simpa using finish_notMem_itemFrames request.room (answers trace)
    obtain ⟨more, rfl⟩ := isPrefix_of_marker no_marker split (rest_nil x.frames behind)
    rw [wire, Pipeline.wire_append]
    exact List.prefix_append _ _

/-- What the producer is given later changes nothing of what was sent. -/
theorem Sends.feed (h : Sends (unsent p request script) x trace) (items : List BodyItem)
    (close : Bool) :
    Sends (unsent p request (script ++ items))
      { x with frames := { x.frames with body := x.frames.body.feed items close } } trace where
  sent := by
    obtain ⟨frames, coming, pipeline, wire⟩ := h.sent
    refine ⟨frames, fun later => ?_, pipeline, wire⟩
    have split := coming later
    rw [unsent_rest] at split ⊢
    rw [split]
    rfl
  ordered := h.ordered
  atHead := h.atHead
  items := Taken.feed h.items items close

end Exchange

theorem Sent.extend {p : Pipeline} {request : Request} {trace : List Action}
    (h : Sent p request trace) {actions : List Action} (offWire : Only Action.isOffWire actions) :
    Sent p request (trace ++ actions) where
  within := by
    rw [offered_append, answers_append, offWire.offered_eq_nil, offWire.answers_eq_nil,
      List.append_nil, List.append_nil]
    exact h.within
  whole := by
    rw [offered_append, answers_append, offWire.offered_eq_nil, offWire.answers_eq_nil,
      List.append_nil, List.append_nil]
    exact h.whole
  ordered := by
    rw [offered_append, accepted_append, refused_append, offWire.offered_eq_nil,
      offWire.accepted_eq_nil, offWire.refused_eq_nil, List.append_nil, List.append_nil,
      List.append_nil]
    exact h.ordered

theorem Taken.extend {script : List BodyItem} {trace : List Action} {body : MeteredBody}
    (h : Taken script trace body) {actions : List Action}
    (offWire : Only Action.isOffWire actions) : Taken script (trace ++ actions) body := by
  unfold Taken
  rw [answers_append, offWire.answers_eq_nil, List.append_nil]
  exact h

/-- The body that an ended exchange left behind. -/
def Stage.remains : Stage σ → Option (Option MeteredBody)
  | closing _ _ body => some body
  | gone _ body => some body
  | _ => none

namespace Stage

theorem body?_closing (connection : Connection σ) (ending : Ending) (body : Option MeteredBody) :
    (closing connection ending body).body?.map Prod.fst = body := by
  cases body <;> rfl

theorem body?_mapConnection (stage : Stage σ) (f : Connection σ → Connection σ) :
    (stage.mapConnection f).body? = stage.body? := by
  cases stage <;> rfl

theorem body?_mapBody_of_none {stage : Stage σ} (bodiless : stage.body? = none)
    (f : MeteredBody → MeteredBody) : (stage.mapBody f).body? = none := by
  cases stage with
  | exchanging x lease => cases bodiless
  | closing connection ending body | gone departure body =>
      cases body with
      | none => rfl
      | some body => cases bodiless
  | created | acquiring => rfl

end Stage

namespace Execution

/-- The exchange is over, and what was done since has nothing to do with sending. -/
structure Ends (body : Option MeteredBody) (run : Run σ) : Prop where
  offWire : Only Action.isOffWire run.2
  remains : run.1.stage.remains = some body

theorem Ends.after {body : Option MeteredBody} {run : Run σ} (h : Ends body run)
    (actions : List Action) (offWire : Only Action.isOffWire actions) :
    Ends body (run.after actions) :=
  ⟨(only_append _ _).mpr ⟨offWire, h.offWire⟩, h.remains⟩

/-- A task without a body that ends has none afterwards. -/
theorem Ends.bodiless {run : Run σ} (h : Ends none run) : run.1.stage.body? = none := by
  have remains := h.remains
  cases stage : run.1.stage with
  | closing connection ending body | gone departure body =>
      rw [stage] at remains
      cases remains
      rfl
  | _ => rw [stage] at remains; cases remains

theorem leave_ends (e : Execution σ) (departure : Departure) (body : Option MeteredBody) :
    Ends body (e.leave departure body) := by
  refine ⟨?_, rfl⟩
  unfold leave
  dsimp only
  split <;> simp [Action.isOffWire]

theorem conclude_ends (e : Execution σ) (callback : Callback) (result : Result)
    (body : Option MeteredBody) : Ends body (e.conclude callback result body) := by
  have called : Only Action.isOffWire (e.handler.call callback e.completion).actions := by
    unfold Handler.call
    dsimp only
    split <;> simp [Action.isOffWire]
  unfold conclude
  dsimp only
  split
  · exact (leave_ends _ _ body).after _ called
  · exact (leave_ends _ _ body).after _
      ((only_append _ _).mpr ⟨called, by simp [Action.isOffWire]⟩)

theorem finish_ends (e : Execution σ) (ending : Ending) (body : Option MeteredBody) :
    Ends body (e.finish ending body) := by
  cases ending with
  | success => exact e.conclude_ends _ _ body
  | failure message cause =>
      exact (e.conclude_ends _ _ body).after _ (by simp [Action.isOffWire])

theorem dropLease_ends (e : Execution σ) (lease : Lease σ) (departure : Departure)
    (body : Option MeteredBody) :
    Ends body (((e.dropLease lease).1.leave departure body).after (e.dropLease lease).2) := by
  refine (leave_ends _ departure body).after _ ?_
  unfold dropLease
  split <;> simp [Action.isOffWire, Run.after, release]

theorem drop_ends (e : Execution σ) (present : e.stage.isGone = false) :
    Ends (e.stage.body?.map Prod.fst) e.drop := by
  unfold drop
  cases stage : e.stage with
  | created => exact ⟨only_nil, rfl⟩
  | acquiring => exact leave_ends _ .dropped none
  | exchanging x lease => exact e.dropLease_ends lease .dropped _
  | closing connection ending body =>
      rw [Stage.body?_closing]
      exact leave_ends _ .dropped body
  | gone departure body =>
      rw [stage] at present
      cases present

variable [Transport σ]

theorem pollClose_ends (e : Execution σ) (connection : Connection σ) (ending : Ending)
    (body : Option MeteredBody) : Ends body (e.pollClose connection ending body) := by
  unfold pollClose
  dsimp only
  split
  · exact ⟨by simp [Action.isOffWire], rfl⟩
  · exact (finish_ends _ ending body).after _ (by simp [Action.isOffWire, release])

theorem closeLease_ends (e : Execution σ) (lease : Lease σ) (ending : Ending)
    (body : Option MeteredBody) : Ends body (e.closeLease lease ending body) := by
  unfold closeLease
  split
  · exact e.finish_ends ending body
  · exact e.pollClose_ends _ ending body

theorem endExchange_ends (e : Execution σ) (x : Exchange) (lease : Lease σ) (outcome : Outcome) :
    Ends (some x.frames.body) (e.endExchange x lease outcome) := by
  unfold endExchange
  dsimp only
  split
  · exact (finish_ends _ _ _).after _ (by simp [Action.isOffWire, release])
  · exact e.closeLease_ends lease _ _

/-- A poll of the exchange goes on with what the exchange became, or ends it there. -/
theorem pollExchange_ends (e : Execution σ) (x : Exchange) (lease : Lease σ) (now : Instant) :
    let step := x.poll lease e.handler e.completion now
    (step.turn = .pending ∧ ∃ next : Execution σ,
      next.stage = .exchanging step.exchange step.resource ∧
        e.pollExchange x lease now = Run.after (next, []) step.actions) ∨
    ∃ run : Run σ, Ends (some step.exchange.frames.body) run ∧
      e.pollExchange x lease now = run.after step.actions := by
  intro step
  cases turn : step.turn with
  | pending =>
      refine .inl ⟨rfl, { e with
        completion := step.completion
        stage := .exchanging step.exchange step.resource }, rfl, ?_⟩
      simp only [pollExchange]
      rw [show (x.poll lease e.handler e.completion now).turn = .pending from turn]
  | ended outcome =>
      refine .inr ⟨_, endExchange_ends { e with completion := step.completion } step.exchange
        step.resource outcome, ?_⟩
      simp only [pollExchange]
      rw [show (x.poll lease e.handler e.completion now).turn = .ended outcome from turn]
  | crashed =>
      refine .inr ⟨_, dropLease_ends { e with completion := step.completion } step.resource
        .crashed (some step.exchange.frames.body), ?_⟩
      simp only [pollExchange]
      rw [show (x.poll lease e.handler e.completion now).turn = .crashed from turn]

end Execution

end HttpExchange
