import HttpExchange.Proofs.Account

/-!
The words in which two connections may differ. A vocabulary says which frames stand for each other,
and which received ones for nothing. `Mirrors` and `Frames` say what is asked of the transports and
of the framings, one step at a time, and `Lockstep` holds the two together.
-/

namespace HttpExchange

open Trace

/-- What carries no frame of a connection. -/
def Action.isWordless : Action → Bool
  | write _ _ | receive (.frame _) => false
  | _ => true

/-- The frames to be written and the received ones that stand for each other, and the received
frames that stand for nothing. -/
structure Vocabulary where
  Sends : Outbound → Outbound → Prop
  Receives : Inbound → Inbound → Prop
  Ignores : Inbound → Prop

namespace Vocabulary

/-- What two connections answer when asked for a received frame. -/
inductive Arrives (V : Vocabulary) : Arrival → Arrival → Prop
  | pending : Arrives V .pending .pending
  | frame {one other : Inbound} (received : V.Receives one other) :
      Arrives V (.frame one) (.frame other)
  | failed (error : NetError) : Arrives V (.failed error) (.failed error)
  | closed : Arrives V .closed .closed

/-- Two traces with the same actions but for the words of their frames. Frames that stand for
nothing may be received on either side. -/
inductive Traces (V : Vocabulary) : List Action → List Action → Prop
  | nil : Traces V [] []
  | same {action : Action} (wordless : action.isWordless = true) {one other : List Action}
      (rest : Traces V one other) : Traces V (action :: one) (action :: other)
  | write {frame image : Outbound} (sent : V.Sends frame image) (refusal : Option NetError)
      {one other : List Action} (rest : Traces V one other) :
      Traces V (.write frame refusal :: one) (.write image refusal :: other)
  | receive {frame image : Inbound} (received : V.Receives frame image)
      {one other : List Action} (rest : Traces V one other) :
      Traces V (.receive (.frame frame) :: one) (.receive (.frame image) :: other)
  | first {frame : Inbound} (ignored : V.Ignores frame) {one other : List Action}
      (rest : Traces V one other) : Traces V (.receive (.frame frame) :: one) other
  | second {frame : Inbound} (ignored : V.Ignores frame) {one other : List Action}
      (rest : Traces V one other) : Traces V one (.receive (.frame frame) :: other)

variable {V : Vocabulary}

namespace Traces

theorem append {one other more less : List Action} (first : V.Traces one other)
    (second : V.Traces more less) : V.Traces (one ++ more) (other ++ less) := by
  induction first with
  | nil => exact second
  | same wordless _ ih => exact .same wordless ih
  | write sent refusal _ ih => exact .write sent refusal ih
  | receive received _ ih => exact .receive received ih
  | first ignored _ ih => exact .first ignored ih
  | second ignored _ ih => exact .second ignored ih

theorem wordless {trace : List Action} (only : Only Action.isWordless trace) :
    V.Traces trace trace := by
  induction trace with
  | nil => exact .nil
  | cons action rest ih =>
      obtain ⟨here, later⟩ := (only_cons action rest).mp only
      exact .same here (ih later)

/-- A view that looks at no frame sees the same in both traces. -/
theorem filterMap_eq {α : Type} {view : Action → Option α} {one other : List Action}
    (traces : V.Traces one other)
    (blind : ∀ action, action.isWordless = false → view action = none) :
    one.filterMap view = other.filterMap view := by
  induction traces with
  | nil => rfl
  | same wordless _ ih => simp only [List.filterMap_cons, ih]
  | write sent refusal _ ih => simp only [List.filterMap_cons, blind (.write _ _) rfl, ih]
  | receive received _ ih =>
      simp only [List.filterMap_cons, blind (.receive (.frame _)) rfl, ih]
  | first ignored _ ih | second ignored _ ih =>
      simp only [List.filterMap_cons, blind (.receive (.frame _)) rfl, ih]

/-- The frames that the one transport took stand for those that the other took. -/
theorem accepted_forall₂ {one other : List Action} (traces : V.Traces one other) :
    List.Forall₂ V.Sends (accepted one) (accepted other) := by
  induction traces with
  | nil => exact .nil
  | @same action wordless one other _ ih =>
      cases action with
      | write frame refusal => cases wordless
      | _ => exact ih
  | write sent refusal _ ih =>
      cases refusal with
      | none => exact .cons sent ih
      | some error => exact ih
  | receive _ _ ih | first _ _ ih | second _ _ ih => exact ih

end Traces

variable {σ τ : Type} [Transport σ] [Transport τ]

/-- Two transports asked for a received frame: either both answer, or one of them has a frame
that stands for nothing. -/
inductive Meets (V : Vocabulary) (Matches : σ → τ → Prop) (s : σ) (t : τ) : Prop
  | together (arrives : V.Arrives (Transport.receive s).1 (Transport.receive t).1)
      (rest : Matches (Transport.receive s).2 (Transport.receive t).2)
  | first {frame : Inbound} (received : (Transport.receive s).1 = .frame frame)
      (ignored : V.Ignores frame) (rest : Matches (Transport.receive s).2 t)
  | second {frame : Inbound} (received : (Transport.receive t).1 = .frame frame)
      (ignored : V.Ignores frame) (rest : Matches s (Transport.receive t).2)

/-- Transports that match answer alike and go on matching. -/
structure Mirrors (V : Vocabulary) (Matches : σ → τ → Prop) : Prop where
  ready : ∀ {s t}, Matches s t → (Transport.ready s).1 = (Transport.ready t).1 ∧
    Matches (Transport.ready s).2 (Transport.ready t).2
  flush : ∀ {s t}, Matches s t → (Transport.flush s).1 = (Transport.flush t).1 ∧
    Matches (Transport.flush s).2 (Transport.flush t).2
  close : ∀ {s t}, Matches s t → (Transport.close s).1 = (Transport.close t).1 ∧
    Matches (Transport.close s).2 (Transport.close t).2
  send : ∀ {s t} {frame image : Outbound}, Matches s t → V.Sends frame image →
    (Transport.send s frame).1 = (Transport.send t image).1 ∧
      Matches (Transport.send s frame).2 (Transport.send t image).2
  receive : ∀ {s t}, Matches s t → V.Meets Matches s t

/-- Framings that write the frames of one source in words that stand for each other, and read
the same out of what they receive. -/
structure Frames (V : Vocabulary) (Framed : FrameSource → Pipeline → Pipeline → Prop) :
    Prop where
  poll : ∀ {source p q}, Framed source p q → (∀ frame, source.poll.answer ≠ .frame frame) →
    Framed source.poll.source p q
  encode : ∀ {source p q} {frame : RequestFrame}, Framed source p q →
    source.poll.answer = .frame frame →
    Option.Rel V.Sends (p.encode frame).1 (q.encode frame).1 ∧
      Framed source.poll.source (p.encode frame).2 (q.encode frame).2
  decode : ∀ {source p q frame image}, Framed source p q → V.Receives frame image →
    ∀ queue, p.decode frame queue = q.decode image queue
  pass : ∀ {source p q frame}, Framed source p q → V.Ignores frame →
    ∀ queue, p.decode frame queue = (queue, none) ∧ q.decode frame queue = (queue, none)

end Vocabulary

/-- What it takes to keep two executions in step. `Setup` says which connections, apart from
their transports, may be granted to the two, and `Feeds` which items their bodies may yield. -/
structure Lockstep (σ τ : Type) [Transport σ] [Transport τ] extends Vocabulary where
  Matches : σ → τ → Prop
  Framed : FrameSource → Pipeline → Pipeline → Prop
  Setup : Connection Unit → Connection Unit → Prop
  Feeds : List BodyItem → Prop
  mirrors : toVocabulary.Mirrors Matches
  frames : toVocabulary.Frames Framed
  receipt : ∀ {c d}, Setup c d → c.receipt = d.receipt
  configure : ∀ {c : Connection σ} {d : Connection τ}, Setup c.bare d.bare →
    ∃ p q, (Pipeline.configure c).1 = .ok p ∧ (Pipeline.configure d).1 = .ok q ∧
      ∀ head headers producer, Feeds producer.items →
        Framed (.ofBody head (.ofProducer headers producer)) p q
  feed : ∀ {source p q items close}, Framed source p q → Feeds items →
    Framed { source with body := source.body.feed items close } p q

namespace Lockstep

variable {σ τ : Type} [Transport σ] [Transport τ] {L : Lockstep σ τ}

/-- Two exchanges that differ in their framing only. -/
inductive Exchanges (L : Lockstep σ τ) : Exchange → Exchange → Prop
  | of (x : Exchange) (q : Pipeline) (framed : L.Framed x.frames x.pipeline q) :
      Exchanges L x { x with pipeline := q }

theorem Exchanges.frames {x y : Exchange} (exchanges : L.Exchanges x y) :
    y.frames = x.frames := by
  obtain ⟨q, framed⟩ := exchanges
  rfl

theorem Exchanges.writeState {x y : Exchange} (exchanges : L.Exchanges x y) :
    y.writeState = x.writeState := by
  obtain ⟨q, framed⟩ := exchanges
  rfl

theorem Exchanges.idle {x y : Exchange} (exchanges : L.Exchanges x y) : y.idle = x.idle := by
  obtain ⟨q, framed⟩ := exchanges
  rfl

theorem Exchanges.isReading {x y : Exchange} (exchanges : L.Exchanges x y) :
    y.isReading = x.isReading := by
  obtain ⟨q, framed⟩ := exchanges
  rfl

end Lockstep

end HttpExchange
