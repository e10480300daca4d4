import HttpExchange.Proofs.Translation
import Mathlib.Data.List.Forall2

/-!
Streams of one connection do not interfere. An exchange on a multiplexed connection passes over
the frames of all streams but its own, whatever is in them: they deliver nothing, fail nothing
and count as no progress. So two executions that receive the same frames on their own stream, each
with any others in between, go on in the same way.
-/

namespace HttpExchange

open Trace

/-- A frame of another stream. -/
def Inbound.IsForeign (stream : StreamId) (frame : Inbound) : Prop :=
  ∃ other, frame = .multiplexed other ∧ other.stream ≠ stream

/-- The words of one stream, among those of others. -/
def Vocabulary.among (stream : StreamId) : Vocabulary where
  Sends frame image := frame = image
  Receives frame image := frame = image
  Ignores := Inbound.IsForeign stream

namespace Pipeline

/-- The framing of an exchange that listens to one stream. -/
def ListensTo (stream : StreamId) (p : Pipeline) : Prop :=
  ∃ writer, p = .multiplexed writer ⟨stream⟩

theorem ListensTo.encode {stream : StreamId} {p : Pipeline} (listens : p.ListensTo stream)
    (frame : RequestFrame) : (p.encode frame).2.ListensTo stream := by
  obtain ⟨writer, rfl⟩ := listens
  exact ⟨_, rfl⟩

/-- A frame of another stream leaves the queue of events as it is. -/
theorem ListensTo.decode_foreign {stream : StreamId} {p : Pipeline}
    (listens : p.ListensTo stream) {frame : Inbound} (foreign : frame.IsForeign stream)
    (queue : List ResponseEvent) : p.decode frame queue = (queue, none) := by
  obtain ⟨writer, rfl⟩ := listens
  obtain ⟨other, rfl, elsewhere⟩ := foreign
  simp [decode, StreamReader.decode, StreamReader.events, elsewhere]

end Pipeline

theorem Vocabulary.among_frames (stream : StreamId) :
    (among stream).Frames fun _ p q => p = q ∧ p.ListensTo stream where
  poll framed _ := framed
  encode := by
    rintro source p q frame ⟨rfl, listens⟩ yielded
    refine ⟨?_, rfl, listens.encode frame⟩
    cases (p.encode frame).1 with
    | none => exact .none
    | some outbound => exact .some rfl
  decode := by
    rintro source p q frame image ⟨rfl, -⟩ same queue
    exact congrArg (p.decode · queue) same
  pass := by
    rintro source p q frame ⟨rfl, listens⟩ foreign queue
    exact ⟨listens.decode_foreign foreign queue, listens.decode_foreign foreign queue⟩

section Runs

variable {σ τ : Type} [Transport σ] [Transport τ] {stream : StreamId} {Matches : σ → τ → Prop}

/-- Two executions in step on the stream `stream` of their connections, with frames of other
streams in between. -/
def Lockstep.among (mirrors : (Vocabulary.among stream).Mirrors Matches) : Lockstep σ τ where
  toVocabulary := .among stream
  Matches := Matches
  Framed _ p q := p = q ∧ p.ListensTo stream
  Setup c d := c = d ∧ c.negotiated = Protocol.http2.text ∧ c.nextStream = stream.value
  Feeds _ := True
  mirrors := mirrors
  frames := Vocabulary.among_frames stream
  receipt := by
    rintro c d ⟨rfl, -⟩
    rfl
  configure := by
    rintro c d ⟨same, negotiated, nextStream⟩
    have negotiated' : d.bare.negotiated = Protocol.http2.text := same ▸ negotiated
    have nextStream' : d.bare.nextStream = stream.value := same ▸ nextStream
    change c.nextStream = stream.value at nextStream
    change d.nextStream = stream.value at nextStream'
    refine ⟨_, _, Pipeline.configure_multiplexed negotiated,
      Pipeline.configure_multiplexed negotiated', ?_⟩
    intro head headers producer _
    rw [nextStream, nextStream']
    exact ⟨rfl, _, rfl⟩
  feed framed _ := framed

theorem Inbound.accepted_among {one other : List Action}
    (traces : (Vocabulary.among stream).Traces one other) : accepted one = accepted other :=
  List.forall₂_eq_eq_eq ▸ traces.accepted_forall₂

/-- Frames of other streams, any number of them and anywhere among those received, change nothing
of what an execution does. -/
theorem Execution.other_streams_do_not_interfere
    (mirrors : (Vocabulary.among stream).Mirrors Matches) (id : ExecutionId) (request : Request)
    (timeouts : Timeouts) (handler : Handler) {acquisition : Acquisition σ}
    {acquisition' : Acquisition τ}
    (acquisitions : (Lockstep.among mirrors).Acquisitions acquisition acquisition')
    {history : List (Stimulus σ)} {history' : List (Stimulus τ)}
    (stimuli : List.Forall₂ (Lockstep.among mirrors).Stimuli history history') :
    let one := life id request timeouts handler acquisition history
    let other := life id request timeouts handler acquisition' history'
    Agree one other ∧ accepted one.2 = accepted other.2 := by
  intro one other
  have runs : (Lockstep.among mirrors).Runs one other :=
    Lockstep.life id timeouts handler trivial acquisitions stimuli
  exact ⟨runs.agree, Inbound.accepted_among runs.actions⟩

end Runs

namespace Bench

/-- The response on stream one, with frames of other streams before and in it. -/
def crowdedResponse : List Parcel :=
  [.frame (.multiplexed (.reset ⟨3⟩ 7)),
    .frame (.multiplexed (.headers ⟨1⟩ (.response okHead) false)),
    .frame (.multiplexed (.data ⟨5⟩ [9, 9] true)), .frame (.multiplexed (.data ⟨1⟩ [1] false)),
    .frame (.multiplexed (.headers ⟨3⟩ (.request sendingRequest.head) true)),
    .frame (.multiplexed (.data ⟨1⟩ [] true))]

/-- The reset of another stream and its end of response are passed over. -/
theorem other_streams_do_not_interfere_crowded :
    let one := answeredLife Protocol.http2.text streamResponse
    let other := answeredLife Protocol.http2.text crowdedResponse
    (Execution.Agree one other ∧ accepted one.2 = accepted other.2) ∧
      callbacks other.2 = [.headers okHead, .data [1], .complete] := by
  intro one other
  have granted : (Lockstep.among (Wire.mirrors (.among ⟨1⟩))).Acquisitions
      (.granted (.ofTransport ⟨7⟩ Protocol.http2.text narrowWire))
      (.granted (.ofTransport ⟨7⟩ Protocol.http2.text narrowWire)) :=
    .granted ⟨⟨rfl, rfl, rfl⟩, .of narrowWire .nil⟩
  have foreign (frame : StreamFrame) (elsewhere : frame.stream ≠ ⟨1⟩) :
      Inbound.IsForeign ⟨1⟩ (.multiplexed frame) := ⟨frame, rfl, elsewhere⟩
  have answers : Parcels (.among ⟨1⟩) streamResponse crowdedResponse :=
    .second (foreign _ (by decide)) (.frame rfl (.second (foreign _ (by decide)) (.frame rfl
      (.second (foreign _ (by decide)) (.frame rfl .nil)))))
  refine ⟨?_, by decide +kernel⟩
  refine Execution.other_streams_do_not_interfere (Wire.mirrors (.among ⟨1⟩)) 1 sendingRequest
    .standard .quiet granted ?_
  refine .cons (.poll _) (.cons (.transport _ fun matched => matched.arrive answers)
    (.cons (.transport _ ?_) (.cons (.poll _) .nil)))
  rintro w _ ⟨parcels⟩
  exact .of { w with capacity := none } parcels

end Bench

end HttpExchange
