import HttpExchange.Proofs.Lockstep

/-!
An exchange on a stream of a multiplexed connection does what it would do on a single-stream one.
Every request frame becomes one frame of the stream, and every event of the response comes as
one; apart from that there is no telling the two apart, whatever the connection holds back and
whenever the timers fall due.

The two framings differ in trailers: on a stream they close the request themselves, so the end
marker behind them is not written. The bodies here have none.
-/

namespace HttpExchange

open Trace

/-- No item of a body is made of trailers. -/
def Trailerless (items : List BodyItem) : Prop := ∀ fields, .trailers fields ∉ items

theorem Producer.poll_isSuffix (p : Producer) : p.poll.2.items <:+ p.items := by
  unfold poll
  split
  · exact List.suffix_rfl
  · rename_i item rest items
    rw [items]
    exact List.suffix_cons item rest

theorem Producer.poll_trailers {p : Producer} {fields : Headers}
    (answered : p.poll.1 = .trailers fields) : .trailers fields ∈ p.items := by
  unfold poll at answered
  split at answered
  · dsimp only at answered
    split at answered <;> cases answered
  · rename_i item rest items
    rw [items]
    cases item <;> cases answered
    exact List.mem_cons_self

namespace MeteredBody

theorem poll_isSuffix (b : MeteredBody) : b.poll.body.producer.items <:+ b.producer.items := by
  unfold poll
  split
  · exact List.suffix_rfl
  · dsimp only
    rw [pass_producer]
    exact b.producer.poll_isSuffix

theorem poll_trailers {b : MeteredBody} {fields : Headers}
    (answered : b.poll.answer = .trailers fields) : .trailers fields ∈ b.producer.items := by
  have passed_on {b : MeteredBody} {answer : BodyAnswer}
      (passed : (b.pass answer).1 = .trailers fields) : answer = .trailers fields := by
    unfold pass at passed
    split at passed
    · cases passed
    · exact passed
    all_goals first | cases passed | (split at passed <;> cases passed)
  unfold poll at answered
  split at answered
  · cases answered
  · exact Producer.poll_trailers (passed_on answered)

end MeteredBody

namespace FrameSource

/-- The end marker is the last frame of a source. -/
theorem poll_of_finish {s : FrameSource} (yielded : s.poll.answer = .frame .finish) :
    s.poll.source.phase = .done := by
  have body_finish (b : MeteredBody) (yielded : (pollBody b).answer = .frame .finish) :
      (pollBody b).source.phase = .done := by
    fun_induction pollBody b with
    | case2 b answered later ih => exact ih yielded
    | case6 b answered => rfl
    | case1 | case3 | case4 | case5 => cases yielded
  unfold poll at yielded ⊢
  cases phase : s.phase with
  | head head | done =>
      simp only [phase] at yielded
      cases yielded
  | body =>
      simp only [phase] at yielded
      exact body_finish s.body yielded

theorem pollBody_trailerless {b : MeteredBody} (plain : Trailerless b.producer.items) :
    Trailerless (pollBody b).source.body.producer.items ∧
      ∀ fields, (pollBody b).answer ≠ .frame (.trailers fields) := by
  have left (b : MeteredBody) (plain : Trailerless b.producer.items) :
      Trailerless b.poll.body.producer.items :=
    fun fields member => plain fields (b.poll_isSuffix.subset member)
  fun_induction pollBody b with
  | case2 b answered later ih => exact ih (left b plain)
  | case4 b fields answered => exact absurd (MeteredBody.poll_trailers answered) (plain fields)
  | case1 b | case3 b | case5 b | case6 b => exact ⟨left b plain, by simp⟩

/-- A source whose body has no trailers yields none. -/
theorem poll_trailerless {s : FrameSource} (plain : Trailerless s.body.producer.items) :
    Trailerless s.poll.source.body.producer.items ∧
      ∀ fields, s.poll.answer ≠ .frame (.trailers fields) := by
  unfold poll
  cases phase : s.phase with
  | head head | done => exact ⟨plain, by simp⟩
  | body => exact pollBody_trailerless plain

end FrameSource

/-- A frame written to a single-stream connection, as it is written on a stream. -/
def Outbound.onStream (stream : StreamId) : Outbound → Outbound
  | single frame => .multiplexed (StreamWriter.frameOf stream frame)
  | multiplexed frame => .multiplexed frame

/-- An event received on a single-stream connection, and the frame of a stream that brings it. -/
inductive StreamReader.Carries (stream : StreamId) : Inbound → Inbound → Prop
  | head (head : ResponseHead) :
      Carries stream (.single (.head head)) (.multiplexed (.headers stream (.response head) false))
  | data {bytes : Bytes} (nonempty : bytes ≠ []) :
      Carries stream (.single (.data bytes)) (.multiplexed (.data stream bytes false))
  | finish : Carries stream (.single .finish) (.multiplexed (.data stream [] true))

/-- The words of a single-stream connection, and those of a stream of a multiplexed one. -/
def Vocabulary.translation (stream : StreamId) : Vocabulary where
  Sends frame image := ∃ written, frame = .single written ∧
    image = .multiplexed (StreamWriter.frameOf stream written)
  Receives := StreamReader.Carries stream
  Ignores _ := False

/-- The framings of two exchanges that have written the same frames of a request without
trailers. Only the end marker ends the stream, and nothing is written behind it. -/
structure Pipeline.Translates (stream : StreamId) (source : FrameSource) (p q : Pipeline) :
    Prop where
  single : p = .single
  multiplexed : ∃ hasEnded, q = .multiplexed ⟨stream, hasEnded⟩ ⟨stream⟩ ∧
    (hasEnded = true → source.phase = .done)
  plain : Trailerless source.body.producer.items

theorem Vocabulary.translation_frames (stream : StreamId) :
    (translation stream).Frames (Pipeline.Translates stream) where
  poll := by
    rintro source p q ⟨single, ⟨hasEnded, multiplexed, exhausted⟩, plain⟩ unframed
    refine ⟨single, ⟨hasEnded, multiplexed, ?_⟩, (FrameSource.poll_trailerless plain).1⟩
    intro ended
    rw [FrameSource.poll_of_done (exhausted ended)]
    exact exhausted ended
  encode := by
    rintro source p q frame ⟨rfl, ⟨hasEnded, rfl, exhausted⟩, plain⟩ yielded
    obtain ⟨left, untrailed⟩ := FrameSource.poll_trailerless plain
    have writing : hasEnded = false := by
      cases hasEnded with
      | false => rfl
      | true =>
          rw [FrameSource.poll_of_done (exhausted rfl)] at yielded
          cases yielded
    subst writing
    refine ⟨.some ⟨frame, rfl, rfl⟩, rfl, ⟨_, rfl, ?_⟩, left⟩
    cases frame with
    | head | data =>
        intro ended
        cases ended
    | trailers fields => exact absurd yielded (untrailed fields)
    | finish => exact fun _ => FrameSource.poll_of_finish yielded
  decode := by
    rintro source p q frame image ⟨rfl, ⟨hasEnded, rfl, -⟩, -⟩ received queue
    cases received with
    | head head => simp [Pipeline.decode, StreamReader.decode, StreamReader.events,
        StreamReader.ownEvents, StreamReader.closing, StreamFrame.stream]
    | @data bytes nonempty =>
        obtain ⟨byte, bytes, rfl⟩ := List.exists_cons_of_ne_nil nonempty
        simp [Pipeline.decode, StreamReader.decode, StreamReader.events,
          StreamReader.ownEvents, StreamReader.closing, StreamFrame.stream]
    | finish => simp [Pipeline.decode, StreamReader.decode, StreamReader.events,
        StreamReader.ownEvents, StreamReader.closing, StreamFrame.stream]
  pass := by
    rintro source p q frame _ ignored
    cases ignored

/-- A single-stream connection, and a multiplexed one whose next stream is `stream`. -/
def Connection.Translates (stream : StreamId) (c d : Connection Unit) : Prop :=
  c.negotiated = Protocol.http11.text ∧
    d = { c with negotiated := Protocol.http2.text, nextStream := stream.value }

section Configure

variable {σ : Type} {c : Connection σ}

theorem Pipeline.configure_single (negotiated : c.negotiated = Protocol.http11.text) :
    (configure c).1 = .ok .single := by
  unfold configure
  rw [negotiated]
  rfl

theorem Pipeline.configure_multiplexed (negotiated : c.negotiated = Protocol.http2.text) :
    (configure c).1 = .ok (ofStream ⟨c.nextStream⟩) := by
  unfold configure
  rw [negotiated]
  rfl

end Configure

section Runs

variable {σ τ : Type} [Transport σ] [Transport τ] {stream : StreamId} {Matches : σ → τ → Prop}

/-- An execution on a single-stream connection in step with one on a stream. -/
def Lockstep.translation (mirrors : (Vocabulary.translation stream).Mirrors Matches) :
    Lockstep σ τ where
  toVocabulary := .translation stream
  Matches := Matches
  Framed := Pipeline.Translates stream
  Setup := Connection.Translates stream
  Feeds := Trailerless
  mirrors := mirrors
  frames := Vocabulary.translation_frames stream
  receipt := by
    rintro c d ⟨-, rfl⟩
    rfl
  configure := by
    rintro c d ⟨single, same⟩
    have negotiated : d.negotiated = Protocol.http2.text :=
      congrArg (fun bare : Connection Unit => bare.negotiated) same
    have nextStream : d.nextStream = stream.value :=
      congrArg (fun bare : Connection Unit => bare.nextStream) same
    refine ⟨_, _, Pipeline.configure_single single, Pipeline.configure_multiplexed negotiated, ?_⟩
    intro head headers producer plain
    rw [nextStream]
    exact ⟨rfl, ⟨false, rfl, nofun⟩, plain⟩
  feed := by
    rintro source p q items close ⟨single, multiplexed, plain⟩ fed
    refine ⟨single, multiplexed, fun fields member => ?_⟩
    have within : .trailers fields ∈ source.body.producer.items ++ items := by
      cases close <;> exact member
    rcases List.mem_append.mp within with before | later
    · exact plain fields before
    · exact fed fields later

theorem StreamWriter.accepted_onStream {one other : List Action}
    (traces : (Vocabulary.translation stream).Traces one other) :
    accepted other = (accepted one).map (Outbound.onStream stream) := by
  have sent := traces.accepted_forall₂
  generalize accepted one = frames, accepted other = images at sent
  induction sent with
  | nil => rfl
  | cons said _ ih =>
      obtain ⟨frame, rfl, rfl⟩ := said
      rw [ih]
      rfl

/-- Two executions of one request without trailers, on a single-stream connection and on a stream
of a multiplexed one, go on in the same way as long as their transports answer alike. -/
theorem Execution.multiplexed_simulates_single
    (mirrors : (Vocabulary.translation stream).Mirrors Matches) (id : ExecutionId)
    (request : Request) (timeouts : Timeouts) (handler : Handler)
    (plain : Trailerless request.content.produce.items)
    {acquisition : Acquisition σ} {acquisition' : Acquisition τ}
    (acquisitions : (Lockstep.translation mirrors).Acquisitions acquisition acquisition')
    {history : List (Stimulus σ)} {history' : List (Stimulus τ)}
    (stimuli : List.Forall₂ (Lockstep.translation mirrors).Stimuli history history') :
    let one := life id request timeouts handler acquisition history
    let other := life id request timeouts handler acquisition' history'
    Agree one other ∧ accepted other.2 = (accepted one.2).map (Outbound.onStream stream) := by
  intro one other
  have runs : (Lockstep.translation mirrors).Runs one other :=
    Lockstep.life id timeouts handler plain acquisitions stimuli
  exact ⟨runs.agree, StreamWriter.accepted_onStream runs.actions⟩

end Runs

namespace Bench

/-- A request with a body of two bytes, for an exchange that reads from the start. -/
def sendingRequest : Request :=
  ⟨⟨"POST", "/", .http11, .empty⟩, .memory (.held [104, 105]), true⟩

def okHead : ResponseHead := ⟨200, .http11, .empty⟩

/-- A wire that takes one frame for now. -/
def narrowWire : Wire := { Wire.idle with capacity := some 1 }

/-- The life of the request on a narrow wire, which receives some parcels after a first poll and
then takes all the rest. -/
def answeredLife (negotiated : String) (parcels : List Parcel) : Execution.Run Wire :=
  Execution.life 1 sendingRequest .standard .quiet
    (.granted (.ofTransport ⟨7⟩ negotiated narrowWire))
    [.poll .start, .transport ⟨7⟩ (Wire.arrive parcels),
      .transport ⟨7⟩ fun w => { w with capacity := none }, .poll .start]

def singleResponse : List Parcel :=
  [.frame (.single (.head okHead)), .frame (.single (.data [1])), .frame (.single .finish)]

def streamResponse : List Parcel :=
  [.frame (.multiplexed (.headers ⟨1⟩ (.response okHead) false)),
    .frame (.multiplexed (.data ⟨1⟩ [1] false)), .frame (.multiplexed (.data ⟨1⟩ [] true))]

/-- The request is written in two polls, and the response is there before the second. -/
theorem multiplexed_simulates_single_answered :
    let one := answeredLife Protocol.http11.text singleResponse
    let other := answeredLife Protocol.http2.text streamResponse
    (Execution.Agree one other ∧
      accepted other.2 = (accepted one.2).map (Outbound.onStream ⟨1⟩)) ∧
      callbacks one.2 = [.headers okHead, .data [1], .complete] ∧
      accepted other.2 = [.multiplexed (.headers ⟨1⟩ (.request sendingRequest.head) false),
        .multiplexed (.data ⟨1⟩ [104, 105] false), .multiplexed (.data ⟨1⟩ [] true)] := by
  intro one other
  have granted : (Lockstep.translation (Wire.mirrors (.translation ⟨1⟩))).Acquisitions
      (.granted (.ofTransport ⟨7⟩ Protocol.http11.text narrowWire))
      (.granted (.ofTransport ⟨7⟩ Protocol.http2.text narrowWire)) :=
    .granted ⟨⟨rfl, rfl⟩, .of narrowWire .nil⟩
  have answers : Parcels (.translation ⟨1⟩) singleResponse streamResponse :=
    .frame (StreamReader.Carries.head okHead)
      (.frame (StreamReader.Carries.data (by simp)) (.frame StreamReader.Carries.finish .nil))
  refine ⟨?_, by decide +kernel, by decide +kernel⟩
  refine Execution.multiplexed_simulates_single (Wire.mirrors (.translation ⟨1⟩)) 1 sendingRequest
    .standard .quiet ?_ granted ?_
  · intro fields member
    cases member with
    | tail _ member => cases member
  · refine .cons (.poll _) (.cons (.transport _ fun matched => matched.arrive answers)
      (.cons (.transport _ ?_) (.cons (.poll _) .nil)))
    rintro w _ ⟨parcels⟩
    exact .of { w with capacity := none } parcels

end Bench

end HttpExchange
