import HttpExchange.Framing.Pipeline

/-!
What a reader makes of its stream. A response can be put into frames in many ways: its end may
stand on the head, on the last chunk, on data of its own or on the trailers, data without bytes may
be spread among the frames, and so may frames of other streams. From all of these the reader gets
the same events, with the end just once. A frame that fails leaves the events before it alone.
-/

namespace HttpExchange

/-- A response by its parts. No chunk of it is empty. -/
structure ResponseOutline where
  head : ResponseHead
  chunks : List Bytes
  trailers : Option Headers
  nonempty : ∀ chunk ∈ chunks, chunk ≠ []

namespace ResponseOutline

/-- The events behind the head of a response. -/
def bodyEvents (chunks : List Bytes) (trailers : Option Headers) : List ResponseEvent :=
  chunks.map .data ++ (trailers.toList.map .trailers ++ [.finish])

def events (r : ResponseOutline) : List ResponseEvent :=
  .head r.head :: bodyEvents r.chunks r.trailers

variable {chunks : List Bytes} {trailers : Option Headers} {later : List ResponseEvent}

theorem bodyEvents_ne_nil (chunks : List Bytes) (trailers : Option Headers) :
    bodyEvents chunks trailers ≠ [] := by
  simp [bodyEvents]

theorem bodyEvents_ne_head (chunks : List Bytes) (trailers : Option Headers)
    (head : ResponseHead) (later : List ResponseEvent) :
    bodyEvents chunks trailers ≠ .head head :: later := by
  cases chunks <;> cases trailers <;> simp [bodyEvents]

theorem bodyEvents_eq_data {bytes : Bytes}
    (begins : bodyEvents chunks trailers = .data bytes :: later) :
    ∃ rest, chunks = bytes :: rest ∧ bodyEvents rest trailers = later := by
  cases chunks with
  | nil => cases trailers <;> cases begins
  | cons chunk rest =>
      cases begins
      exact ⟨rest, rfl, rfl⟩

theorem bodyEvents_eq_trailers {fields : Headers}
    (begins : bodyEvents chunks trailers = .trailers fields :: later) :
    chunks = [] ∧ trailers = some fields ∧ later = [.finish] := by
  cases chunks with
  | cons => cases begins
  | nil =>
      cases trailers with
      | none => cases begins
      | some =>
          cases begins
          exact ⟨rfl, rfl, rfl⟩

theorem bodyEvents_eq_finish (begins : bodyEvents chunks trailers = .finish :: later) :
    chunks = [] ∧ trailers = none ∧ later = [] := by
  cases chunks with
  | cons => cases begins
  | nil =>
      cases trailers with
      | some => cases begins
      | none =>
          cases begins
          exact ⟨rfl, rfl, rfl⟩

end ResponseOutline

namespace StreamReader

/-- A frame that can be read, and its events. -/
inductive Tells (stream : StreamId) : StreamFrame → List ResponseEvent → Prop
  | foreign {frame : StreamFrame} (elsewhere : frame.stream ≠ stream) : Tells stream frame []
  | head (head : ResponseHead) (endStream : Bool) :
    Tells stream (.headers stream (.response head) endStream) (.head head :: closing endStream)
  | trailers (fields : Headers) (endStream : Bool) :
    Tells stream (.headers stream (.trailers fields) endStream) [.trailers fields, .finish]
  | empty (endStream : Bool) : Tells stream (.data stream [] endStream) (closing endStream)
  | data {bytes : Bytes} (nonempty : bytes ≠ []) (endStream : Bool) :
    Tells stream (.data stream bytes endStream) (.data bytes :: closing endStream)

/-- A frame that cannot be read, and why. -/
inductive Fails (stream : StreamId) : StreamFrame → Failure → Prop
  | reset (code : UInt32) : Fails stream (.reset stream code) (.net (.ofStreamReset code))
  | requestHead (head : RequestHead) (endStream : Bool) :
    Fails stream (.headers stream (.request head) endStream) (.net .http2ProtocolError)

variable {r : StreamReader} {frame : StreamFrame}

theorem Tells.events_eq {events : List ResponseEvent} (tells : Tells r.stream frame events) :
    r.events frame = .ok events := by
  cases tells with
  | foreign elsewhere => exact if_neg elsewhere
  | head | trailers | empty => exact if_pos rfl
  | data nonempty endStream =>
      obtain ⟨byte, bytes, rfl⟩ := List.exists_cons_of_ne_nil nonempty
      exact if_pos rfl

theorem Fails.events_eq {failure : Failure} (fails : Fails r.stream frame failure) :
    r.events frame = .error failure := by
  cases fails <;> exact if_pos rfl

/-- A frame can be read or not, and there is no third thing. -/
theorem tells_or_fails (stream : StreamId) (frame : StreamFrame) :
    (∃ events, Tells stream frame events) ∨ ∃ failure, Fails stream frame failure := by
  by_cases own : frame.stream = stream
  · subst own
    cases frame with
    | headers stream block endStream =>
        cases block with
        | request head => exact .inr ⟨_, .requestHead head endStream⟩
        | response head => exact .inl ⟨_, .head head endStream⟩
        | trailers fields => exact .inl ⟨_, .trailers fields endStream⟩
    | data stream bytes endStream =>
        by_cases empty : bytes = []
        · subst empty
          exact .inl ⟨_, .empty endStream⟩
        · exact .inl ⟨_, .data empty endStream⟩
    | reset stream code => exact .inr ⟨_, .reset code⟩
  · exact .inl ⟨_, .foreign own⟩

theorem events_eq_error_iff {failure : Failure} :
    r.events frame = .error failure ↔ Fails r.stream frame failure := by
  constructor
  · intro read
    rcases tells_or_fails r.stream frame with ⟨told, tells⟩ | ⟨found, fails⟩
    · rw [tells.events_eq] at read
      cases read
    · rw [fails.events_eq] at read
      cases read
      exact fails
  · exact Fails.events_eq

/-- The queue behind received frames. The first that fails is the last that is looked at. -/
def decodeAll (r : StreamReader) (queue : List ResponseEvent) :
    List StreamFrame → List ResponseEvent × Option Failure
  | [] => (queue, none)
  | frame :: rest =>
    match r.decode frame queue with
    | (queue, none) => r.decodeAll queue rest
    | (queue, some failure) => (queue, some failure)

/-- These frames can all be read, and these are their events. -/
def Reads (r : StreamReader) (frames : List StreamFrame) (events : List ResponseEvent) : Prop :=
  r.decodeAll [] frames = (events, none)

theorem decodeAll_cons_of_tells {events : List ResponseEvent}
    (tells : Tells r.stream frame events) (queue : List ResponseEvent) (rest : List StreamFrame) :
    r.decodeAll queue (frame :: rest) = r.decodeAll (queue ++ events) rest := by
  simp only [decodeAll, decode, tells.events_eq]

theorem decodeAll_cons_of_fails {failure : Failure} (fails : Fails r.stream frame failure)
    (queue : List ResponseEvent) (rest : List StreamFrame) :
    r.decodeAll queue (frame :: rest) = (queue, some failure) := by
  simp only [decodeAll, decode, fails.events_eq]

/-- What is queued already has no part in how frames are read. -/
theorem decodeAll_append (r : StreamReader) (queued queue : List ResponseEvent)
    (frames : List StreamFrame) :
    r.decodeAll (queued ++ queue) frames =
      (queued ++ (r.decodeAll queue frames).1, (r.decodeAll queue frames).2) := by
  induction frames generalizing queue with
  | nil => rfl
  | cons frame rest ih =>
      rcases tells_or_fails r.stream frame with ⟨events, tells⟩ | ⟨failure, fails⟩
      · rw [decodeAll_cons_of_tells tells, decodeAll_cons_of_tells tells, List.append_assoc, ih]
      · rw [decodeAll_cons_of_fails fails, decodeAll_cons_of_fails fails]

theorem decodeAll_eq_iff_reads {frames : List StreamFrame} {events : List ResponseEvent}
    (queue : List ResponseEvent) :
    r.decodeAll queue frames = (queue ++ events, none) ↔ r.Reads frames events := by
  have split := r.decodeAll_append queue [] frames
  rw [List.append_nil] at split
  rw [split, Prod.mk.injEq, List.append_cancel_left_eq, Reads, Prod.ext_iff]

theorem reads_nil {events : List ResponseEvent} : r.Reads [] events ↔ events = [] := by
  constructor
  · intro read
    exact (congrArg Prod.fst read).symm
  · rintro rfl
    rfl

theorem reads_cons {rest : List StreamFrame} {events : List ResponseEvent} :
    r.Reads (frame :: rest) events ↔ ∃ first later, Tells r.stream frame first ∧
      r.Reads rest later ∧ events = first ++ later := by
  rcases tells_or_fails r.stream frame with ⟨told, tells⟩ | ⟨failure, fails⟩
  · have step := r.decodeAll_append told [] rest
    rw [List.append_nil] at step
    rw [Reads, decodeAll_cons_of_tells tells, List.nil_append, step, Prod.mk.injEq]
    constructor
    · rintro ⟨rfl, unfailed⟩
      exact ⟨told, _, tells, Prod.ext rfl unfailed, rfl⟩
    · rintro ⟨first, later, tells', read, rfl⟩
      have same : first = told := Except.ok.inj (tells'.events_eq.symm.trans tells.events_eq)
      subst same
      exact ⟨congrArg (first ++ ·.1) read, congrArg Prod.snd read⟩
  · rw [Reads, decodeAll_cons_of_fails fails]
    constructor
    · intro read
      cases read
    · rintro ⟨first, later, tells, -⟩
      have read := tells.events_eq
      rw [fails.events_eq] at read
      cases read

/-- A frame without events: one of another stream, or data without bytes that leaves the stream
open. -/
inductive Silent (stream : StreamId) : StreamFrame → Prop
  | foreign {frame : StreamFrame} (elsewhere : frame.stream ≠ stream) : Silent stream frame
  | empty : Silent stream (.data stream [] false)

/-- The frames that may follow the head of a response with these chunks and trailers. -/
inductive FramesBody (stream : StreamId) :
    List Bytes → Option Headers → List StreamFrame → Prop
  | silent {chunks : List Bytes} {trailers : Option Headers} {frame : StreamFrame}
      {rest : List StreamFrame} (silent : Silent stream frame)
      (later : FramesBody stream chunks trailers rest) :
    FramesBody stream chunks trailers (frame :: rest)
  | data {chunks : List Bytes} {trailers : Option Headers} {rest : List StreamFrame}
      (chunk : Bytes) (later : FramesBody stream chunks trailers rest) :
    FramesBody stream (chunk :: chunks) trailers (.data stream chunk false :: rest)
  | lastData {rest : List StreamFrame} (chunk : Bytes)
      (nothing : ∀ frame ∈ rest, Silent stream frame) :
    FramesBody stream [chunk] none (.data stream chunk true :: rest)
  | emptyData {rest : List StreamFrame} (nothing : ∀ frame ∈ rest, Silent stream frame) :
    FramesBody stream [] none (.data stream [] true :: rest)
  | trailers {rest : List StreamFrame} (fields : Headers) (endStream : Bool)
      (nothing : ∀ frame ∈ rest, Silent stream frame) :
    FramesBody stream [] (some fields) (.headers stream (.trailers fields) endStream :: rest)

/-- The frames that may carry a response on a stream. -/
inductive Frames (stream : StreamId) (response : ResponseOutline) : List StreamFrame → Prop
  | silent {frame : StreamFrame} {rest : List StreamFrame} (silent : Silent stream frame)
      (later : Frames stream response rest) : Frames stream response (frame :: rest)
  | head {rest : List StreamFrame}
      (later : FramesBody stream response.chunks response.trailers rest) :
    Frames stream response (.headers stream (.response response.head) false :: rest)
  | onlyHead {rest : List StreamFrame} (chunkless : response.chunks = [])
      (trailerless : response.trailers = none) (nothing : ∀ frame ∈ rest, Silent stream frame) :
    Frames stream response (.headers stream (.response response.head) true :: rest)

theorem Silent.tells {stream : StreamId} (silent : Silent stream frame) :
    Tells stream frame [] := by
  cases silent with
  | foreign elsewhere => exact .foreign elsewhere
  | empty => exact .empty false

theorem Tells.silent {stream : StreamId} (tells : Tells stream frame []) :
    Silent stream frame := by
  generalize nothing : ([] : List ResponseEvent) = events at tells
  cases tells with
  | foreign elsewhere => exact .foreign elsewhere
  | empty endStream =>
      cases endStream with
      | false => exact .empty
      | true => cases nothing
  | head | trailers | data => cases nothing

/-- Frames have no events exactly if none of them has. -/
theorem reads_nothing_iff {frames : List StreamFrame} :
    r.Reads frames [] ↔ ∀ frame ∈ frames, Silent r.stream frame := by
  induction frames with
  | nil => simp [reads_nil]
  | cons frame rest ih =>
      rw [reads_cons, List.forall_mem_cons, ← ih]
      constructor
      · rintro ⟨first, later, tells, read, nothing⟩
        obtain ⟨rfl, rfl⟩ := List.append_eq_nil_iff.mp nothing.symm
        exact ⟨tells.silent, read⟩
      · rintro ⟨silent, read⟩
        exact ⟨[], [], silent.tells, read, rfl⟩

open ResponseOutline

theorem FramesBody.reads {chunks : List Bytes} {trailers : Option Headers}
    {frames : List StreamFrame} (framing : FramesBody r.stream chunks trailers frames)
    (nonempty : ∀ chunk ∈ chunks, chunk ≠ []) : r.Reads frames (bodyEvents chunks trailers) := by
  induction framing with
  | silent silent later ih => exact reads_cons.mpr ⟨[], _, silent.tells, ih nonempty, rfl⟩
  | data chunk later ih =>
      obtain ⟨filled, others⟩ := List.forall_mem_cons.mp nonempty
      exact reads_cons.mpr ⟨_, _, .data filled false, ih others, rfl⟩
  | lastData chunk nothing =>
      have filled := nonempty chunk List.mem_cons_self
      exact reads_cons.mpr ⟨_, [], .data filled true, reads_nothing_iff.mpr nothing, rfl⟩
  | emptyData nothing =>
      exact reads_cons.mpr ⟨_, [], .empty true, reads_nothing_iff.mpr nothing, rfl⟩
  | trailers fields endStream nothing =>
      exact reads_cons.mpr
        ⟨_, [], .trailers fields endStream, reads_nothing_iff.mpr nothing, rfl⟩

/-- Frames with the events behind a head are a framing of them: the first frame that is not silent
decides which. -/
theorem framesBody_of_reads {chunks : List Bytes} {trailers : Option Headers}
    {frames : List StreamFrame} (read : r.Reads frames (bodyEvents chunks trailers)) :
    FramesBody r.stream chunks trailers frames := by
  induction frames generalizing chunks with
  | nil => exact absurd (reads_nil.mp read) (bodyEvents_ne_nil chunks trailers)
  | cons frame rest ih =>
      obtain ⟨first, later, tells, read, split⟩ := reads_cons.mp read
      cases tells with
      | foreign elsewhere =>
          subst split
          exact .silent (.foreign elsewhere) (ih read)
      | head head endStream => exact absurd split (bodyEvents_ne_head chunks trailers head _)
      | trailers fields endStream =>
          obtain ⟨rfl, rfl, behind⟩ := bodyEvents_eq_trailers split
          obtain rfl : later = [] := List.cons.inj behind |>.2
          exact .trailers fields endStream (reads_nothing_iff.mp read)
      | empty endStream =>
          cases endStream with
          | false =>
              subst split
              exact .silent .empty (ih read)
          | true =>
              obtain ⟨rfl, rfl, rfl⟩ := bodyEvents_eq_finish split
              exact .emptyData (reads_nothing_iff.mp read)
      | @data bytes nonempty endStream =>
          obtain ⟨others, rfl, behind⟩ := bodyEvents_eq_data split
          cases endStream with
          | false =>
              subst behind
              exact .data bytes (ih read)
          | true =>
              obtain ⟨rfl, rfl, rfl⟩ := bodyEvents_eq_finish behind
              exact .lastData bytes (reads_nothing_iff.mp read)

/-- The framings of a response are all the frames that are read as its events. -/
theorem reads_iff_frames (response : ResponseOutline) {frames : List StreamFrame} :
    r.Reads frames response.events ↔ Frames r.stream response frames := by
  constructor
  · intro read
    induction frames with
    | nil => cases reads_nil.mp read
    | cons frame rest ih =>
        obtain ⟨first, later, tells, read, split⟩ := reads_cons.mp read
        cases tells with
        | foreign elsewhere =>
            subst split
            exact .silent (.foreign elsewhere) (ih read)
        | head head endStream =>
            obtain ⟨same, behind⟩ := List.cons.inj split
            obtain rfl := ResponseEvent.head.inj same
            cases endStream with
            | false =>
                subst behind
                exact .head (framesBody_of_reads read)
            | true =>
                obtain ⟨chunkless, trailerless, rfl⟩ := bodyEvents_eq_finish behind
                exact .onlyHead chunkless trailerless (reads_nothing_iff.mp read)
        | empty endStream =>
            cases endStream with
            | false =>
                subst split
                exact .silent .empty (ih read)
            | true => cases split
        | trailers | data => cases split
  · intro framing
    induction framing with
    | silent silent later ih => exact reads_cons.mpr ⟨[], _, silent.tells, ih, rfl⟩
    | head later =>
        exact reads_cons.mpr ⟨_, _, .head _ false, later.reads response.nonempty, rfl⟩
    | onlyHead chunkless trailerless nothing =>
        refine reads_cons.mpr ⟨_, [], .head _ true, reads_nothing_iff.mpr nothing, ?_⟩
        rw [ResponseOutline.events, chunkless, trailerless]
        rfl

end StreamReader

namespace Pipeline

/-- A received frame that fails: one that cannot be read on its stream, or one that such a
connection does not carry. -/
inductive Rejects : Pipeline → Inbound → Failure → Prop
  | frame {writer : StreamWriter} {reader : StreamReader} {frame : StreamFrame}
      {failure : Failure} (fails : StreamReader.Fails reader.stream frame failure) :
    Rejects (.multiplexed writer reader) (.multiplexed frame) failure
  | event {writer : StreamWriter} {reader : StreamReader} (event : ResponseEvent) :
    Rejects (.multiplexed writer reader) (.single event) (.net .invalidHttpResponse)
  | streamFrame (frame : StreamFrame) :
    Rejects .single (.multiplexed frame) (.net .invalidHttpResponse)

/-- A frame that fails leaves the queue as it is. -/
theorem decode_eq_failed_iff {p : Pipeline} {frame : Inbound} {queue after : List ResponseEvent}
    {failure : Failure} :
    p.decode frame queue = (after, some failure) ↔ p.Rejects frame failure ∧ after = queue := by
  constructor
  · intro failed
    cases p with
    | single =>
        cases frame with
        | single event => cases failed
        | multiplexed frame =>
            cases failed
            exact ⟨.streamFrame frame, rfl⟩
    | multiplexed writer reader =>
        cases frame with
        | single event =>
            cases failed
            exact ⟨.event event, rfl⟩
        | multiplexed frame =>
            simp only [decode, StreamReader.decode] at failed
            split at failed
            · cases failed
            · rename_i errored
              cases failed
              exact ⟨.frame (StreamReader.events_eq_error_iff.mp errored), rfl⟩
  · rintro ⟨rejects, rfl⟩
    cases rejects with
    | frame fails =>
        simp only [decode, StreamReader.decode, StreamReader.events_eq_error_iff.mpr fails]
    | event | streamFrame => rfl

end Pipeline

namespace StreamReader

/-- Reading frames one after the other puts just the events of a response behind those queued
already if and only if the frames are a framing of the response, with frames of other streams and
idle ones among them. Of all received frames those fail that cannot be read on the stream or are
not what the connection carries, and they leave the queue as it is. -/
theorem decodes_every_framing (stream : StreamId) :
    (∀ (response : ResponseOutline) (frames : List StreamFrame) (queue : List ResponseEvent),
      (StreamReader.mk stream).decodeAll queue frames = (queue ++ response.events, none) ↔
        Frames stream response frames) ∧
    ∀ (p : Pipeline) (frame : Inbound) (queue after : List ResponseEvent) (failure : Failure),
      p.decode frame queue = (after, some failure) ↔
        p.Rejects frame failure ∧ after = queue := by
  constructor
  · intro response frames queue
    rw [decodeAll_eq_iff_reads, reads_iff_frames]
  · intro p frame queue after failure
    exact Pipeline.decode_eq_failed_iff

end StreamReader

namespace Bench

/-- A response with two chunks and trailers. -/
def chunkedResponse : ResponseOutline :=
  ⟨⟨200, .http11, .empty⟩, [[1], [2, 3]], some .empty, by decide⟩

/-- The response among frames of other streams, with data without bytes and with trailers that do
not close the stream. -/
def crowdedFrames : List StreamFrame :=
  [.data ⟨3⟩ [9] true, .headers ⟨5⟩ (.response chunkedResponse.head) false, .data ⟨5⟩ [] false,
    .data ⟨5⟩ [1] false, .reset ⟨7⟩ 8, .data ⟨5⟩ [2, 3] false,
    .headers ⟨5⟩ (.trailers .empty) false, .headers ⟨1⟩ (.trailers .empty) true]

theorem crowdedFrames_framing :
    StreamReader.Frames ⟨5⟩ chunkedResponse crowdedFrames := by
  refine .silent (.foreign (by decide)) (.head ?_)
  refine .silent .empty (.data [1] ?_)
  refine .silent (.foreign (by decide)) (.data [2, 3] ?_)
  refine .trailers .empty false ?_
  intro frame member
  obtain rfl := List.mem_singleton.mp member
  exact .foreign (by decide)

/-- The crowded frames are read as the response, and a reset of the stream leaves what was read
before it. -/
theorem decodes_every_framing_crowded :
    (StreamReader.mk ⟨5⟩).decodeAll [] crowdedFrames =
      ([.head chunkedResponse.head, .data [1], .data [2, 3], .trailers .empty, .finish], none) ∧
    (Pipeline.ofStream ⟨5⟩).decode (.multiplexed (.reset ⟨5⟩ 8)) [.data [1]] =
      ([.data [1]], some (.net (.ofStreamReset 8))) := by
  obtain ⟨framings, failures⟩ := StreamReader.decodes_every_framing ⟨5⟩
  constructor
  · exact (framings chunkedResponse crowdedFrames []).mpr crowdedFrames_framing
  · exact (failures _ _ _ _ _).mpr ⟨.frame (.reset 8), rfl⟩

end Bench

end HttpExchange
