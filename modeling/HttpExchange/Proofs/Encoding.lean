import HttpExchange.Proofs.Reference
import Mathlib.Data.List.Forall2
import Mathlib.Data.List.ReduceOption

/-!
What a writer puts on its stream. It emits one frame for each frame of a request, up to the first
that closes the request, and nothing for those behind. Only the last frame that it emits can close
the stream. A request with a head, chunks, perhaps trailers, and an end closes it just once, and is
read back from the frames that were emitted for it.
-/

namespace HttpExchange

namespace RequestFrame

/-- Whether the frame closes the request: trailers do, and so does the end marker. -/
def isClosing : RequestFrame → Bool
  | head _ | data _ => false
  | trailers _ | finish => true

/-- The frames up to the first that closes the request, and this one. -/
def throughClose (frames : List RequestFrame) : List RequestFrame :=
  frames.takeWhile (!·.isClosing) ++ (frames.dropWhile (!·.isClosing)).take 1

/-- The frames behind the first that closes the request. -/
def behindClose (frames : List RequestFrame) : List RequestFrame :=
  (frames.dropWhile (!·.isClosing)).drop 1

variable {frame : RequestFrame} {first rest : List RequestFrame}

theorem throughClose_cons_of_open (opens : frame.isClosing = false) :
    throughClose (frame :: rest) = frame :: throughClose rest := by
  simp [throughClose, opens]

theorem throughClose_cons_of_closing (closes : frame.isClosing = true) :
    throughClose (frame :: rest) = [frame] := by
  simp [throughClose, closes]

theorem behindClose_cons_of_open (opens : frame.isClosing = false) :
    behindClose (frame :: rest) = behindClose rest := by
  simp [behindClose, opens]

theorem behindClose_cons_of_closing (closes : frame.isClosing = true) :
    behindClose (frame :: rest) = rest := by
  simp [behindClose, closes]

/-- Nothing but the last of these frames can close the request. -/
theorem isClosing_of_mem_dropLast (frames : List RequestFrame) :
    ∀ frame ∈ (throughClose frames).dropLast, frame.isClosing = false := by
  induction frames with
  | nil => simp [throughClose]
  | cons frame rest ih =>
      cases closes : frame.isClosing with
      | true => simp [throughClose_cons_of_closing closes]
      | false =>
          rw [throughClose_cons_of_open closes]
          intro other member
          cases through : throughClose rest with
          | nil => simp [through] at member
          | cons next later =>
              rw [through, List.dropLast_cons_cons] at member
              rcases List.mem_cons.mp member with rfl | behind
              · exact closes
              · exact ih other (through ▸ behind)

theorem throughClose_append_of_open (opens : ∀ frame ∈ first, frame.isClosing = false) :
    throughClose (first ++ rest) = first ++ throughClose rest := by
  induction first with
  | nil => rfl
  | cons frame first ih =>
      have later : ∀ frame ∈ first, frame.isClosing = false := fun other member =>
        opens other (List.mem_cons_of_mem _ member)
      rw [List.cons_append, throughClose_cons_of_open (opens frame List.mem_cons_self), ih later,
        List.cons_append]

end RequestFrame

/-- A request by its parts. Its chunks may be empty. -/
structure RequestOutline where
  head : RequestHead
  chunks : List Bytes
  trailers : Option Headers
  deriving DecidableEq, Repr

namespace RequestOutline

/-- The head and the chunks, behind which a request is still open. -/
def opening (r : RequestOutline) : List RequestFrame := .head r.head :: r.chunks.map .data

/-- What ends a request. -/
def ending (r : RequestOutline) : List RequestFrame := r.trailers.toList.map .trailers ++ [.finish]

def frames (r : RequestOutline) : List RequestFrame := r.opening ++ r.ending

theorem isClosing_of_mem_opening (r : RequestOutline) :
    ∀ frame ∈ r.opening, frame.isClosing = false := by
  intro frame member
  rcases List.mem_cons.mp member with rfl | chunk
  · rfl
  · obtain ⟨bytes, -, rfl⟩ := List.mem_map.mp chunk
    rfl

end RequestOutline

namespace StreamWriter

open RequestFrame

/-- A frame of a request and the frame that stands for it on a stream. -/
inductive Emits (stream : StreamId) : RequestFrame → StreamFrame → Prop
  | head (head : RequestHead) : Emits stream (.head head) (.headers stream (.request head) false)
  | data (bytes : Bytes) : Emits stream (.data bytes) (.data stream bytes false)
  | trailers (fields : Headers) :
    Emits stream (.trailers fields) (.headers stream (.trailers fields) true)
  | finish : Emits stream .finish (.data stream [] true)

theorem Emits.frameOf (stream : StreamId) (frame : RequestFrame) :
    Emits stream frame (frameOf stream frame) := by
  cases frame <;> constructor

theorem Emits.stream {stream : StreamId} {frame : RequestFrame} {emitted : StreamFrame}
    (emits : Emits stream frame emitted) : emitted.stream = stream := by
  cases emits <;> rfl

theorem Emits.endsStream {stream : StreamId} {frame : RequestFrame} {emitted : StreamFrame}
    (emits : Emits stream frame emitted) : emitted.endsStream = frame.isClosing := by
  cases emits <;> rfl

/-- What a writer answers to the frames of a request, given to it one after the other. -/
def encodeAll (w : StreamWriter) : List RequestFrame → List (Option StreamFrame)
  | [] => []
  | frame :: rest => (w.encode frame).1 :: (w.encode frame).2.encodeAll rest

theorem encodeAll_of_ended {w : StreamWriter} (ended : w.hasEnded = true)
    (frames : List RequestFrame) : w.encodeAll frames = List.replicate frames.length none := by
  have answered (frame : RequestFrame) : w.encode frame = (none, w) := by
    simp [encode, ended]
  induction frames with
  | nil => rfl
  | cons frame rest ih =>
      rw [encodeAll, answered, ih]
      rfl

/-- A writer that has not closed its stream answers each frame up to the first that closes the
request, and none behind it. -/
theorem encodeAll_ofStream (stream : StreamId) (frames : List RequestFrame) :
    (ofStream stream).encodeAll frames =
      ((throughClose frames).map (frameOf stream)).map some ++
        List.replicate (behindClose frames).length none := by
  induction frames with
  | nil => rfl
  | cons frame rest ih =>
      have ends : (frameOf stream frame).endsStream = frame.isClosing :=
        (Emits.frameOf stream frame).endsStream
      have encoded : (ofStream stream).encode frame =
          (some (frameOf stream frame), ⟨stream, frame.isClosing⟩) := by
        rw [← ends]
        rfl
      rw [encodeAll, encoded]
      cases closes : frame.isClosing with
      | true =>
          rw [encodeAll_of_ended rfl, throughClose_cons_of_closing closes,
            behindClose_cons_of_closing closes]
          rfl
      | false =>
          change some (frameOf stream frame) :: (ofStream stream).encodeAll rest = _
          rw [ih, throughClose_cons_of_open closes, behindClose_cons_of_open closes]
          rfl

/-- The frames that a writer emits for the frames of a request. -/
def emitted (stream : StreamId) (frames : List RequestFrame) : List StreamFrame :=
  ((ofStream stream).encodeAll frames).reduceOption

theorem emitted_eq (stream : StreamId) (frames : List RequestFrame) :
    emitted stream frames = (throughClose frames).map (frameOf stream) := by
  unfold emitted
  rw [encodeAll_ofStream, List.reduceOption_append, List.reduceOption_replicate_none,
    List.append_nil, List.reduceOption, List.filterMap_map]
  exact List.filterMap_some

end StreamWriter

namespace StreamFrame

/-- The frames of a request that a frame of its stream is read back as. Trailers stand for the end
of the request too, which has no other frame then. -/
def requestFrames? : StreamFrame → Option (List RequestFrame)
  | headers _ (.request head) false => some [.head head]
  | data _ bytes false => some [.data bytes]
  | headers _ (.trailers fields) true => some [.trailers fields, .finish]
  | data _ [] true => some [.finish]
  | _ => none

/-- The frames of a request, read back from those of its stream. -/
def readBack? : List StreamFrame → Option (List RequestFrame)
  | [] => some []
  | frame :: rest => do
    let first ← frame.requestFrames?
    let later ← readBack? rest
    return first ++ later

/-- A frame that leaves the request open is read back as it was. -/
theorem requestFrames?_frameOf {frame : RequestFrame} (opens : frame.isClosing = false)
    (stream : StreamId) :
    (StreamWriter.frameOf stream frame).requestFrames? = some [frame] := by
  cases frame with
  | head | data => rfl
  | trailers | finish => cases opens

theorem readBack?_append_of_open {first : List RequestFrame}
    (opens : ∀ frame ∈ first, frame.isClosing = false) (stream : StreamId)
    {rest : List StreamFrame} {later : List RequestFrame} (read : readBack? rest = some later) :
    readBack? (first.map (StreamWriter.frameOf stream) ++ rest) = some (first ++ later) := by
  induction first with
  | nil => exact read
  | cons frame first ih =>
      have one := requestFrames?_frameOf (opens frame List.mem_cons_self) stream
      have others := ih fun other member => opens other (List.mem_cons_of_mem _ member)
      rw [List.map_cons, List.cons_append, readBack?, one, others]
      rfl

end StreamFrame

namespace RequestOutline

open RequestFrame StreamFrame StreamWriter

/-- A whole request closes its stream once and is read back from the frames of it. -/
theorem emitted_frames (r : RequestOutline) (stream : StreamId) :
    (emitted stream r.frames).countP endsStream = 1 ∧
      readBack? (emitted stream r.frames) = some r.frames := by
  have opens := r.isClosing_of_mem_opening
  have open_frames : (r.opening.map (frameOf stream)).countP endsStream = 0 := by
    rw [List.countP_eq_zero]
    intro frame member
    obtain ⟨source, among, rfl⟩ := List.mem_map.mp member
    rw [(Emits.frameOf stream source).endsStream, opens source among]
    exact Bool.false_ne_true
  -- With trailers the end marker has no frame, without them it has one of its own.
  obtain ⟨last, closing, closes, read⟩ : ∃ last : StreamFrame,
      (throughClose r.ending).map (frameOf stream) = [last] ∧ last.endsStream = true ∧
        readBack? [last] = some r.ending := by
    unfold ending
    cases r.trailers with
    | none => exact ⟨_, rfl, rfl, rfl⟩
    | some fields => exact ⟨_, rfl, rfl, rfl⟩
  rw [emitted_eq, frames, throughClose_append_of_open opens, List.map_append, closing]
  constructor
  · rw [List.countP_append, open_frames, List.countP_singleton, closes]
    rfl
  · exact readBack?_append_of_open opens stream read

end RequestOutline

namespace StreamWriter

open RequestFrame StreamFrame

/-- Whatever frames a writer is given, it emits those that stand for them up to the first that
closes the request, in order, and answers none to all behind that. They are frames of its own
stream, and only the last can close it. For a whole request one frame closes the stream, and the
request is read back from the frames. -/
theorem emits_through_close (stream : StreamId) :
    (∀ frames : List RequestFrame,
      List.Forall₂ (Emits stream) (throughClose frames) (emitted stream frames) ∧
      (ofStream stream).encodeAll frames =
        (emitted stream frames).map some ++ List.replicate (behindClose frames).length none ∧
      (∀ frame ∈ emitted stream frames, frame.stream = stream) ∧
      (emitted stream frames).countP endsStream ≤ 1 ∧
      ∀ frame ∈ (emitted stream frames).dropLast, frame.endsStream = false) ∧
    ∀ request : RequestOutline,
      (emitted stream request.frames).countP endsStream = 1 ∧
      readBack? (emitted stream request.frames) = some request.frames := by
  refine ⟨fun frames => ?_, fun request => request.emitted_frames stream⟩
  have stands : List.Forall₂ (Emits stream) (throughClose frames) (emitted stream frames) := by
    rw [emitted_eq, List.forall₂_map_right_iff, List.forall₂_same]
    intro frame _
    exact Emits.frameOf stream frame
  have only_last : ∀ frame ∈ (emitted stream frames).dropLast, frame.endsStream = false := by
    rw [emitted_eq, ← List.map_dropLast]
    intro frame member
    obtain ⟨source, among, rfl⟩ := List.mem_map.mp member
    rw [(Emits.frameOf stream source).endsStream]
    exact isClosing_of_mem_dropLast frames source among
  refine ⟨stands, ?_, ?_, ?_, only_last⟩
  · rw [emitted_eq]
    exact encodeAll_ofStream stream frames
  · rw [emitted_eq]
    intro frame member
    obtain ⟨source, -, rfl⟩ := List.mem_map.mp member
    exact (Emits.frameOf stream source).stream
  · rcases List.eq_nil_or_concat (emitted stream frames) with none_emitted | ⟨before, last, ends⟩
    · simp [none_emitted]
    · rw [List.concat_eq_append] at ends
      rw [ends, List.dropLast_concat] at only_last
      have open_before : before.countP endsStream = 0 := by
        rw [List.countP_eq_zero]
        intro frame member
        simp [only_last frame member]
      rw [ends, List.countP_append, open_before, Nat.zero_add]
      exact List.countP_le_length

end StreamWriter

namespace Bench

/-- A request with two chunks, one of them empty, and trailers. -/
def trailedOutline : RequestOutline :=
  ⟨⟨"PUT", "/", .http11, .empty⟩, [[1, 2], []], some .empty⟩

/-- The trailers close the stream, and what is given to the writer behind them is passed over. -/
theorem emits_through_close_trailed :
    let frames := trailedOutline.frames ++ [.data [3], .finish]
    let emitted := StreamWriter.emitted ⟨5⟩ frames
    emitted = [.headers ⟨5⟩ (.request trailedOutline.head) false, .data ⟨5⟩ [1, 2] false,
        .data ⟨5⟩ [] false, .headers ⟨5⟩ (.trailers .empty) true] ∧
      (∀ frame ∈ emitted, frame.stream = ⟨5⟩) ∧
      StreamFrame.readBack? emitted = some trailedOutline.frames := by
  intro frames emitted
  obtain ⟨sequences, requests⟩ := StreamWriter.emits_through_close ⟨5⟩
  obtain ⟨-, -, own, -⟩ := sequences frames
  have whole : emitted = StreamWriter.emitted ⟨5⟩ trailedOutline.frames := by decide +kernel
  refine ⟨by decide +kernel, own, ?_⟩
  rw [whole]
  exact (requests trailedOutline).2

end Bench

end HttpExchange
