import HttpExchange.Body.Frames
import HttpExchange.Framing.Pipeline
import Mathlib.Data.List.Infix

/-!
What a request is on the wire, said without a driver. A producer's answers, taken in order and
cut at the declared length, give the frames of the request, and these give the frames that the
connection carries. Everything here is a function of the head, the declared length, the answers
and the framing; when something is polled, and how often, has no place in it.
-/

namespace HttpExchange

/-- How many bytes may still be sent, if that is limited. -/
abbrev Room := Option Nat

namespace Room

/-- The part of a chunk that there is room for. -/
def cut (room : Room) (chunk : Bytes) : Bytes :=
  match room with
  | none => chunk
  | some n => chunk.take n

def isFilledBy (room : Room) (chunk : Bytes) : Bool := room.any (· ≤ chunk.length)

/-- The room behind a chunk. -/
def after (room : Room) (chunk : Bytes) : Room := room.map (· - chunk.length)

/-- What follows a chunk is cut to the room that the chunk leaves. -/
theorem cut_append (room : Room) (chunk rest : Bytes) :
    room.cut (chunk ++ rest) = room.cut chunk ++ (room.after chunk).cut rest := by
  cases room with
  | none => rfl
  | some n => exact List.take_append

end Room

/-- An empty chunk has no frame. -/
def dataFrames : Bytes → List RequestFrame
  | [] => []
  | byte :: bytes => [.data (byte :: bytes)]

/-- The frames of the items among a producer's answers. An answer that fills the room, an error
and the end are the last that count. -/
def itemFrames (room : Room) : List BodyAnswer → List RequestFrame
  | [] => []
  | .pending :: rest => itemFrames room rest
  | .data chunk :: rest =>
    dataFrames (room.cut chunk) ++
      if room.isFilledBy chunk then [] else itemFrames (room.after chunk) rest
  | .trailers fields :: rest => .trailers fields :: itemFrames room rest
  | .failed _ :: _ => []
  | .finished :: _ => []

/-- Whether the body came to its end: the producer said so, or the room was filled. -/
def isOver (room : Room) : List BodyAnswer → Bool
  | [] => false
  | .pending :: rest => isOver room rest
  | .data chunk :: rest => room.isFilledBy chunk || isOver (room.after chunk) rest
  | .trailers _ :: rest => isOver room rest
  | .failed _ :: _ => false
  | .finished :: _ => true

/-- The frames of a body: its items, and the end marker once it is over. -/
def bodyFrames (room : Room) (answers : List BodyAnswer) : List RequestFrame :=
  itemFrames room answers ++ if isOver room answers then [.finish] else []

def requestFrames (head : RequestHead) (room : Room) (answers : List BodyAnswer) :
    List RequestFrame :=
  .head head :: bodyFrames room answers

section BodyFrames

variable (room : Room) (rest : List BodyAnswer)

@[simp]
theorem bodyFrames_pending : bodyFrames room (.pending :: rest) = bodyFrames room rest := rfl

@[simp]
theorem bodyFrames_trailers (fields : Headers) :
    bodyFrames room (.trailers fields :: rest) = .trailers fields :: bodyFrames room rest := rfl

@[simp]
theorem bodyFrames_failed (error : ForeignError) : bodyFrames room (.failed error :: rest) = [] :=
  rfl

@[simp]
theorem bodyFrames_finished : bodyFrames room (.finished :: rest) = [.finish] := rfl

@[simp]
theorem bodyFrames_data (chunk : Bytes) :
    bodyFrames room (.data chunk :: rest) = dataFrames (room.cut chunk) ++
      if room.isFilledBy chunk then [.finish] else bodyFrames (room.after chunk) rest := by
  unfold bodyFrames
  cases filled : room.isFilledBy chunk <;> simp [itemFrames, isOver, filled]

end BodyFrames

/-- The answers that are more than a delay. -/
def heard (answers : List BodyAnswer) : List BodyAnswer := answers.filter (· ≠ .pending)

/-- How often a producer had nothing yet makes no difference. -/
theorem itemFrames_heard (room : Room) (answers : List BodyAnswer) :
    itemFrames room (heard answers) = itemFrames room answers := by
  induction answers generalizing room with
  | nil => rfl
  | cons answer rest ih =>
      cases answer with
      | pending => exact ih room
      | data chunk => exact congrArg (fun behind => dataFrames (room.cut chunk) ++
          if room.isFilledBy chunk then [] else behind) (ih (room.after chunk))
      | trailers fields => exact congrArg (.trailers fields :: ·) (ih room)
      | failed _ | finished => rfl

theorem isOver_heard (room : Room) (answers : List BodyAnswer) :
    isOver room (heard answers) = isOver room answers := by
  induction answers generalizing room with
  | nil => rfl
  | cons answer rest ih =>
      cases answer with
      | pending => exact ih room
      | data chunk => exact congrArg (room.isFilledBy chunk || ·) (ih (room.after chunk))
      | trailers fields => exact ih room
      | failed _ | finished => rfl

/-- The end marker is no item. -/
theorem finish_notMem_itemFrames (room : Room) (answers : List BodyAnswer) :
    RequestFrame.finish ∉ itemFrames room answers := by
  have no_data (chunk : Bytes) : RequestFrame.finish ∉ dataFrames chunk := by
    cases chunk <;> simp [dataFrames]
  induction answers generalizing room with
  | nil => simp [itemFrames]
  | cons answer rest ih =>
      cases answer with
      | data chunk =>
          simp only [itemFrames, List.mem_append, not_or]
          refine ⟨no_data _, ?_⟩
          split
          · simp
          · exact ih _
      | pending => exact ih room
      | trailers fields => simpa [itemFrames] using ih room
      | failed _ | finished => simp [itemFrames]

/-- Behind the end of a body nothing counts. -/
theorem bodyFrames_append_of_over {room : Room} {answers : List BodyAnswer}
    (ended : isOver room answers = true) (later : List BodyAnswer) :
    bodyFrames room (answers ++ later) = bodyFrames room answers := by
  induction answers generalizing room with
  | nil => cases ended
  | cons answer rest ih =>
      cases answer with
      | pending => exact ih ended
      | trailers fields => exact congrArg (.trailers fields :: ·) (ih ended)
      | failed error => cases ended
      | finished => rfl
      | data chunk =>
          rw [List.cons_append, bodyFrames_data, bodyFrames_data]
          cases filled : room.isFilledBy chunk with
          | true => rfl
          | false =>
              have over_rest : isOver (room.after chunk) rest = true := by
                simpa [isOver, filled] using ended
              rw [ih over_rest]

/-- A body that is not over ends with the next answer, if that is the end. -/
theorem bodyFrames_append_finished {room : Room} {answers : List BodyAnswer}
    (unfinished : isOver room answers = false) (unfailed : ∀ error, .failed error ∉ answers) :
    bodyFrames room (answers ++ [.finished]) = bodyFrames room answers ++ [.finish] := by
  induction answers generalizing room with
  | nil => rfl
  | cons answer rest ih =>
      have unfailed_rest : ∀ error, .failed error ∉ rest := fun error member =>
        unfailed error (List.mem_cons_of_mem _ member)
      cases answer with
      | pending => exact ih unfinished unfailed_rest
      | trailers fields =>
          exact congrArg (.trailers fields :: ·) (ih unfinished unfailed_rest)
      | failed error => exact absurd List.mem_cons_self (unfailed error)
      | finished => cases unfinished
      | data chunk =>
          obtain ⟨unfilled, unfinished_rest⟩ : room.isFilledBy chunk = false ∧
              isOver (room.after chunk) rest = false := by
            simpa [isOver] using unfinished
          rw [List.cons_append, bodyFrames_data, bodyFrames_data, unfilled,
            if_neg Bool.false_ne_true, if_neg Bool.false_ne_true,
            ih unfinished_rest unfailed_rest, List.append_assoc]

/-- The frames up to the first that closes its stream. -/
def StreamFrame.throughEnd : List StreamFrame → List StreamFrame
  | [] => []
  | frame :: rest => frame :: if frame.endsStream then [] else throughEnd rest

namespace Pipeline

/-- What a connection carries for the frames of a request. -/
def wire : Pipeline → List RequestFrame → List Outbound
  | single, frames => frames.map .single
  | multiplexed writer _, frames =>
    if writer.hasEnded then []
    else (StreamFrame.throughEnd (frames.map (StreamWriter.frameOf writer.stream))).map
      .multiplexed

/-- The pipeline after these frames. -/
def advance (p : Pipeline) (frames : List RequestFrame) : Pipeline :=
  frames.foldl (fun p frame => (p.encode frame).2) p

@[simp]
theorem wire_nil (p : Pipeline) : p.wire [] = [] := by
  cases p with
  | single => rfl
  | multiplexed writer reader => simp [wire, StreamFrame.throughEnd]

/-- Encoding one frame after the other gives what the connection is to carry. -/
theorem wire_cons (p : Pipeline) (frame : RequestFrame) (rest : List RequestFrame) :
    p.wire (frame :: rest) = (p.encode frame).1.toList ++ (p.encode frame).2.wire rest := by
  cases p with
  | single => rfl
  | multiplexed writer reader =>
      cases ended : writer.hasEnded with
      | true => simp [wire, encode, StreamWriter.encode, ended]
      | false =>
          simp only [wire, encode, StreamWriter.encode, ended, Bool.false_eq_true, ↓reduceIte,
            List.map_cons, StreamFrame.throughEnd, Option.map_some, Option.toList_some]
          split <;> rfl

theorem wire_singleton (p : Pipeline) (frame : RequestFrame) :
    p.wire [frame] = (p.encode frame).1.toList := by
  rw [wire_cons, wire_nil, List.append_nil]

theorem wire_append (p : Pipeline) (first second : List RequestFrame) :
    p.wire (first ++ second) = p.wire first ++ (p.advance first).wire second := by
  induction first generalizing p with
  | nil => simp [advance]
  | cons frame rest ih =>
      rw [List.cons_append, wire_cons, ih, wire_cons, List.append_assoc]
      rfl

theorem advance_append (p : Pipeline) (first second : List RequestFrame) :
    p.advance (first ++ second) = (p.advance first).advance second :=
  List.foldl_append

/-- What the connection is to carry for a request whose producer gave these answers. -/
def reference (p : Pipeline) (head : RequestHead) (room : Room) (answers : List BodyAnswer) :
    List Outbound :=
  p.wire (requestFrames head room answers)

theorem reference_heard (p : Pipeline) (head : RequestHead) (room : Room)
    (answers : List BodyAnswer) :
    p.reference head room (heard answers) = p.reference head room answers := by
  simp only [reference, requestFrames, bodyFrames, itemFrames_heard, isOver_heard]

/-- Delays among the answers so far make no difference, whatever comes later. -/
theorem reference_heard_append (p : Pipeline) (head : RequestHead) (room : Room)
    (answers later : List BodyAnswer) :
    p.reference head room (heard answers ++ later) = p.reference head room (answers ++ later) := by
  rw [← reference_heard, ← reference_heard _ _ _ (answers ++ later)]
  simp only [heard, List.filter_append, List.filter_filter, Bool.and_self]

end Pipeline

/-- The content bytes of an answer. -/
def BodyAnswer.bytes : BodyAnswer → Bytes
  | .data bytes => bytes
  | _ => []

def RequestFrame.payload : RequestFrame → Bytes
  | .data bytes => bytes
  | _ => []

/-- The content bytes that a frame carries. -/
def Outbound.payload : Outbound → Bytes
  | .single frame => frame.payload
  | .multiplexed (.data _ bytes _) => bytes
  | .multiplexed _ => []

theorem StreamFrame.throughEnd_isPrefix (frames : List StreamFrame) :
    throughEnd frames <+: frames := by
  induction frames with
  | nil => exact List.prefix_rfl
  | cons frame rest ih =>
      unfold throughEnd
      rw [List.prefix_cons_inj]
      split
      · exact List.nil_prefix
      · exact ih

theorem dataFrames_payload (chunk : Bytes) :
    (dataFrames chunk).flatMap RequestFrame.payload = chunk := by
  cases chunk with
  | nil => rfl
  | cons byte bytes => simp [dataFrames, RequestFrame.payload]

/-- The frames of a body carry no more than there is room for, and this in order. -/
theorem itemFrames_payload (room : Room) (answers : List BodyAnswer) :
    (itemFrames room answers).flatMap RequestFrame.payload <+:
      room.cut (answers.flatMap BodyAnswer.bytes) := by
  induction answers generalizing room with
  | nil => exact List.nil_prefix
  | cons answer rest ih =>
      cases answer with
      | pending => exact ih room
      | trailers fields => exact ih room
      | failed error => exact List.nil_prefix
      | finished => exact List.nil_prefix
      | data chunk =>
          simp only [itemFrames, List.flatMap_append, dataFrames_payload, List.flatMap_cons,
            BodyAnswer.bytes]
          rw [Room.cut_append, List.prefix_append_right_inj]
          split
          · exact List.nil_prefix
          · exact ih (room.after chunk)

theorem requestFrames_payload (head : RequestHead) (room : Room) (answers : List BodyAnswer) :
    (requestFrames head room answers).flatMap RequestFrame.payload <+:
      room.cut (answers.flatMap BodyAnswer.bytes) := by
  have marker : (if isOver room answers then [RequestFrame.finish] else []).flatMap
      RequestFrame.payload = [] := by
    split <;> rfl
  have items := itemFrames_payload room answers
  simpa [requestFrames, bodyFrames, marker, RequestFrame.payload] using items

/-- Framing adds no content. -/
theorem Pipeline.wire_payload (p : Pipeline) (frames : List RequestFrame) :
    (p.wire frames).flatMap Outbound.payload <+: frames.flatMap RequestFrame.payload := by
  cases p with
  | single => simp [wire, List.flatMap_map, Outbound.payload]
  | multiplexed writer reader =>
      have same (frame : RequestFrame) :
          (Outbound.multiplexed (StreamWriter.frameOf writer.stream frame)).payload =
            frame.payload := by
        cases frame <;> rfl
      unfold wire
      dsimp only
      split
      · exact List.nil_prefix
      · have through := StreamFrame.throughEnd_isPrefix
          (frames.map (StreamWriter.frameOf writer.stream))
        have cut := (through.map Outbound.multiplexed).flatMap Outbound.payload
        simpa [List.flatMap_map, same] using cut

/-- A reference carries no more content than was declared. -/
theorem Pipeline.reference_payload (p : Pipeline) (head : RequestHead) (room : Room)
    (answers : List BodyAnswer) :
    (p.reference head room answers).flatMap Outbound.payload <+:
      room.cut (answers.flatMap BodyAnswer.bytes) :=
  (p.wire_payload _).trans (requestFrames_payload head room answers)

end HttpExchange
