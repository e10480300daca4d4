import HttpExchange.Body.Metered
import HttpExchange.Failure.Basic
import HttpExchange.Message

/-!
The frames of a request in the order they are written: the head, then what the
metered body yields, then the end marker. Empty chunks are passed over. A failing
body ends the frames without an end marker.

`FrameSource.steps` bounds the frames still to come.
-/

namespace HttpExchange

inductive FramePhase where
  | head (head : RequestHead)
  | body
  | done
  deriving DecidableEq, Repr

structure FrameSource where
  phase : FramePhase
  body : MeteredBody
  deriving DecidableEq, Repr

/-- What a frame source answers to a poll. -/
inductive FrameAnswer where
  | pending
  | frame (frame : RequestFrame)
  | failed (failure : Failure)
  | finished
  deriving DecidableEq, Repr

/-- One poll: the answer, what the producer answered meanwhile, and the source
afterwards. -/
structure FramePoll where
  answer : FrameAnswer
  asked : List BodyAnswer
  source : FrameSource
  deriving DecidableEq, Repr

namespace FrameSource

def ofBody (head : RequestHead) (body : MeteredBody) : FrameSource := ⟨.head head, body⟩

/-- The end marker was yielded, or the body failed. -/
def isFinished (s : FrameSource) : Bool := s.phase = .done

/-- Polls the body up to its first answer that is not an empty chunk. -/
def pollBody (b : MeteredBody) : FramePoll :=
  match _ : b.poll.answer with
  | .pending => ⟨.pending, b.poll.asked.toList, ⟨.body, b.poll.body⟩⟩
  | .data [] =>
    let later := pollBody b.poll.body
    { later with asked := b.poll.asked.toList ++ later.asked }
  | .data (byte :: bytes) =>
    ⟨.frame (.data (byte :: bytes)), b.poll.asked.toList, ⟨.body, b.poll.body⟩⟩
  | .trailers fields => ⟨.frame (.trailers fields), b.poll.asked.toList, ⟨.body, b.poll.body⟩⟩
  | .failed error => ⟨.failed (.body error), b.poll.asked.toList, ⟨.done, b.poll.body⟩⟩
  | .finished => ⟨.frame .finish, b.poll.asked.toList, ⟨.done, b.poll.body⟩⟩
  termination_by b.producer.items.length
  decreasing_by
    have taken : b.poll.answer = .data [] := ‹_›
    exact MeteredBody.poll_shorter (by simp [taken]) (by simp [taken])

def poll (s : FrameSource) : FramePoll :=
  match s.phase with
  | .head head => ⟨.frame (.head head), [], { s with phase := .body }⟩
  | .body => pollBody s.body
  | .done => ⟨.finished, [], s⟩

/-- Two for the head, one for the end marker, and one for each item of the body. -/
def steps (s : FrameSource) : Nat :=
  match s.phase with
  | .head _ => s.body.producer.items.length + 2
  | .body => s.body.producer.items.length + 1
  | .done => 0

theorem pollBody_steps {b : MeteredBody} {frame : RequestFrame}
    (h : (pollBody b).answer = .frame frame) :
    (pollBody b).source.steps < b.producer.items.length + 1 := by
  fun_induction pollBody b with
  | case1 b answered => cases h
  | case2 b answered later ih =>
    have shorter := MeteredBody.poll_shorter (b := b) (by simp [answered]) (by simp [answered])
    have := ih h
    simp only [later] at this ⊢
    omega
  | case3 b byte bytes answered =>
    have shorter := MeteredBody.poll_shorter (b := b) (by simp [answered]) (by simp [answered])
    simpa [steps] using shorter
  | case4 b fields answered =>
    have shorter := MeteredBody.poll_shorter (b := b) (by simp [answered]) (by simp [answered])
    simpa [steps] using shorter
  | case5 b error answered => cases h
  | case6 b answered => simp [steps]

/-- Every frame brings the source closer to its end. -/
theorem poll_steps {s : FrameSource} {frame : RequestFrame}
    (h : s.poll.answer = .frame frame) : s.poll.source.steps < s.steps := by
  unfold poll at h ⊢
  split at h <;> rename_i phase
  · simp [phase, steps]
  · simpa [phase, steps] using pollBody_steps h
  · cases h

end FrameSource

end HttpExchange
