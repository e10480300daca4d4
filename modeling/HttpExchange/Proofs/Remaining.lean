import HttpExchange.Proofs.Reference

/-!
What is left of a body and of a frame source. At every moment they have a list of frames still to
come, given what the producer will answer. One poll of the source moves the first of them out and
asks for the answers and takes the items that this takes.
-/

namespace HttpExchange

namespace Allowance

theorem cut_eq (a : Allowance) (chunk : Bytes) : a.cut chunk = Room.cut a.remaining chunk := rfl

/-- The declared length is reached exactly by a chunk that fills the room left. -/
theorem reaches_eq (a : Allowance) (chunk : Bytes) :
    a.reaches (a.written + (a.cut chunk).length) = Room.isFilledBy a.remaining chunk := by
  cases declared : a.declared with
  | none => simp [reaches, remaining, Room.isFilledBy, declared]
  | some n =>
      simp only [reaches, remaining, Room.isFilledBy, cut, declared, Option.map_some,
        Option.any_some, List.length_take, decide_eq_decide]
      omega

theorem remaining_accept (a : Allowance) (chunk : Bytes) (done : Bool) :
    ({ a with written := a.written + (Room.cut a.remaining chunk).length, done := done } :
      Allowance).remaining = Room.after a.remaining chunk := by
  cases declared : a.declared with
  | none => simp [remaining, Room.after, declared]
  | some n =>
      simp only [remaining, Room.after, Room.cut, declared, Option.map_some, List.length_take,
        Option.some.injEq]
      omega

end Allowance

/-- The frames of a body from one answer on, given the frames behind it. -/
def BodyAnswer.frames (behind : List RequestFrame) : BodyAnswer → List RequestFrame
  | pending => behind
  | data chunk => dataFrames chunk ++ behind
  | trailers fields => .trailers fields :: behind
  | failed _ => []
  | finished => [.finish]

namespace MeteredBody

/-- Nothing more is asked of the producer. -/
def isOver (b : MeteredBody) : Bool := b.allowance.done || b.isReleased

/-- The frames still to come if the producer goes on to answer this. -/
def rest (b : MeteredBody) (later : List BodyAnswer) : List RequestFrame :=
  if b.isOver then [.finish] else bodyFrames b.allowance.remaining later

theorem rest_of_over {b : MeteredBody} (ended : b.isOver = true) (later : List BodyAnswer) :
    b.rest later = [.finish] := by
  simp [rest, ended]

theorem rest_of_open {b : MeteredBody} (unfinished : b.isOver = false)
    (later : List BodyAnswer) : b.rest later = bodyFrames b.allowance.remaining later := by
  simp [rest, unfinished]

/-- A chunk is cut to the room there is, and the body is over once it fills it. -/
theorem pass_data {b : MeteredBody} (unfinished : b.isOver = false) (chunk : Bytes) :
    b.pass (.data chunk) = (.data (b.allowance.cut chunk), { b with
      allowance := { b.allowance with
        written := b.allowance.written + (b.allowance.cut chunk).length
        done := Room.isFilledBy b.allowance.remaining chunk }
      isReleased := Room.isFilledBy b.allowance.remaining chunk }) := by
  obtain ⟨not_done, -⟩ : b.allowance.done = false ∧ b.isReleased = false := by
    simpa [isOver] using unfinished
  simp only [pass, Allowance.accept, not_done, Bool.false_eq_true, ↓reduceIte,
    Allowance.reaches_eq]

/-- Passing on an answer moves its frame out of those to come. -/
theorem pass_rest {b : MeteredBody} (unfinished : b.isOver = false) (answer : BodyAnswer)
    (later : List BodyAnswer) :
    bodyFrames b.allowance.remaining (answer :: later) =
      (b.pass answer).1.frames ((b.pass answer).2.rest later) := by
  obtain ⟨not_done, kept⟩ : b.allowance.done = false ∧ b.isReleased = false := by
    simpa [isOver] using unfinished
  cases answer with
  | pending => exact (rest_of_open unfinished later).symm
  | trailers fields =>
      rw [bodyFrames_trailers, ← rest_of_open unfinished later]
      rfl
  | failed error => simp [pass, Allowance.close, not_done, BodyAnswer.frames]
  | finished => simp [pass, BodyAnswer.frames]
  | data chunk =>
      rw [pass_data unfinished, bodyFrames_data]
      simp only [BodyAnswer.frames, rest, isOver, Bool.or_self, Allowance.cut_eq,
        Allowance.remaining_accept]

theorem poll_of_over {b : MeteredBody} (ended : b.isOver = true) :
    b.poll = ⟨.finished, none, b⟩ := by
  unfold poll
  exact if_pos ended

theorem poll_of_open {b : MeteredBody} (unfinished : b.isOver = false) :
    b.poll = ⟨(pass { b with producer := b.producer.poll.2 } b.producer.poll.1).1,
      some b.producer.poll.1,
      (pass { b with producer := b.producer.poll.2 } b.producer.poll.1).2⟩ := by
  unfold poll
  rw [if_neg (by simpa [isOver] using unfinished)]

/-- A poll asks for one answer and takes its frame from those to come. -/
theorem poll_rest (b : MeteredBody) (later : List BodyAnswer) :
    b.rest (b.poll.asked.toList ++ later) = b.poll.answer.frames (b.poll.body.rest later) := by
  cases ended : b.isOver with
  | true =>
      rw [rest_of_over ended, poll_of_over ended]
      rfl
  | false =>
      rw [rest_of_open ended, poll_of_open ended]
      exact pass_rest (b := { b with producer := b.producer.poll.2 }) ended _ later

end MeteredBody

/-- The frame that a source yielded, if it yielded one. -/
def FrameAnswer.frame? : FrameAnswer → Option RequestFrame
  | frame yielded => some yielded
  | _ => none

namespace FrameSource

/-- The frames still to come if the producer goes on to answer this. -/
def rest (s : FrameSource) (later : List BodyAnswer) : List RequestFrame :=
  match s.phase with
  | .head head => .head head :: s.body.rest later
  | .body => s.body.rest later
  | .done => []

theorem pollBody_rest (b : MeteredBody) (later : List BodyAnswer) :
    b.rest ((pollBody b).asked ++ later) =
      (pollBody b).answer.frame?.toList ++ (pollBody b).source.rest later := by
  fun_induction pollBody b with
  | case2 b answered next ih =>
      rw [List.append_assoc, b.poll_rest, answered]
      exact ih
  | case1 b answered | case3 b _ _ answered | case4 b _ answered | case5 b _ answered
  | case6 b answered =>
      rw [b.poll_rest, answered]
      rfl

/-- One poll takes its frame from those to come, and asks for the answers that this takes. -/
theorem poll_rest (s : FrameSource) (later : List BodyAnswer) :
    s.rest (s.poll.asked ++ later) = s.poll.answer.frame?.toList ++ s.poll.source.rest later := by
  unfold poll
  cases phase : s.phase with
  | head head =>
      simp only [rest, phase]
      rfl
  | body =>
      simp only [rest, phase]
      exact pollBody_rest s.body later
  | done =>
      simp only [rest, phase]
      rfl

theorem poll_of_done {s : FrameSource} (finished : s.phase = .done) :
    s.poll = ⟨.finished, [], s⟩ := by
  unfold poll
  rw [finished]

/-- A producer that has nothing is asked once. -/
theorem poll_of_unfed {s : FrameSource} (phase : s.phase = .body)
    (going : s.body.isOver = false) :
    (∃ rest, s.poll.asked = s.body.producer.poll.1 :: rest) ∧
      (s.body.producer.poll.1 = .pending → s.poll =
        ⟨.pending, [.pending],
          { s with body := { s.body with producer := s.body.producer.poll.2 } }⟩) := by
  obtain ⟨_, body⟩ := s
  cases phase
  have asked := MeteredBody.poll_of_open going
  simp only [poll]
  rw [pollBody]
  constructor
  · split
    all_goals
      dsimp only
      rw [asked]
      exact ⟨_, rfl⟩
  · intro nothing
    rw [nothing] at asked
    split
    all_goals
      rename_i answered
      rw [asked] at answered
      cases answered
    rw [asked]
    rfl

end FrameSource

/-- The item that an answer gave, if it gave one. -/
def BodyAnswer.item? : BodyAnswer → Option BodyItem
  | data bytes => some (.data bytes)
  | trailers fields => some (.trailers fields)
  | failed error => some (.failed error)
  | pending | finished => none

theorem heard_filterMap_item? (answers : List BodyAnswer) :
    (heard answers).filterMap BodyAnswer.item? = answers.filterMap BodyAnswer.item? := by
  induction answers with
  | nil => rfl
  | cons answer rest ih =>
      cases answer with
      | pending | finished => exact ih
      | data _ | trailers _ | failed _ => exact congrArg (_ :: ·) ih

/-- The items of a script that are more than a delay. -/
def solidItems (items : List BodyItem) : List BodyItem := items.filter (· ≠ .pending)

theorem solidItems_append (first second : List BodyItem) :
    solidItems (first ++ second) = solidItems first ++ solidItems second :=
  List.filter_append first second

/-- The producer answers with its items, in order. -/
theorem Producer.poll_items (p : Producer) :
    p.poll.1.item?.toList ++ solidItems p.poll.2.items = solidItems p.items := by
  unfold poll
  split
  · rename_i empty
    rw [empty]
    dsimp only
    split <;> simp [BodyAnswer.item?, solidItems]
  · rename_i item rest items
    rw [items]
    cases item <;> simp [BodyItem.answer, BodyAnswer.item?, solidItems]

theorem MeteredBody.poll_items (b : MeteredBody) :
    b.poll.asked.toList.filterMap BodyAnswer.item? ++ solidItems b.poll.body.producer.items =
      solidItems b.producer.items := by
  unfold poll
  split
  · rfl
  · dsimp only
    rw [pass_producer, ← b.producer.poll_items]
    cases b.producer.poll.1 <;> rfl

/-- What a source asked for, and what is left in its producer, is what the producer had. -/
theorem FrameSource.poll_items (s : FrameSource) :
    s.poll.asked.filterMap BodyAnswer.item? ++ solidItems s.poll.source.body.producer.items =
      solidItems s.body.producer.items := by
  have body_items (b : MeteredBody) :
      (pollBody b).asked.filterMap BodyAnswer.item? ++
        solidItems (pollBody b).source.body.producer.items = solidItems b.producer.items := by
    fun_induction pollBody b with
    | case2 b answered later ih =>
        rw [List.filterMap_append, List.append_assoc, ih]
        exact b.poll_items
    | case1 b _ | case3 b _ _ _ | case4 b _ _ | case5 b _ _ | case6 b _ => exact b.poll_items
  unfold poll
  cases s.phase with
  | head head => rfl
  | body => exact body_items s.body
  | done => rfl

namespace FrameSource

def isAtHead (s : FrameSource) : Bool :=
  match s.phase with
  | .head _ => true
  | _ => false

theorem poll_isAtHead (s : FrameSource) : s.poll.source.isAtHead = false := by
  have body_isAtHead (b : MeteredBody) : (pollBody b).source.isAtHead = false := by
    fun_induction pollBody b with
    | case2 b answered later ih => exact ih
    | _ => rfl
  unfold poll
  cases phase : s.phase with
  | head head => rfl
  | body => exact body_isAtHead s.body
  | done => simp [isAtHead, phase]

end FrameSource

end HttpExchange
