import HttpExchange.Proofs.Sending

/-!
What a body comes to, however often it is polled and whenever its producer gains items. The
answers of the producer are passed on one by one, data only up to the declared length, until one
of them is the last: a chunk that reaches that length, an error, or the end. From then on the
producer is not asked again, and the body answers nothing but its end.
-/

namespace HttpExchange

namespace Room

theorem after_append (room : Room) (first second : Bytes) :
    (room.after first).after second = room.after (first ++ second) := by
  cases room with
  | none => rfl
  | some n => simp [after, Nat.sub_sub]

theorem after_nil (room : Room) : room.after [] = room := by cases room <;> rfl

theorem cut_nil (room : Room) : room.cut [] = [] := by cases room <;> simp [cut]

theorem cut_length_le (n : Nat) (chunk : Bytes) : (cut (some n) chunk).length ≤ n :=
  (List.length_take_le n chunk)

end Room

namespace BodyAnswer

/-- An answer as a body with this much room passes it on. -/
def within (room : Room) : BodyAnswer → BodyAnswer
  | data chunk => .data (room.cut chunk)
  | answer => answer

/-- Whether a body with this much room asks for nothing more after an answer: it fills the room,
or is an error or the end. -/
def isLast (room : Room) : BodyAnswer → Bool
  | data chunk => room.isFilledBy chunk
  | failed _ | finished => true
  | pending | trailers _ => false

def trailers? : BodyAnswer → Option Headers
  | trailers fields => some fields
  | _ => none

def error? : BodyAnswer → Option ForeignError
  | failed error => some error
  | _ => none

theorem within_bytes (room : Room) (answer : BodyAnswer) :
    (answer.within room).bytes = room.cut answer.bytes := by
  cases answer with
  | data chunk => rfl
  | pending | trailers _ | failed _ | finished => exact room.cut_nil.symm

theorem within_trailers? (room : Room) (answer : BodyAnswer) :
    (answer.within room).trailers? = answer.trailers? := by
  cases answer <;> rfl

theorem within_error? (room : Room) (answer : BodyAnswer) :
    (answer.within room).error? = answer.error? := by
  cases answer <;> rfl

theorem error?_of_not_last {room : Room} {answer : BodyAnswer}
    (going : answer.isLast room = false) : answer.error? = none := by
  cases answer with
  | failed error => cases going
  | pending | data _ | trailers _ | finished => rfl

end BodyAnswer

/-- Answers as a body with this much room passes them on, one after the other. -/
def passedOn (room : Room) : List BodyAnswer → List BodyAnswer
  | [] => []
  | answer :: rest => answer.within room :: passedOn (room.after answer.bytes) rest

theorem passedOn_bytes (room : Room) (answers : List BodyAnswer) :
    (passedOn room answers).flatMap BodyAnswer.bytes =
      room.cut (answers.flatMap BodyAnswer.bytes) := by
  induction answers generalizing room with
  | nil => exact room.cut_nil.symm
  | cons answer rest ih =>
      simp only [passedOn, List.flatMap_cons]
      rw [ih, BodyAnswer.within_bytes, Room.cut_append]

/-- What does not depend on the room is passed on as it is. -/
theorem passedOn_filterMap {α : Type} {view : BodyAnswer → Option α}
    (same : ∀ room answer, view (answer.within room) = view answer) (room : Room)
    (answers : List BodyAnswer) :
    (passedOn room answers).filterMap view = answers.filterMap view := by
  induction answers generalizing room with
  | nil => rfl
  | cons answer rest ih =>
      simp only [passedOn, List.filterMap_cons, same, ih]

/-- The answers that a body with this much room has asked for, and whether it is over with the
last of them. -/
inductive Asked : Room → List BodyAnswer → Bool → Prop
  | nil (room : Room) : Asked room [] false
  | last {room : Room} {answer : BodyAnswer} (ends : answer.isLast room = true) :
    Asked room [answer] true
  | cons {room : Room} {answer : BodyAnswer} {rest : List BodyAnswer} {isOver : Bool}
    (going : answer.isLast room = false) (later : Asked (room.after answer.bytes) rest isOver) :
    Asked room (answer :: rest) isOver

namespace Asked

variable {room : Room} {answers : List BodyAnswer} {isOver : Bool}

/-- The first answer that can be the last is the last, and the body is over just then. -/
theorem isLast_iff (asked : Asked room answers isOver) {before after : List BodyAnswer}
    {answer : BodyAnswer} (among : answers = before ++ answer :: after) :
    answer.isLast (room.after (before.flatMap BodyAnswer.bytes)) = true ↔
      after = [] ∧ isOver = true := by
  induction asked generalizing before with
  | nil => cases before <;> cases among
  | last ends =>
      cases before with
      | nil =>
          cases among
          simpa [Room.after_nil] using ends
      | cons first between => cases between <;> cases among
  | @cons room first rest isOver going later ih =>
      cases before with
      | nil =>
          cases among
          simp only [List.flatMap_nil, Room.after_nil, going, Bool.false_eq_true, false_iff]
          rintro ⟨rfl, rfl⟩
          cases later
      | cons _ between =>
          cases among
          simpa [Room.after_append] using ih rfl

theorem ne_nil_of_over (asked : Asked room answers true) : answers ≠ [] := by
  cases asked <;> exact List.cons_ne_nil _ _

/-- An error is the last answer, so there is no second one. -/
theorem errors_length_le (asked : Asked room answers isOver) :
    (answers.filterMap BodyAnswer.error?).length ≤ 1 := by
  induction asked with
  | nil => exact Nat.zero_le _
  | @last room answer ends =>
      rw [List.filterMap_cons, List.filterMap_nil]
      split <;> simp
  | cons going later ih =>
      rwa [List.filterMap_cons, BodyAnswer.error?_of_not_last going]

end Asked

/-- The account behind an answer of the producer. -/
def Allowance.spend (a : Allowance) (answer : BodyAnswer) : Allowance :=
  { a with
    written := a.written + (Room.cut a.remaining answer.bytes).length
    done := answer.isLast a.remaining }

theorem Allowance.spend_remaining (a : Allowance) (answer : BodyAnswer) :
    (a.spend answer).remaining = Room.after a.remaining answer.bytes :=
  a.remaining_accept answer.bytes _

namespace MeteredBody

theorem pass_of_open {b : MeteredBody} (unfinished : b.isOver = false) (answer : BodyAnswer) :
    b.pass answer = (answer.within b.allowance.remaining,
      ⟨b.allowance.spend answer, b.producer, answer.isLast b.allowance.remaining⟩) := by
  obtain ⟨⟨declared, written, done⟩, producer, isReleased⟩ := b
  obtain ⟨rfl, rfl⟩ : done = false ∧ isReleased = false := by simpa [isOver] using unfinished
  cases answer with
  | data chunk => exact pass_data unfinished chunk
  | pending | trailers _ | failed _ | finished =>
      simp [pass, Allowance.spend, Allowance.close, BodyAnswer.within, BodyAnswer.isLast,
        BodyAnswer.bytes, Room.cut_nil]

theorem isOver_spend (a : Allowance) (answer : BodyAnswer) (producer : Producer) :
    isOver ⟨a.spend answer, producer, answer.isLast a.remaining⟩ = answer.isLast a.remaining :=
  Bool.or_self _

/-- A body that is not over asks its producer and passes on the answer. -/
theorem poll_of_unfinished {b : MeteredBody} (unfinished : b.isOver = false) :
    let answer := b.producer.poll.1
    b.poll = ⟨answer.within b.allowance.remaining, some answer,
      ⟨b.allowance.spend answer, b.producer.poll.2, answer.isLast b.allowance.remaining⟩⟩ := by
  intro answer
  rw [poll_of_open unfinished,
    pass_of_open (b := { b with producer := b.producer.poll.2 }) unfinished]

end MeteredBody

/-- What happens to a body: it is polled, or its producer gains items and may come to its end. -/
inductive BodyStimulus where
  | poll
  | feed (items : List BodyItem) (close : Bool)
  deriving DecidableEq, Repr

/-- What a body answered, what its producer answered when it was asked, and the body afterwards. -/
structure BodyRun where
  answers : List BodyAnswer
  asked : List BodyAnswer
  body : MeteredBody
  deriving DecidableEq, Repr

def MeteredBody.play (b : MeteredBody) : List BodyStimulus → BodyRun
  | [] => ⟨[], [], b⟩
  | .poll :: rest =>
    let later := b.poll.body.play rest
    ⟨b.poll.answer :: later.answers, b.poll.asked.toList ++ later.asked, later.body⟩
  | .feed items close :: rest => (b.feed items close).play rest

/-- Nothing came of a body `b` that is over: it answered its end, its producer was not asked, and
without the polls it would be the same. -/
structure BodyRun.Idles (b : MeteredBody) (history : List BodyStimulus) (run : BodyRun) : Prop where
  asked : run.asked = []
  answers : ∃ idle, run.answers = List.replicate idle .finished
  allowance : run.body.allowance = b.allowance
  isReleased : run.body.isReleased = b.isReleased
  unpolled : run.body = (b.play (history.filter (· ≠ .poll))).body

/-- What came of a body that began with the allowance `a`. -/
structure BodyRun.Meters (a : Allowance) (run : BodyRun) : Prop where
  asked : Asked a.remaining run.asked run.body.allowance.done
  answers : ∃ idle, run.answers = passedOn a.remaining run.asked ++ List.replicate idle .finished ∧
    (run.body.allowance.done = false → idle = 0)
  declared : run.body.allowance.declared = a.declared
  written : run.body.allowance.written =
    a.written + (Room.cut a.remaining (run.asked.flatMap BodyAnswer.bytes)).length
  released : run.body.isReleased = run.body.allowance.done

namespace BodyRun.Meters

variable {a : Allowance} {answer : BodyAnswer} {run : BodyRun}

/-- An answer that is not the last goes before those that follow. -/
theorem cons (going : answer.isLast a.remaining = false) (later : Meters (a.spend answer) run) :
    Meters a ⟨answer.within a.remaining :: run.answers, answer :: run.asked, run.body⟩ where
  asked := by
    have asked := later.asked
    rw [a.spend_remaining] at asked
    exact .cons going asked
  answers := by
    obtain ⟨idle, answers, none_idle⟩ := later.answers
    rw [a.spend_remaining] at answers
    exact ⟨idle, congrArg (answer.within a.remaining :: ·) answers, none_idle⟩
  declared := later.declared
  written := by
    rw [later.written, a.spend_remaining, List.flatMap_cons, Room.cut_append, List.length_append,
      ← Nat.add_assoc]
    rfl
  released := later.released

/-- Behind the last answer there is nothing. -/
theorem last {b : MeteredBody} {history : List BodyStimulus}
    (ends : answer.isLast a.remaining = true) (allowance : b.allowance = a.spend answer)
    (isReleased : b.isReleased = true) (idles : BodyRun.Idles b history run) :
    Meters a ⟨answer.within a.remaining :: run.answers, answer :: run.asked, run.body⟩ := by
  have spent : run.body.allowance = a.spend answer := idles.allowance.trans allowance
  have done : run.body.allowance.done = true := by
    rw [spent]
    exact ends
  obtain ⟨idle, answers⟩ := idles.answers
  refine ⟨?_, ⟨idle, ?_, ?_⟩, ?_, ?_, ?_⟩
  · rw [idles.asked, done]
    exact .last ends
  · rw [idles.asked, answers]
    rfl
  · rw [done]
    exact nofun
  · change run.body.allowance.declared = a.declared
    rw [spent]
    rfl
  · rw [idles.asked, spent, List.flatMap_singleton]
    rfl
  · rw [idles.isReleased, isReleased, done]

end BodyRun.Meters

namespace MeteredBody

theorem play_of_over {b : MeteredBody} (ended : b.isOver = true)
    (history : List BodyStimulus) : BodyRun.Idles b history (b.play history) := by
  induction history generalizing b with
  | nil => exact ⟨rfl, ⟨0, rfl⟩, rfl, rfl, rfl⟩
  | cons stimulus rest ih =>
      cases stimulus with
      | feed items close =>
          have later := ih (b := b.feed items close) ended
          exact ⟨later.asked, later.answers, later.allowance, later.isReleased, later.unpolled⟩
      | poll =>
          have later := ih ended
          obtain ⟨idle, answers⟩ := later.answers
          have played : b.play (.poll :: rest) =
              ⟨.finished :: (b.play rest).answers, (b.play rest).asked, (b.play rest).body⟩ := by
            rw [play, poll_of_over ended]
            rfl
          rw [played]
          refine ⟨later.asked, ⟨idle + 1, ?_⟩, later.allowance, later.isReleased, later.unpolled⟩
          rw [answers]
          rfl

theorem play_meters {b : MeteredBody} (unfinished : b.isOver = false)
    (history : List BodyStimulus) : BodyRun.Meters b.allowance (b.play history) := by
  induction history generalizing b with
  | nil =>
      obtain ⟨not_done, kept⟩ : b.allowance.done = false ∧ b.isReleased = false := by
        simpa [isOver] using unfinished
      refine ⟨?_, ⟨0, rfl, fun _ => rfl⟩, rfl, ?_, kept.trans not_done.symm⟩
      · rw [play, not_done]
        exact .nil _
      · simp [play, Room.cut_nil]
  | cons stimulus rest ih =>
      cases stimulus with
      | feed items close => exact ih (b := b.feed items close) unfinished
      | poll =>
          have polled := poll_of_unfinished unfinished
          have spent := isOver_spend b.allowance b.producer.poll.1 b.producer.poll.2
          rw [play, polled]
          rcases Bool.eq_false_or_eq_true (b.producer.poll.1.isLast b.allowance.remaining) with
            ends | going
          · exact .last ends rfl ends (play_of_over (spent.trans ends) rest)
          · exact .cons going (ih (spent.trans going))

/-- Whatever its producer answers, a body passes on the answers one by one, data up to the
declared length, until one of them is the last. Just then it lets go of the producer, which is
not asked again, and further polls are answered with the end and change nothing. -/
theorem forwards_declared_prefix (head : RequestHead) (producer : Producer)
    (history : List BodyStimulus)
    (bounded : head.headers.declaredLength.1 = none →
      (((ofProducer head.headers producer).play history).asked.flatMap BodyAnswer.bytes).length <
        Bytes.lengthLimit) :
    let declared := head.headers.declaredLength.1
    let run := (ofProducer head.headers producer).play history
    let consumed := run.asked.flatMap BodyAnswer.bytes
    let forwarded := run.answers.flatMap BodyAnswer.bytes
    let done := run.body.allowance.done
    (forwarded = Room.cut declared consumed ∧
      run.body.allowance.written = forwarded.length ∧
      (∀ length, declared = some length → run.body.allowance.written ≤ length) ∧
      run.body.allowance.written < Bytes.lengthLimit) ∧
    (run.body.isReleased = done ∧ (done = true → run.asked ≠ []) ∧
      ∀ before answer after, run.asked = before ++ answer :: after →
        (answer.isLast (Room.after declared (before.flatMap BodyAnswer.bytes)) = true ↔
          after = [] ∧ done = true)) ∧
    ((∃ idle, run.answers = passedOn declared run.asked ++ List.replicate idle .finished ∧
        (done = false → idle = 0)) ∧
      run.answers.filterMap BodyAnswer.trailers? = run.asked.filterMap BodyAnswer.trailers? ∧
      (run.answers.filterMap BodyAnswer.error?).length ≤ 1) ∧
    (done = true → ∀ later, BodyRun.Idles run.body later (run.body.play later)) := by
  intro declared run consumed forwarded done
  have meters : BodyRun.Meters (.ofDeclared declared) run :=
    play_meters (b := ofProducer head.headers producer) rfl history
  have whole : (Allowance.ofDeclared declared).remaining = declared := by
    change declared.map (· - 0) = declared
    simp
  obtain ⟨asked, ⟨idle, answers, none_idle⟩, -, written, released⟩ := meters
  rw [whole] at asked answers written
  have silent (α : Type) (view : BodyAnswer → Option α) (nothing : view .finished = none) :
      (List.replicate idle BodyAnswer.finished).filterMap view = [] := by
    simp [nothing]
  have forwarded_eq : forwarded = Room.cut declared consumed := by
    change run.answers.flatMap BodyAnswer.bytes = _
    rw [answers, List.flatMap_append, passedOn_bytes]
    simp [BodyAnswer.bytes, consumed]
  have written_eq : run.body.allowance.written = forwarded.length := by
    rw [written, forwarded_eq]
    exact Nat.zero_add _
  have within (length : Nat) (limit : declared = some length) :
      run.body.allowance.written ≤ length := by
    rw [written_eq, forwarded_eq, limit]
    exact Room.cut_length_le length consumed
  refine ⟨⟨forwarded_eq, written_eq, within, ?_⟩, ⟨released, ?_, ?_⟩,
    ⟨⟨idle, answers, none_idle⟩, ?_, ?_⟩, ?_⟩
  · cases limit : declared with
    | none =>
        rw [written_eq, forwarded_eq, limit]
        exact bounded limit
    | some length =>
        exact Nat.lt_of_le_of_lt (within length limit) (Headers.declaredLength_lt limit)
  · intro ended
    change run.body.allowance.done = true at ended
    rw [ended] at asked
    exact asked.ne_nil_of_over
  · exact fun before answer after => asked.isLast_iff
  · rw [answers, List.filterMap_append, passedOn_filterMap BodyAnswer.within_trailers?,
      silent _ _ rfl, List.append_nil]
  · rw [answers, List.filterMap_append, passedOn_filterMap BodyAnswer.within_error?,
      silent _ _ rfl, List.append_nil]
    exact asked.errors_length_le
  · intro ended later
    refine play_of_over ?_ later
    change (done || run.body.isReleased) = true
    rw [ended]
    rfl

end MeteredBody

namespace Bench

/-- A request that declares three bytes. -/
def declaringHead : RequestHead :=
  ⟨"PUT", "/", .http11, ⟨[("content-length", [0x33])]⟩⟩

/-- A producer that has trailers and a delay before the byte that reaches the declared length, and
that gains one more item when it is too late. -/
theorem forwards_declared_prefix_cut :
    let run := (MeteredBody.ofProducer declaringHead.headers
      (.ofItems [.data [1, 2], .trailers .empty, .pending, .data [3, 4], .data [5]])).play
      [.poll, .poll, .poll, .poll, .feed [.data [6]] false, .poll]
    declaringHead.headers.declaredLength.1 = some 3 ∧
      run.asked = [.data [1, 2], .trailers .empty, .pending, .data [3, 4]] ∧
      run.answers = [.data [1, 2], .trailers .empty, .pending, .data [3], .finished] ∧
      run.answers.flatMap BodyAnswer.bytes =
        Room.cut (some 3) (run.asked.flatMap BodyAnswer.bytes) ∧
      run.body.isReleased = true := by
  intro run
  have declared : declaringHead.headers.declaredLength.1 = some 3 := by decide +kernel
  obtain ⟨⟨forwarded, -⟩, ⟨released, -⟩, -⟩ := MeteredBody.forwards_declared_prefix declaringHead
    (.ofItems [.data [1, 2], .trailers .empty, .pending, .data [3, 4], .data [5]])
    [.poll, .poll, .poll, .poll, .feed [.data [6]] false, .poll] (by rw [declared]; exact nofun)
  rw [declared] at forwarded
  exact ⟨declared, by decide +kernel, by decide +kernel, forwarded,
    released.trans (by decide +kernel)⟩

end Bench

end HttpExchange
