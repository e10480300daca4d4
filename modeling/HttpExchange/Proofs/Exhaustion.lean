import HttpExchange.Proofs.History
import HttpExchange.Proofs.Metering

/-!
What is left of a body when nothing more can come of it. The declared length is looked at when a
chunk has been passed on, and nowhere else. So a body whose declared bytes are all out is closed,
except that a declared length of zero is not noticed until the producer has given a chunk or come to
its end: until then the body waits for a producer of which it can use nothing. And the size of what
is still to come goes by the declared length alone, so that a body that ended early goes on
announcing the bytes that it did not get.
-/

namespace HttpExchange

theorem SizeHint.exactly_inj {m n : Nat} : exactly m = exactly n ↔ m = n := by
  constructor
  · intro same
    exact congrArg lower same
  · rintro rfl
    rfl

theorem Allowance.remaining_ofDeclared (limit : Option Nat) :
    (ofDeclared limit).remaining = limit := by
  cases limit <;> rfl

/-- An answer that leaves a body as it was: there is nothing yet, or there are trailers. -/
def BodyAnswer.isQuiet : BodyAnswer → Bool
  | pending | trailers _ => true
  | data _ | failed _ | finished => false

namespace BodyAnswer

theorem bytes_of_isQuiet {answer : BodyAnswer} (quiet : answer.isQuiet = true) :
    answer.bytes = [] := by
  cases answer with
  | pending | trailers _ => rfl
  | data _ | failed _ | finished => cases quiet

theorem bytes_of_all_quiet {answers : List BodyAnswer}
    (quiet : ∀ answer ∈ answers, answer.isQuiet = true) : answers.flatMap bytes = [] := by
  rw [List.flatMap_eq_nil_iff]
  intro answer among
  exact bytes_of_isQuiet (quiet answer among)

theorem isLast_of_isQuiet {answer : BodyAnswer} (quiet : answer.isQuiet = true) (room : Room) :
    answer.isLast room = false := by
  cases answer with
  | pending | trailers _ => rfl
  | data _ | failed _ | finished => cases quiet

/-- An answer that is not the last leaves room, unless it gives nothing. -/
theorem short_of_not_last {answer : BodyAnswer} {size : Nat}
    (going : answer.isLast (some size) = false) :
    answer.isQuiet = true ∨ answer.bytes.length < size := by
  cases answer with
  | pending | trailers _ => exact .inl rfl
  | failed _ | finished => cases going
  | data chunk =>
      right
      change decide (size ≤ chunk.length) = false at going
      exact Nat.lt_of_not_le (of_decide_eq_false going)

end BodyAnswer

namespace Asked

variable {room : Room} {answers : List BodyAnswer} {isOver : Bool}

/-- The answer that ends a body is not a quiet one. -/
theorem exists_loud (asked : Asked room answers isOver) (ended : isOver = true) :
    ∃ answer ∈ answers, answer.isQuiet = false := by
  induction asked with
  | nil => cases ended
  | @last room answer ends =>
      refine ⟨answer, List.mem_singleton_self answer, ?_⟩
      cases quiet : answer.isQuiet with
      | false => rfl
      | true =>
          rw [answer.isLast_of_isQuiet quiet] at ends
          cases ends
  | cons going later ih =>
      obtain ⟨answer, among, loud⟩ := ih ended
      exact ⟨answer, List.mem_cons_of_mem _ among, loud⟩

/-- As long as a body goes on, its room is not filled, unless its producer gave nothing at all. -/
theorem unfilled (asked : Asked room answers isOver) (going : isOver = false) {size : Nat}
    (limit : room = some size) :
    (∀ answer ∈ answers, answer.isQuiet = true) ∨
      (answers.flatMap BodyAnswer.bytes).length < size := by
  induction asked generalizing size with
  | nil => exact .inl nofun
  | last => cases going
  | @cons room answer rest isOver open_end later ih =>
      subst limit
      have rest_fits : (∀ answer ∈ rest, answer.isQuiet = true) ∨
          (rest.flatMap BodyAnswer.bytes).length < size - answer.bytes.length := ih going rfl
      rw [List.flatMap_cons, List.length_append]
      rcases BodyAnswer.short_of_not_last open_end with quiet | short
      · rw [BodyAnswer.bytes_of_isQuiet quiet] at rest_fits ⊢
        rcases rest_fits with rest_quiet | rest_short
        · exact .inl (List.forall_mem_cons.mpr ⟨quiet, rest_quiet⟩)
        · right
          simpa using rest_short
      · right
        rcases rest_fits with rest_quiet | rest_short
        · rw [BodyAnswer.bytes_of_all_quiet rest_quiet]
          exact short
        · omega

/-- What was asked before the last answer did not end the body. -/
theorem before_last (asked : Asked room answers isOver) {before : List BodyAnswer}
    {last : BodyAnswer} (whole : answers = before ++ [last]) : Asked room before false := by
  induction asked generalizing before with
  | nil => cases before <;> cases whole
  | @last room answer ends =>
      cases before with
      | nil => exact .nil room
      | cons first between => cases between <;> cases whole
  | @cons room answer rest isOver going later ih =>
      cases before with
      | nil => exact .nil room
      | cons first between =>
          obtain ⟨rfl, behind⟩ := List.cons.inj whole
          exact .cons going (ih behind)

/-- A body that gave all that fits is over if anything fits, or if its producer gave anything. -/
theorem isOver_iff_of_spent {size : Nat} (asked : Asked (some size) answers isOver)
    (spent : size ≤ (answers.flatMap BodyAnswer.bytes).length) :
    isOver = true ↔ 0 < size ∨ ∃ answer ∈ answers, answer.isQuiet = false := by
  constructor
  · intro ended
    exact .inr (asked.exists_loud ended)
  · intro some_byte_or_loud
    cases isOver with
    | true => rfl
    | false =>
        rcases asked.unfilled rfl rfl with quiet | short
        · rw [BodyAnswer.bytes_of_all_quiet quiet] at spent
          rcases some_byte_or_loud with some_byte | ⟨answer, among, loud⟩
          · exact absurd some_byte spent.not_gt
          · rw [quiet answer among] at loud
            cases loud
        · exact absurd short spent.not_gt

/-- Of the ways in which a body ends, only a last chunk means that it gave all that fits. -/
theorem filled_iff {size : Nat} (asked : Asked (some size) answers true)
    {before : List BodyAnswer} {last : BodyAnswer} (whole : answers = before ++ [last]) :
    size ≤ (answers.flatMap BodyAnswer.bytes).length ↔
      (∃ chunk, last = .data chunk) ∨ size = 0 := by
  have ends := (asked.isLast_iff whole).mpr ⟨rfl, rfl⟩
  have unended : Asked (some size) before false := asked.before_last whole
  have total : answers.flatMap BodyAnswer.bytes =
      before.flatMap BodyAnswer.bytes ++ last.bytes := by
    rw [whole, List.flatMap_append, List.flatMap_singleton]
  rw [total, List.length_append]
  constructor
  · intro filled
    cases last with
    | pending | trailers _ => cases ends
    | data chunk => exact .inl ⟨chunk, rfl⟩
    | failed _ | finished =>
        right
        rcases unended.unfilled rfl rfl with quiet | short
        · rw [BodyAnswer.bytes_of_all_quiet quiet] at filled
          exact Nat.le_zero.mp filled
        · exact absurd short (Nat.not_lt.mpr filled)
  · rintro (⟨chunk, rfl⟩ | rfl)
    · have room : size - (before.flatMap BodyAnswer.bytes).length ≤ chunk.length :=
        of_decide_eq_true ends
      change size ≤ _ + chunk.length
      omega
    · exact Nat.zero_le _

end Asked

/-- What became of a body that has not been polled before. -/
theorem BodyRun.Meters.of_start {limit : Option Nat} {run : BodyRun}
    (meters : BodyRun.Meters (.ofDeclared limit) run) :
    Asked limit run.asked run.body.allowance.done ∧
      run.body.allowance.remaining =
        limit.map (· - (run.asked.flatMap BodyAnswer.bytes).length) ∧
      run.body.allowance.written =
        (Room.cut limit (run.asked.flatMap BodyAnswer.bytes)).length := by
  have asked := meters.asked
  have written := meters.written
  rw [Allowance.remaining_ofDeclared] at asked written
  change _ = 0 + _ at written
  rw [Nat.zero_add] at written
  refine ⟨asked, ?_, written⟩
  rw [Allowance.remaining, meters.declared, written]
  cases limit with
  | none => rfl
  | some length =>
      simp only [Allowance.ofDeclared, Option.map_some, Room.cut, List.length_take]
      congr 1
      omega

namespace MeteredBody

theorem ofProducer_meters (headers : Headers) (producer : Producer)
    (history : List BodyStimulus) :
    BodyRun.Meters (.ofDeclared headers.declaredLength.1)
      ((ofProducer headers producer).play history) :=
  play_meters (b := ofProducer headers producer) rfl history

theorem isOver_of_done {b : MeteredBody} (done : b.allowance.done = true) : b.isOver = true := by
  rw [isOver, done, Bool.true_or]

/-- A body that is closed: it has let go of its producer, and answers its end without asking. -/
structure Closed (b : MeteredBody) : Prop where
  done : b.allowance.done = true
  released : b.isReleased = true
  silent : b.poll = ⟨.finished, none, b⟩

/-- A body that holds on to its producer and asks it, and stays as it is while that is silent. -/
structure Waits (b : MeteredBody) : Prop where
  undone : b.allowance.done = false
  kept : b.isReleased = false
  asks : b.poll.asked = some b.producer.poll.1
  stays : b.producer.items = [] → b.producer.isOpen = true → b.poll = ⟨.pending, some .pending, b⟩

theorem closed_of_done {b : MeteredBody} (done : b.allowance.done = true)
    (released : b.isReleased = b.allowance.done) : b.Closed :=
  ⟨done, released.trans done, poll_of_over (isOver_of_done done)⟩

theorem waits_of_undone {b : MeteredBody} (undone : b.allowance.done = false)
    (released : b.isReleased = b.allowance.done) : b.Waits := by
  have kept : b.isReleased = false := released.trans undone
  have unfinished : b.isOver = false := by
    rw [isOver, undone, kept]
    rfl
  refine ⟨undone, kept, by rw [poll_of_unfinished unfinished], ?_⟩
  intro nothing going
  have silence : b.producer.poll = (.pending, b.producer) := by
    simp [Producer.poll, nothing, going]
  have same : b.allowance.spend .pending = b.allowance := by
    obtain ⟨⟨declared, written, done⟩, producer, isReleased⟩ := b
    obtain rfl : done = false := undone
    simp [Allowance.spend, BodyAnswer.bytes, BodyAnswer.isLast, Room.cut_nil]
  rw [poll_of_unfinished unfinished, silence, same]
  obtain ⟨allowance, producer, isReleased⟩ := b
  obtain rfl : isReleased = false := kept
  rfl

/-- A body whose declared bytes are all out is closed if there were any, or if its producer has
given a chunk or come to its end. Otherwise zero bytes were declared, and it waits. -/
theorem spent_body_closed_iff (head : RequestHead) (producer : Producer)
    (history : List BodyStimulus) (length : Nat)
    (declared : head.headers.declaredLength.1 = some length) :
    let run := (ofProducer head.headers producer).play history
    run.body.allowance.written = length →
      (run.body.Closed ↔ 0 < length ∨ ∃ answer ∈ run.asked, answer.isQuiet = false) ∧
      (¬run.body.Closed → run.body.Waits) := by
  intro run spent
  have meters : BodyRun.Meters (.ofDeclared head.headers.declaredLength.1) run :=
    ofProducer_meters head.headers producer history
  obtain ⟨asked, -, written⟩ := meters.of_start
  rw [declared] at asked written
  have consumed : length ≤ (run.asked.flatMap BodyAnswer.bytes).length := by
    have cut : (Room.cut (some length) (run.asked.flatMap BodyAnswer.bytes)).length = length :=
      written.symm.trans spent
    simp only [Room.cut, List.length_take] at cut
    omega
  rw [← asked.isOver_iff_of_spent consumed]
  constructor
  · constructor
    · intro closed
      exact closed.done
    · intro done
      exact closed_of_done done meters.released
  · intro unclosed
    apply waits_of_undone _ meters.released
    rw [Bool.eq_false_iff]
    intro done
    exact unclosed (closed_of_done done meters.released)

end MeteredBody

namespace Bench

/-- Three bytes are declared, and the producer goes on behind them. -/
theorem spent_body_closed_iff_filled :
    let run := (MeteredBody.ofProducer declaringHead.headers
      (.ofItems [.data [1, 2], .pending, .data [3, 4], .data [5]])).play [.poll, .poll, .poll]
    run.body.allowance.written = 3 ∧ run.body.Closed := by
  intro run
  have written : run.body.allowance.written = 3 := by decide +kernel
  exact ⟨written, (MeteredBody.spent_body_closed_iff declaringHead _ _ 3 (by decide +kernel)
    written).1.mpr (.inl (by decide))⟩

/-- A request that declares no bytes and gets none. -/
def zeroLengthRequest : Request :=
  ⟨⟨"PUT", "/", .http11, ⟨[("content-length", [0x30])]⟩⟩,
    .stream ⟨[], true, .fixed ⟨0, none⟩⟩, false⟩

/-- With zero bytes declared, all are out at once, and yet the body is not closed: it asks a
producer that has nothing, and is answered to wait. So on a connection that takes everything the
request is waiting thirty years later, and no timer has ever been started. -/
theorem zero_length_body_waits :
    let body := MeteredBody.ofProducer zeroLengthRequest.head.headers
      zeroLengthRequest.content.produce
    let run := Execution.life 1 zeroLengthRequest .standard .quiet
      (.granted (.ofTransport ⟨7⟩ Protocol.http11.text Wire.idle))
      [.poll .start, .poll (Instant.start.advance Instant.farAway)]
    zeroLengthRequest.head.headers.declaredLength.1 = some 0 ∧ body.allowance.written = 0 ∧
      body.allowance.done = false ∧ body.isReleased = false ∧ ¬body.Closed ∧
      body.poll = ⟨.pending, some .pending, body⟩ ∧
      run.1.stage.body? = some (body, false) ∧
      .timer .armWrite ∉ run.2 ∧ .timer .installRead ∉ run.2 := by
  intro body run
  have undone : body.allowance.done = false := by decide +kernel
  refine ⟨by decide +kernel, by decide +kernel, undone, by decide +kernel, ?_, by decide +kernel,
    by decide +kernel, by decide +kernel, by decide +kernel⟩
  intro closed
  rw [closed.done] at undone
  cases undone

end Bench

namespace MeteredBody

/-- Of a body that has ended nothing more comes. It still announces what the producer left of the
declared length, which is nothing exactly if the last chunk reached that length, if none was
declared, or if it was zero. -/
theorem ended_body_sizeHint (head : RequestHead) (producer : Producer)
    (history : List BodyStimulus) :
    let declared := head.headers.declaredLength.1
    let run := (ofProducer head.headers producer).play history
    let consumed := run.asked.flatMap BodyAnswer.bytes
    run.body.isEnd = true →
      (∀ later, (run.body.play later).answers.flatMap BodyAnswer.bytes = []) ∧
      run.body.sizeHint = .exactly ((declared.map (· - consumed.length)).getD 0) ∧
      (run.body.sizeHint = .exactly 0 ↔
        ∀ length, declared = some length → length ≤ consumed.length) ∧
      ∃ before last, run.asked = before ++ [last] ∧
        (run.body.sizeHint = .exactly 0 ↔
          (∃ chunk, last = .data chunk) ∨ ∀ length, declared = some length → length = 0) := by
  intro declared run consumed ended
  have meters : BodyRun.Meters (.ofDeclared declared) run :=
    ofProducer_meters head.headers producer history
  obtain ⟨asked, remaining, -⟩ := meters.of_start
  change run.body.allowance.done = true at ended
  have released : run.body.isReleased = true := meters.released.trans ended
  have hint : run.body.sizeHint = .exactly ((declared.map (· - consumed.length)).getD 0) := by
    rw [sizeHint, remaining, released]
    cases declared <;> rfl
  have hint_zero : run.body.sizeHint = .exactly 0 ↔
      ∀ length, declared = some length → length ≤ consumed.length := by
    rw [hint, SizeHint.exactly_inj]
    cases declared <;> simp [Nat.sub_eq_zero_iff_le]
  refine ⟨?_, hint, hint_zero, ?_⟩
  · intro later
    obtain ⟨idle, answers⟩ := (play_of_over (isOver_of_done ended) later).answers
    rw [answers]
    simp [BodyAnswer.bytes]
  · rw [ended] at asked
    obtain ⟨before, last, whole⟩ : ∃ before last, run.asked = before ++ [last] :=
      (List.eq_nil_or_concat' run.asked).resolve_left asked.ne_nil_of_over
    refine ⟨before, last, whole, ?_⟩
    rw [hint_zero]
    cases limit : declared with
    | none => simp
    | some length =>
        rw [limit] at asked
        simp only [Option.some.injEq, forall_eq']
        exact asked.filled_iff whole

end MeteredBody

namespace Bench

/-- Of three declared bytes the last is cut from a longer chunk. -/
theorem ended_body_sizeHint_filled :
    let run := (MeteredBody.ofProducer declaringHead.headers
      (.ofItems [.data [1, 2], .data [3, 4]])).play [.poll, .poll]
    run.body.isEnd = true ∧ run.body.sizeHint = .exactly 0 ∧
      (run.body.play [.poll, .feed [.data [5]] true, .poll]).answers.flatMap BodyAnswer.bytes =
        [] := by
  intro run
  have ended : run.body.isEnd = true := by decide +kernel
  obtain ⟨silent, hint, -⟩ :=
    MeteredBody.ended_body_sizeHint declaringHead (.ofItems [.data [1, 2], .data [3, 4]])
      [.poll, .poll] ended
  exact ⟨ended, hint.trans (by decide +kernel), silent _⟩

/-- A producer that ends one byte early, and one that fails there: the body is over, and goes on
announcing that byte. -/
theorem early_end_announces_rest :
    let short := (MeteredBody.ofProducer declaringHead.headers
      (.ofItems [.data [1, 2]])).play [.poll, .poll]
    let failing := (MeteredBody.ofProducer declaringHead.headers
      (.ofItems [.data [1, 2], .failed ⟨"disk gone", []⟩])).play [.poll, .poll]
    (short.body.isEnd = true ∧ short.body.poll.answer = .finished ∧
      short.body.sizeHint = .exactly 1) ∧
    (failing.body.isEnd = true ∧ failing.body.poll.answer = .finished ∧
      failing.body.sizeHint = .exactly 1) := by
  decide +kernel

end Bench

end HttpExchange
