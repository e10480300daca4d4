import HttpExchange.Body.Allowance
import HttpExchange.Body.Length
import HttpExchange.Body.Producer

/-!
A producer behind an allowance. Each poll asks the producer for one item and lets no
more than the declared length through. The producer is let go of when the length is
reached, when it fails and when it ends, and is not asked again.
-/

namespace HttpExchange

structure MeteredBody where
  allowance : Allowance
  producer : Producer
  isReleased : Bool
  deriving DecidableEq, Repr

/-- One poll: the answer, what the producer answered if it was asked, and the body
afterwards. -/
structure MeteredPoll where
  answer : BodyAnswer
  asked : Option BodyAnswer
  body : MeteredBody
  deriving DecidableEq, Repr

namespace MeteredBody

def ofProducer (headers : Headers) (producer : Producer) : MeteredBody :=
  ⟨.ofDeclared headers.declaredLength.1, producer, false⟩

/-- Passes on what the producer answered, and lets go of the producer if that was its
last answer. -/
def pass (b : MeteredBody) : BodyAnswer → BodyAnswer × MeteredBody
  | .pending => (.pending, b)
  | .trailers fields => (.trailers fields, b)
  | .data chunk =>
    match b.allowance.accept chunk with
    | (some admitted, allowance) =>
      (.data admitted.chunk, { b with allowance := allowance, isReleased := admitted.reached })
    | (none, allowance) => (.finished, { b with allowance := allowance })
  | .failed error =>
    match b.allowance.close with
    | (true, allowance) => (.failed error, { b with allowance := allowance, isReleased := true })
    | (false, allowance) => (.finished, { b with allowance := allowance, isReleased := true })
  | .finished => (.finished, { b with allowance := b.allowance.close.2, isReleased := true })

def poll (b : MeteredBody) : MeteredPoll :=
  if b.allowance.done || b.isReleased then ⟨.finished, none, b⟩
  else
    let asked := b.producer.poll
    let passed := pass { b with producer := asked.2 } asked.1
    ⟨passed.1, some asked.1, passed.2⟩

/-- No further byte will come. -/
def isEnd (b : MeteredBody) : Bool := b.allowance.done

def sizeHint (b : MeteredBody) : SizeHint :=
  match b.allowance.remaining with
  | some n => .exactly n
  | none => if b.isReleased then .exactly 0 else b.producer.sizeHint

theorem pass_producer (b : MeteredBody) (answer : BodyAnswer) :
    (b.pass answer).2.producer = b.producer := by
  unfold pass
  split <;> try rfl
  all_goals split <;> rfl

/-- What is passed on as data or trailers comes from an item of the producer. -/
theorem busy_of_pass {b : MeteredBody} {answer : BodyAnswer}
    (busy : (b.pass answer).1 ≠ .pending) (going : (b.pass answer).1 ≠ .finished) :
    answer ≠ .pending ∧ answer ≠ .finished := by
  constructor <;> rintro rfl <;> simp [pass] at busy going

/-- A poll that yields something takes an item from the producer. -/
theorem poll_shorter {b : MeteredBody} (busy : b.poll.answer ≠ .pending)
    (going : b.poll.answer ≠ .finished) :
    b.poll.body.producer.items.length < b.producer.items.length := by
  unfold poll at busy going ⊢
  by_cases held : (b.allowance.done || b.isReleased) = true
  · simp [held] at going
  · rw [if_neg held] at busy going ⊢
    obtain ⟨asked, more⟩ := busy_of_pass busy going
    simpa [pass_producer] using
      Producer.poll_shorter (Producer.items_ne_nil_of_poll asked more)

end MeteredBody

end HttpExchange
