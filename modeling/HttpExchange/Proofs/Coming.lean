import HttpExchange.Proofs.Metering

/-!
What a frame source has still to yield, if its producer gains no more items. A poll takes the first
of it. With each poll the source has ended, or waits, or has taken an item, so a poll for the head,
one for each item and one for the end bring all of it.
-/

namespace HttpExchange

namespace BodyAnswer

/-- The frame of an answer; an empty chunk has none. -/
def frame? : BodyAnswer → Option RequestFrame
  | data (byte :: bytes) => some (.data (byte :: bytes))
  | trailers fields => some (.trailers fields)
  | _ => none

/-- What a source yields last, when its body answers with its end or an error. -/
def ending? : BodyAnswer → Option FrameAnswer
  | failed error => some (.failed (.body error))
  | finished => some (.frame .finish)
  | _ => none

/-- What a source yields for an answer of its body. -/
def news (answer : BodyAnswer) : List FrameAnswer :=
  (answer.frame?.map .frame).toList ++ answer.ending?.toList

end BodyAnswer

namespace FrameAnswer

/-- What an answer yields; a delay and the silence behind the end yield nothing. -/
def news : FrameAnswer → List FrameAnswer
  | frame yielded => [.frame yielded]
  | failed failure => [.failed failure]
  | pending | finished => []

def payload : FrameAnswer → Bytes
  | frame yielded => yielded.payload
  | _ => []

end FrameAnswer

/-- Of a delay and of the end of all frames only the first is left out. -/
theorem unpended_news (answer : FrameAnswer) :
    [answer].filter (· ≠ .pending) =
      answer.news ++ if answer = .finished then [.finished] else [] := by
  cases answer <;> simp [FrameAnswer.news]

theorem unpended_payload (answers : List FrameAnswer) :
    (answers.filter (· ≠ .pending)).flatMap FrameAnswer.payload =
      answers.flatMap FrameAnswer.payload := by
  induction answers with
  | nil => rfl
  | cons answer rest ih =>
      cases answer with
      | pending => exact ih
      | frame _ | failed _ | finished => exact congrArg (_ ++ ·) ih

/-- What a producer has left to answer, delays included. -/
def Producer.script (p : Producer) : List BodyAnswer :=
  p.items.map BodyItem.answer ++ if p.isOpen then [] else [.finished]

/-- What an answer of a body yields before all that is behind it, if anything can be. -/
def BodyAnswer.before (behind : List FrameAnswer) (answer : BodyAnswer) : List FrameAnswer :=
  answer.news ++ if answer.ending?.isSome then [] else behind

/-- What a source yields for a body with this much room if the producer answers this. -/
def comingOf (room : Room) : List BodyAnswer → List FrameAnswer
  | [] => []
  | answer :: rest =>
    (answer.within room).before
      (if answer.isLast room then [.frame .finish] else comingOf (room.after answer.bytes) rest)

/-- Delays of the producer make no difference. -/
theorem comingOf_heard (room : Room) (answers : List BodyAnswer) :
    comingOf room (heard answers) = comingOf room answers := by
  induction answers generalizing room with
  | nil => rfl
  | cons answer rest ih =>
      by_cases delay : answer = .pending
      · subst delay
        refine (ih room).trans ?_
        simp [comingOf, BodyAnswer.within, BodyAnswer.before, BodyAnswer.news, BodyAnswer.frame?,
          BodyAnswer.ending?, BodyAnswer.isLast, BodyAnswer.bytes, Room.after_nil]
      · rw [heard, List.filter_cons_of_pos (by simpa using delay)]
        exact congrArg (fun behind => (answer.within room).before
          (if answer.isLast room then [.frame .finish] else behind)) (ih _)

/-- A producer's next answer comes before those behind it. -/
theorem comingOf_script (room : Room) (p : Producer) :
    comingOf room p.script = (p.poll.1.within room).before
      (if p.poll.1.isLast room then [.frame .finish]
        else comingOf (room.after p.poll.1.bytes) p.poll.2.script) := by
  obtain ⟨items, isOpen, sizeRule⟩ := p
  cases items with
  | cons item rest => rfl
  | nil =>
      cases isOpen with
      | false => rfl
      | true =>
          simp [Producer.script, Producer.poll, comingOf, BodyAnswer.before, BodyAnswer.within,
            BodyAnswer.news, BodyAnswer.frame?, BodyAnswer.ending?, BodyAnswer.isLast]

/-- What a source yields for a body from now on, if the producer gains no more items. -/
def MeteredBody.coming (b : MeteredBody) : List FrameAnswer :=
  if b.isOver then [.frame .finish] else comingOf b.allowance.remaining b.producer.script

theorem MeteredBody.poll_coming (b : MeteredBody) :
    b.coming = b.poll.answer.before b.poll.body.coming := by
  cases ended : b.isOver with
  | true =>
      rw [poll_of_over ended]
      simp [coming, ended, BodyAnswer.before, BodyAnswer.news, BodyAnswer.frame?,
        BodyAnswer.ending?]
  | false =>
      rw [poll_of_unfinished ended]
      simp only [coming, ended, isOver_spend, Allowance.spend_remaining, Bool.false_eq_true,
        ↓reduceIte]
      exact comingOf_script _ _

namespace FrameSource

/-- What a source yields from now on, if its producer gains no more items. -/
def coming (s : FrameSource) : List FrameAnswer :=
  match s.phase with
  | .head head => .frame (.head head) :: s.body.coming
  | .body => s.body.coming
  | .done => []

theorem pollBody_coming (b : MeteredBody) :
    b.coming = (pollBody b).answer.news ++ (pollBody b).source.coming := by
  fun_induction pollBody b with
  | case2 b answered later ih =>
      rw [b.poll_coming, answered]
      exact ih
  | case1 b answered | case3 b _ _ answered | case4 b _ answered | case5 b _ answered
  | case6 b answered =>
      rw [b.poll_coming, answered]
      rfl

/-- A poll yields what comes next. -/
theorem poll_coming (s : FrameSource) :
    s.coming = s.poll.answer.news ++ s.poll.source.coming := by
  unfold poll
  cases phase : s.phase with
  | head head =>
      simp only [coming, phase]
      rfl
  | body =>
      simp only [coming, phase]
      exact pollBody_coming s.body
  | done =>
      simp only [coming, phase]
      rfl

end FrameSource

/-- What a source answered, and the source afterwards. -/
structure FrameRun where
  answers : List FrameAnswer
  source : FrameSource
  deriving DecidableEq, Repr

namespace FrameRun

/-- What was yielded, in order. -/
def news (run : FrameRun) : List FrameAnswer := run.answers.flatMap FrameAnswer.news

end FrameRun

/-- Some polls of a body, one after the other. -/
def MeteredBody.polls (b : MeteredBody) (count : Nat) : BodyRun :=
  b.play (List.replicate count .poll)

namespace FrameSource

def polls (s : FrameSource) : Nat → FrameRun
  | 0 => ⟨[], s⟩
  | count + 1 =>
    let before := s.polls count
    ⟨before.answers ++ [before.source.poll.answer], before.source.poll.source⟩

/-- What was yielded and what is still to come is what was to come at first. -/
theorem polls_coming (s : FrameSource) (count : Nat) :
    s.coming = (s.polls count).news ++ (s.polls count).source.coming := by
  induction count with
  | zero => rfl
  | succ count ih =>
      rw [ih, poll_coming]
      simp [polls, FrameRun.news]

end FrameSource

/-- A producer that is asked becomes another: only items it began with are left, and it is still
as open as it was. -/
structure Producer.Leads (p q : Producer) : Prop where
  items : q.items <:+ p.items
  isOpen : q.isOpen = p.isOpen

theorem Producer.Leads.refl (p : Producer) : p.Leads p := ⟨List.suffix_rfl, rfl⟩

theorem Producer.Leads.trans {p q r : Producer} (first : p.Leads q) (second : q.Leads r) :
    p.Leads r :=
  ⟨second.items.trans first.items, second.isOpen.trans first.isOpen⟩

theorem Producer.poll_leads (p : Producer) : p.Leads p.poll.2 := by
  unfold poll
  split
  · exact .refl p
  · rename_i item rest items
    exact ⟨items ▸ List.suffix_cons item rest, rfl⟩

theorem MeteredBody.poll_leads (b : MeteredBody) : b.producer.Leads b.poll.body.producer := by
  unfold poll
  split
  · exact .refl _
  · dsimp only
    rw [pass_producer]
    exact b.producer.poll_leads

namespace FrameSource

theorem pollBody_leads (b : MeteredBody) :
    b.poll.body.producer.Leads (pollBody b).source.body.producer := by
  fun_induction pollBody b with
  | case2 b answered later ih => exact b.poll.body.poll_leads.trans ih
  | case1 | case3 | case4 | case5 | case6 => exact .refl _

theorem poll_leads (s : FrameSource) : s.body.producer.Leads s.poll.source.body.producer := by
  unfold poll
  cases s.phase with
  | head head => exact .refl _
  | body => exact s.body.poll_leads.trans (pollBody_leads s.body)
  | done => exact .refl _

theorem polls_leads (s : FrameSource) (count : Nat) :
    s.body.producer.Leads (s.polls count).source.body.producer := by
  induction count with
  | zero => exact .refl _
  | succ count ih => exact ih.trans (s.polls count).source.poll_leads

/-- The producer has nothing more to answer, and did not end. -/
structure Waits (s : FrameSource) : Prop where
  phase : s.phase = .body
  unfinished : s.body.isOver = false
  items : s.body.producer.items = []
  isOpen : s.body.producer.isOpen = true

theorem Waits.poll {s : FrameSource} (waits : s.Waits) : s.poll.source = s := by
  have nothing : s.body.producer.poll = (.pending, s.body.producer) := by
    simp [Producer.poll, waits.items, waits.isOpen]
  have polled := (poll_of_unfed waits.phase waits.unfinished).2 (by rw [nothing])
  rw [polled, nothing]

theorem Waits.coming {s : FrameSource} (waits : s.Waits) : s.coming = [] := by
  simp [FrameSource.coming, waits.phase, MeteredBody.coming, waits.unfinished, Producer.script,
    waits.items, waits.isOpen, comingOf]

/-- A body that has come to its end, or comes to it next, ends the frames. -/
theorem pollBody_of_finished {b : MeteredBody} (finished : b.poll.answer = .finished) :
    (pollBody b).source.phase = .done := by
  rw [pollBody]
  split
  case h_5 | h_6 => rfl
  all_goals
    rename_i answered
    rw [finished] at answered
    cases answered

/-- A poll ends the frames or takes an item, unless the producer has nothing more to answer. -/
theorem poll_progress {s : FrameSource} (phase : s.phase = .body) :
    s.poll.source.phase = .done ∨
      s.poll.source.body.producer.items.length < s.body.producer.items.length ∨ s.Waits := by
  have polled : s.poll = pollBody s.body := by
    rw [poll, phase]
  rw [polled]
  cases ended : s.body.isOver with
  | true => exact .inl (pollBody_of_finished (by rw [MeteredBody.poll_of_over ended]))
  | false =>
      have asked := MeteredBody.poll_of_unfinished ended
      by_cases fed : s.body.producer.items = []
      · cases isOpen : s.body.producer.isOpen with
        | true => exact .inr (.inr ⟨phase, ended, fed, isOpen⟩)
        | false =>
            have nothing : s.body.producer.poll.1 = .finished := by
              simp [Producer.poll, fed, isOpen]
            refine .inl (pollBody_of_finished ?_)
            rw [asked, nothing]
            rfl
      · refine .inr (.inl ((pollBody_leads s.body).items.length_le.trans_lt ?_))
        rw [asked]
        exact Producer.poll_shorter fed

/-- Behind the head, a source has ended or waits, or has taken an item with each poll. -/
theorem polls_progress (head : RequestHead) (b : MeteredBody) (count : Nat) :
    let source := ((ofBody head b).polls (count + 1)).source
    source.phase = .done ∨ source.Waits ∨ source.phase = .body ∧
      source.body.producer.items.length + count ≤ b.producer.items.length := by
  induction count with
  | zero => exact .inr (.inr ⟨rfl, Nat.le_refl _⟩)
  | succ count ih =>
      generalize reached : ((ofBody head b).polls (count + 1)).source = before at ih
      have next : ((ofBody head b).polls (count + 1 + 1)).source = before.poll.source := by
        rw [polls, reached]
      rw [next]
      rcases ih with done | waits | ⟨phase, taken⟩
      · exact .inl (by rw [poll_of_done done]; exact done)
      · exact .inr (.inl (by rw [waits.poll]; exact waits))
      · have behind_head := before.poll_isAtHead
        rcases poll_progress phase with done | shorter | waits
        · exact .inl done
        · cases later : before.poll.source.phase with
          | head head => simp [isAtHead, later] at behind_head
          | body => exact .inr (.inr ⟨later, by omega⟩)
          | done => exact .inl later
        · exact .inr (.inl (by rw [waits.poll]; exact waits))

/-- After one poll for the head, one for each item and one for the end, all has been yielded. -/
theorem polls_news_of_enough (head : RequestHead) {b : MeteredBody} {count : Nat}
    (enough : b.producer.items.length < count) :
    ((ofBody head b).polls (count + 1)).news = (ofBody head b).coming := by
  have nothing_left : ((ofBody head b).polls (count + 1)).source.coming = [] := by
    rcases polls_progress head b count with done | waits | ⟨-, taken⟩
    · simp [coming, done]
    · exact waits.coming
    · omega
  rw [polls_coming (ofBody head b) (count + 1), nothing_left, List.append_nil]

end FrameSource

end HttpExchange
