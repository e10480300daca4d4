import HttpExchange.Proofs.Coming

/-!
What a frame source yields over any number of polls. It polls its body as often as it takes, and
yields the head, the frames of what the body forwards, and then the end marker or the body's
error, once. How often the body had nothing yet makes no difference to that sequence, only to when
it is yielded.
-/

namespace HttpExchange

theorem MeteredBody.play_append (b : MeteredBody) (first second : List BodyStimulus) :
    b.play (first ++ second) =
      let before := b.play first
      let later := before.body.play second
      ⟨before.answers ++ later.answers, before.asked ++ later.asked, later.body⟩ := by
  induction first generalizing b with
  | nil => rfl
  | cons stimulus rest ih =>
      cases stimulus with
      | feed items close => exact ih (b.feed items close)
      | poll => simp only [List.cons_append, play, ih, List.append_assoc]

theorem MeteredBody.polls_add (b : MeteredBody) (first second : Nat) :
    (b.polls (first + second)).answers =
        (b.polls first).answers ++ ((b.polls first).body.polls second).answers ∧
      (b.polls (first + second)).body = ((b.polls first).body.polls second).body := by
  rw [polls, List.replicate_add, play_append]
  exact ⟨rfl, rfl⟩

/-- The frames of what a body forwarded. -/
def BodyRun.frames (run : BodyRun) : List RequestFrame := run.answers.filterMap BodyAnswer.frame?

/-- How a body ended: at most once as long as it is not polled behind its end. -/
def BodyRun.endings (run : BodyRun) : List FrameAnswer := run.answers.filterMap BodyAnswer.ending?

theorem BodyRun.payload_eq (run : BodyRun) :
    (run.frames.map FrameAnswer.frame ++ run.endings).flatMap FrameAnswer.payload =
      run.answers.flatMap BodyAnswer.bytes := by
  have none_ending : run.endings.flatMap FrameAnswer.payload = [] := by
    rw [List.flatMap_eq_nil_iff]
    intro ending among
    obtain ⟨answer, -, ends⟩ := List.mem_filterMap.mp among
    cases answer <;> cases ends <;> rfl
  rw [List.flatMap_append, none_ending, List.append_nil, frames]
  induction run.answers with
  | nil => rfl
  | cons answer rest ih =>
      rw [List.flatMap_cons, ← ih]
      match answer with
      | .data [] | .pending | .failed _ | .finished | .trailers _ => rfl
      | .data (byte :: bytes) => rfl

/-- What a source passes on as content is not empty. -/
theorem BodyRun.of_mem_frames {run : BodyRun} {frame : RequestFrame} (among : frame ∈ run.frames) :
    frame.payload ≠ [] ∨ ∃ fields, frame = .trailers fields := by
  obtain ⟨answer, -, framed⟩ := List.mem_filterMap.mp among
  match answer with
  | .data [] | .pending | .failed _ | .finished => cases framed
  | .data (byte :: bytes) =>
      cases framed
      exact .inl (List.cons_ne_nil byte bytes)
  | .trailers fields =>
      cases framed
      exact .inr ⟨fields, rfl⟩

theorem BodyRun.of_mem_endings {run : BodyRun} {ending : FrameAnswer}
    (among : ending ∈ run.endings) :
    ending = .frame .finish ∨ ∃ error, ending = .failed (.body error) := by
  obtain ⟨answer, -, ends⟩ := List.mem_filterMap.mp among
  cases answer with
  | pending | data _ | trailers _ => cases ends
  | failed error =>
      cases ends
      exact .inr ⟨error, rfl⟩
  | finished =>
      cases ends
      exact .inl rfl

namespace FrameSource

/-- A source polls its body up to an answer that it has something to yield for, or that is a
delay. It yields this, and is done if that was the body's last. -/
theorem pollBody_polls (b : MeteredBody) :
    ∃ count, (pollBody b).source.body = (b.polls count).body ∧
      (b.polls count).frames.map .frame ++ (b.polls count).endings = (pollBody b).answer.news ∧
      (b.polls count).endings.length ≤ 1 ∧
      (pollBody b).source.phase = (if (b.polls count).endings = [] then .body else .done) ∧
      (pollBody b).answer ≠ .finished := by
  fun_induction pollBody b with
  | case2 b answered later ih =>
      obtain ⟨count, body, news, single, phase, going⟩ := ih
      have answers : (b.polls (count + 1)).answers =
          .data [] :: (b.poll.body.polls count).answers := congrArg₂ List.cons answered rfl
      have frames : (b.polls (count + 1)).frames = (b.poll.body.polls count).frames := by
        rw [BodyRun.frames, answers]
        rfl
      have endings : (b.polls (count + 1)).endings = (b.poll.body.polls count).endings := by
        rw [BodyRun.endings, answers]
        rfl
      refine ⟨count + 1, body, ?_⟩
      rw [frames, endings]
      exact ⟨news, single, phase, going⟩
  | case1 b answered | case3 b _ _ answered | case4 b _ answered | case5 b _ answered
  | case6 b answered =>
      have answers : (b.polls 1).answers = [_] := congrArg (fun answer => [answer]) answered
      refine ⟨1, rfl, ?_⟩
      rw [BodyRun.frames, BodyRun.endings, answers]
      exact ⟨rfl, List.length_filterMap_le _ _, rfl, by rintro ⟨⟩⟩

end FrameSource

/-- Where a source has come that began with this head and body: it polled its body `asked` times,
and was itself polled `idle` times behind its end. -/
structure FrameRun.Follows (head : RequestHead) (b : MeteredBody) (run : FrameRun)
    (asked idle : Nat) : Prop where
  body : run.source.body = (b.polls asked).body
  answers : run.answers.filter (· ≠ .pending) =
    .frame (.head head) :: ((b.polls asked).frames.map .frame ++ (b.polls asked).endings) ++
      List.replicate idle .finished
  single : (b.polls asked).endings.length ≤ 1
  phase : run.source.phase = if (b.polls asked).endings = [] then .body else .done
  idle : (b.polls asked).endings = [] → idle = 0

namespace FrameRun.Follows

variable {head : RequestHead} {b : MeteredBody} {run : FrameRun} {asked idle : Nat}

theorem isFinished_iff (h : Follows head b run asked idle) :
    run.source.isFinished = true ↔ (b.polls asked).endings ≠ [] := by
  rw [FrameSource.isFinished, h.phase]
  split <;> simpa

theorem payload (h : Follows head b run asked idle) :
    run.answers.flatMap FrameAnswer.payload = (b.polls asked).answers.flatMap BodyAnswer.bytes := by
  rw [← unpended_payload, h.answers, ← BodyRun.payload_eq]
  simp [FrameAnswer.payload, RequestFrame.payload]

/-- The body is polled on as long as it has not ended. -/
theorem next_of_open (h : Follows head b run asked idle) (going : (b.polls asked).endings = []) :
    ∃ more, Follows head b ⟨run.answers ++ [run.source.poll.answer], run.source.poll.source⟩
      (asked + more) 0 := by
  have phase := h.phase
  rw [if_pos going] at phase
  have polled : run.source.poll = FrameSource.pollBody (b.polls asked).body := by
    rw [FrameSource.poll, phase, h.body]
  obtain ⟨more, body, news, single, done, unfinished⟩ :=
    FrameSource.pollBody_polls (b.polls asked).body
  obtain ⟨answers, all⟩ := b.polls_add asked more
  have frames : (b.polls (asked + more)).frames =
      (b.polls asked).frames ++ ((b.polls asked).body.polls more).frames := by
    rw [BodyRun.frames, answers, List.filterMap_append]
    rfl
  have endings : (b.polls (asked + more)).endings = ((b.polls asked).body.polls more).endings := by
    rw [BodyRun.endings, answers, List.filterMap_append]
    exact congrArg (· ++ _) going
  refine ⟨more, ?_⟩
  rw [polled]
  refine ⟨body.trans all.symm, ?_, by rw [endings]; exact single, by rw [endings]; exact done,
    fun _ => rfl⟩
  rw [List.filter_append, h.answers, h.idle going, going, unpended_news, if_neg unfinished, ← news,
    frames, endings]
  simp

/-- Behind its end a source answers nothing else. -/
theorem next_of_over (h : Follows head b run asked idle) (ended : (b.polls asked).endings ≠ []) :
    Follows head b ⟨run.answers ++ [run.source.poll.answer], run.source.poll.source⟩
      asked (idle + 1) := by
  have phase := h.phase
  rw [if_neg ended] at phase
  rw [FrameSource.poll_of_done phase]
  refine ⟨h.body, ?_, h.single, h.phase, fun none_ended => absurd none_ended ended⟩
  rw [List.filter_append, h.answers, List.replicate_succ', ← List.append_assoc]
  rfl

end FrameRun.Follows

namespace FrameSource

theorem polls_follows (head : RequestHead) (b : MeteredBody) (count : Nat) :
    ∃ asked idle, ((ofBody head b).polls (count + 1)).Follows head b asked idle := by
  induction count with
  | zero => exact ⟨0, 0, rfl, rfl, Nat.zero_le _, rfl, fun _ => rfl⟩
  | succ count ih =>
      obtain ⟨asked, idle, follows⟩ := ih
      by_cases going : (b.polls asked).endings = []
      · obtain ⟨more, next⟩ := follows.next_of_open going
        exact ⟨asked + more, 0, next⟩
      · exact ⟨asked, idle + 1, follows.next_of_over going⟩

/-- One poll asks the producer for no more than it has, and once for its end. -/
theorem poll_asked_length_le (s : FrameSource) :
    s.poll.asked.length ≤ s.body.producer.items.length + 1 := by
  have one (b : MeteredBody) : b.poll.asked.toList.length ≤ 1 := by
    cases b.poll.asked <;> simp
  have body_asked (b : MeteredBody) :
      (pollBody b).asked.length ≤ b.producer.items.length + 1 := by
    fun_induction pollBody b with
    | case2 b answered later ih =>
        have taken := MeteredBody.poll_shorter (b := b) (by simp [answered]) (by simp [answered])
        have first := one b
        change (b.poll.asked.toList ++ (pollBody b.poll.body).asked).length ≤ _
        rw [List.length_append]
        omega
    | case1 b | case3 b | case4 b | case5 b | case6 b =>
        have first := one b
        dsimp only
        omega
  unfold poll
  cases s.phase with
  | head head => exact Nat.zero_le _
  | body => exact body_asked s.body
  | done => exact Nat.zero_le _

end FrameSource

/-- The same producer without its delays. -/
def Producer.prompt (p : Producer) : Producer := { p with items := solidItems p.items }

theorem Producer.prompt_script (p : Producer) : p.prompt.script = heard p.script := by
  have delays (item : BodyItem) : item ≠ .pending ↔ item.answer ≠ .pending := by
    cases item <;> simp [BodyItem.answer]
  unfold script heard prompt solidItems
  rw [List.filter_append, List.filter_map]
  congr 1
  · exact congrArg _ (List.filter_congr fun item _ => decide_eq_decide.mpr (delays item))
  · dsimp only
    split <;> rfl

/-- Delays of the producer change nothing in what is to come. -/
theorem FrameSource.prompt_coming (head : RequestHead) (headers : Headers) (p : Producer) :
    (ofBody head (.ofProducer headers p.prompt)).coming =
      (ofBody head (.ofProducer headers p)).coming := by
  refine congrArg (_ :: ·) ?_
  change comingOf _ p.prompt.script = comingOf _ p.script
  rw [p.prompt_script, comingOf_heard]
  rfl

namespace FrameSource

/-- Whatever its body forwards, a source yields the head, the frames of that in order, and then
the end marker or the body's error, once, with which it is finished. A producer with an end gets
it there, each poll asks the producer for no more than it has, and without the delays the same
is yielded. -/
theorem yields_what_body_forwards (head : RequestHead) (producer : Producer) (count : Nat) :
    let body := MeteredBody.ofProducer head.headers producer
    let run := (ofBody head body).polls (count + 1)
    (ofBody head body).isFinished = false ∧
    (∃ asked idle,
      let forwarded := body.polls asked
      run.source.body = forwarded.body ∧
      run.answers.filter (· ≠ .pending) =
        .frame (.head head) :: (forwarded.frames.map .frame ++ forwarded.endings) ++
          List.replicate idle .finished ∧
      (∀ frame ∈ forwarded.frames, frame.payload ≠ [] ∨ ∃ fields, frame = .trailers fields) ∧
      forwarded.endings.length ≤ 1 ∧
      (∀ ending ∈ forwarded.endings,
        ending = .frame .finish ∨ ∃ error, ending = .failed (.body error)) ∧
      (run.source.isFinished = true ↔ forwarded.endings ≠ []) ∧
      (forwarded.endings = [] → idle = 0) ∧
      run.answers.flatMap FrameAnswer.payload = forwarded.answers.flatMap BodyAnswer.bytes) ∧
    (run.source.isFinished = true → run.source.poll = ⟨.finished, [], run.source⟩) ∧
    run.source.poll.asked.length ≤ producer.items.length + 1 ∧
    (producer.isOpen = false → producer.items.length < count → run.source.isFinished = true) ∧
    ∀ enough, producer.items.length < enough →
      let prompt := (ofBody head (.ofProducer head.headers producer.prompt)).polls (enough + 1)
      run.news <+: prompt.news ∧ (producer.items.length < count → run.news = prompt.news) := by
  intro body run
  have leads : producer.Leads run.source.body.producer := (ofBody head body).polls_leads (count + 1)
  refine ⟨rfl, ?_, ?_, ?_, ?_, ?_⟩
  · obtain ⟨asked, idle, follows⟩ := polls_follows head body count
    exact ⟨asked, idle, follows.body, follows.answers, fun _ => BodyRun.of_mem_frames,
      follows.single, fun _ => BodyRun.of_mem_endings, follows.isFinished_iff, follows.idle,
      follows.payload⟩
  · intro finished
    exact poll_of_done (by simpa [isFinished] using finished)
  · exact run.source.poll_asked_length_le.trans (Nat.succ_le_succ leads.items.length_le)
  · intro closed enough
    rcases polls_progress head body count with done | waits | ⟨-, taken⟩
    · simpa [isFinished] using done
    · have stays_open := leads.isOpen.symm.trans waits.isOpen
      rw [closed] at stays_open
      cases stays_open
    · change _ ≤ producer.items.length at taken
      omega
  · intro enough far prompt
    have fewer : producer.prompt.items.length < enough :=
      Nat.lt_of_le_of_lt (List.length_filter_le _ _) far
    have all : prompt.news = (ofBody head body).coming :=
      (polls_news_of_enough head fewer).trans (prompt_coming head head.headers producer)
    rw [all]
    exact ⟨⟨_, ((ofBody head body).polls_coming (count + 1)).symm⟩,
      fun near => polls_news_of_enough head (b := body) near⟩

end FrameSource

namespace Bench

/-- A producer with delays before and between its items, an empty chunk, trailers, and more data
than the head declares. -/
theorem yields_what_body_forwards_delayed :
    let producer := Producer.ofItems
      [.pending, .data [], .data [1], .pending, .trailers .empty, .data [2, 3, 4]]
    let run := ((FrameSource.ofBody declaringHead
      (.ofProducer declaringHead.headers producer)).polls 8)
    let prompt := (FrameSource.ofBody declaringHead
      (.ofProducer declaringHead.headers producer.prompt)).polls 8
    run.answers = [.frame (.head declaringHead), .pending, .frame (.data [1]), .pending,
        .frame (.trailers .empty), .frame (.data [2, 3]), .frame .finish, .finished] ∧
      run.source.isFinished = true ∧ run.source.poll = ⟨.finished, [], run.source⟩ ∧
      run.news = prompt.news := by
  intro producer run prompt
  obtain ⟨-, -, behind_end, -, ends, promptly⟩ :=
    FrameSource.yields_what_body_forwards declaringHead producer 7
  have finished := ends rfl (by decide)
  exact ⟨by decide +kernel, finished, behind_end finished, (promptly 7 (by decide)).2 (by decide)⟩

end Bench

end HttpExchange
