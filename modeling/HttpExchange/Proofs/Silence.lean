import HttpExchange.Proofs.Contract
import HttpExchange.Proofs.Listening
import HttpExchange.Proofs.Repetition

/-!
What the read timer measures over the life of an execution: how long the response is silent. It
runs exactly while the response is read, if it is configured, and is due as the polls so far say;
and an execution whose exchange ends with a read timeout ends in a poll in which it was due, and
nothing else was.
-/

namespace HttpExchange

open Trace

variable {σ : Type}

namespace Trace

variable {before behind actions : List Action}

/-- What is done beside a poll does not matter to it. -/
theorem ReadExpires.beside {p : Pipeline} {timeouts : Timeouts}
    {polls : List (Instant × List Action)} {now : Instant} {failure : Failure}
    (h : ReadExpires p timeouts polls now actions failure)
    (first : Only Action.isBeside before) (last : Only Action.isBeside behind) :
    ReadExpires p timeouts polls now (before ++ (actions ++ behind)) failure where
  cause := h.cause
  due := h.due
  unaborted := by
    have none_taken {trace : List Action} (only : Only Action.isBeside trace) :
        aborts trace = [] :=
      only.filterMap_eq_nil fun action h => by cases action <;> first | rfl | cases h
    rw [aborts_append, aborts_append, none_taken first, none_taken last, h.unaborted]
    rfl
  alone := by
    rw [failures_append, failures_append, first.failures_of_beside, last.failures_of_beside,
      h.alone]
    rfl
  unended := by
    intro member
    rcases List.mem_append.mp member with early | later
    · cases first _ early
    · exact (List.mem_append.mp later).elim h.unended fun late => by cases last _ late
  moving := h.moving

end Trace

/-- Where an exchange stands, its read timer is due as the polls say. Before, none of them read. -/
def Stage.Listens (timeouts : Timeouts) (polls : List (Instant × List Action)) : Stage σ → Prop
  | created | acquiring => Unasked polls
  | exchanging x _ => x.Listens timeouts polls
  | _ => True

theorem Stage.Listens.alike {timeouts : Timeouts} {polls : List (Instant × List Action)}
    {stage other : Stage σ} (h : stage.Listens timeouts polls) (alike : stage.Alike other) :
    other.Listens timeouts polls := by
  cases alike with
  | exchanging x lease other body =>
      cases h with
      | silent off unread undone unasked => exact .silent off unread undone unasked
      | reads on asked due => exact .reads on asked due
  | _ => exact h

theorem Stage.listens_of_remains {timeouts : Timeouts} {polls : List (Instant × List Action)}
    {stage : Stage σ} {body : Option MeteredBody} (remains : stage.remains = some body) :
    stage.Listens timeouts polls := by
  cases stage with
  | closing _ _ _ | gone _ _ => trivial
  | _ => cases remains

theorem Stage.Listens.unasked {timeouts : Timeouts} {polls : List (Instant × List Action)}
    {stage : Stage σ} (h : stage.Listens timeouts polls) (isWaiting : stage.isWaiting = true) :
    Unasked polls := by
  cases stage with
  | created | acquiring => exact h
  | _ => cases isWaiting

namespace Execution

variable [Transport σ] {timeouts : Timeouts} {polls : List (Instant × List Action)}

/-- A poll of an exchange that goes on leaves its read timer due as the polls say. -/
theorem pollExchange_listens (e : Execution σ) {x : Exchange} {lease : Lease σ}
    {connection : Connection σ} (held : lease.connection = some connection)
    (serves : x.idle.Serves timeouts) (unneeded : x.Unneeded) {now : Instant}
    (stands : x.Listens timeouts polls ∨ x.Resumes timeouts polls now) {opening : List Action}
    (opened : Only Action.isBeside opening) :
    (e.pollExchange x lease now).1.stage.Listens timeouts
      (polls ++ [(now, opening ++ (e.pollExchange x lease now).2)]) := by
  have completes := x.poll_completes lease e.handler e.completion now
  have driven := e.pollExchange_drives x lease now
  generalize e.pollExchange x lease now = run at driven ⊢
  cases driven with
  | goesOn turn =>
      have completes := completes.resolve_right fun ended => ended.1 turn
      change Exchange.Listens timeouts _ (x.poll lease e.handler e.completion now).exchange
      rw [completes.exchange_of_pending turn]
      have alike := alike_beside opened only_nil (x.poll lease e.handler e.completion now).actions
      rw [List.append_nil] at alike
      exact completes.listens held serves unneeded stands alike
  | ends outcome turn => exact Stage.listens_of_remains (endExchange_ends _ _ _ outcome).remains
  | breaksOff turn => trivial

/-- A poll of the task leaves the read timer due as the polls say. -/
theorem poll_listens {granting : Acquisition σ} {history : List (Stimulus σ)} {e : Execution σ}
    (configured : e.timeouts = timeouts) (timed : e.stage.Timed timeouts)
    (employs : e.stage.Employs granting history) (h : e.stage.Listens timeouts polls)
    (now : Instant) :
    (e.poll now).1.stage.Listens timeouts (polls ++ [(now, (e.poll now).2)]) := by
  have polled := e.poll_polls now
  generalize e.poll now = next at polled ⊢
  cases polled with
  | waits isWaiting unanswered => exact (h.unasked isWaiting).concat rfl
  | refused isWaiting error refused message =>
      exact Stage.listens_of_remains (finish_ends _ _ none).remains
  | unframed isWaiting connection granted cause unknown =>
      exact Stage.listens_of_remains (pollClose_ends _ _ _ none).remains
  | begins isWaiting connection granted p framed x pipeline writeState frames events idle
      opening only isReading read =>
      rw [configured] at idle read
      obtain ⟨serves, unneeded⟩ := Exchange.timers_of_begin idle writeState
      have opened : Only Action.isBeside (.leased connection.id :: opening) :=
        (only_cons _ _).mpr ⟨rfl, only.beside_of_opening⟩
      exact e.leased.pollExchange_listens rfl serves unneeded
        (Exchange.stands_of_begin (h.unasked isWaiting) writeState isReading read) opened
  | drives x lease stage =>
      rw [stage] at timed employs h
      obtain ⟨connection, given, held, -⟩ := employs
      exact e.pollExchange_listens held timed.1 timed.2 (.inl h) only_nil
  | closes connection ending body stage =>
      exact Stage.listens_of_remains (pollClose_ends _ _ _ body).remains
  | departed gone =>
      generalize e.stage = stage at gone
      cases stage <;> trivial

/-- Every stimulus leaves the read timer due as the polls say. -/
theorem respond_listens {granting : Acquisition σ} {history : List (Stimulus σ)} {e : Execution σ}
    (configured : e.timeouts = timeouts) (timed : e.stage.Timed timeouts)
    (employs : e.stage.Employs granting history) (h : e.stage.Listens timeouts polls)
    (stimulus : Stimulus σ) :
    (e.respond stimulus).1.stage.Listens timeouts (polls ++ e.polls [stimulus]) :=
  respond_polled (Stage.Listens timeouts) h (poll_listens configured timed employs h)
    (fun _ => trivial) (fun _ => h.alike) stimulus

/-- Only the read timer ends a poll of the exchange with a read timeout. -/
theorem pollExchange_expires (e : Execution σ) {x : Exchange} {lease : Lease σ} {p : Pipeline}
    {connection : Connection σ} (same : x.pipeline.decode = p.decode) (empty : x.events = [])
    (held : lease.connection = some connection) (serves : x.idle.Serves timeouts)
    (unneeded : x.Unneeded) (own : ∀ abort ∈ e.completion.queue, abort.isIdle = false)
    {now : Instant} (stands : x.Listens timeouts polls ∨ x.Resumes timeouts polls now)
    (stalls : x.idle.write.map IdleTimer.deadline = timeouts.writeDue (streak polls))
    {opening : List Action} (opened : Only Action.isBeside opening)
    {failure : Failure} (met : failure ∈ failures (.ok p) (e.pollExchange x lease now).2)
    (timeout : failure.category = .readTimeout) :
    ReadExpires p timeouts (polls ++ [(now, opening ++ (e.pollExchange x lease now).2)]) now
      (opening ++ (e.pollExchange x lease now).2) failure := by
  have expires (behind : List Action) (last : Only Action.isBeside behind)
      (met : failure ∈ failures (.ok p)
        ((x.poll lease e.handler e.completion now).actions ++ behind)) :
      ReadExpires p timeouts
        (polls ++ [(now, opening ++ ((x.poll lease e.handler e.completion now).actions ++ behind))])
        now (opening ++ ((x.poll lease e.handler e.completion now).actions ++ behind)) failure := by
    rw [failures_append, last.failures_of_beside, List.append_nil] at met
    exact (Exchange.poll_expires same empty held serves unneeded own stands stalls
      (alike_beside opened last _) met timeout).beside opened last
  have driven := e.pollExchange_drives x lease now
  generalize e.pollExchange x lease now = run at driven met ⊢
  cases driven with
  | goesOn turn =>
      have whole := expires [] only_nil
      rw [List.append_nil] at whole
      exact whole met
  | ends outcome turn => exact expires _ (endExchange_parting _ _ _ outcome).beside_of_parting met
  | breaksOff turn =>
      have aside := dropLease_aside
        ({ e with completion := (x.poll lease e.handler e.completion now).completion } :
          Execution σ) (x.poll lease e.handler e.completion now).resource .crashed
        (some (x.poll lease e.handler e.completion now).exchange.frames.body)
      rw [Run.after_snd, List.append_assoc] at met ⊢
      exact expires _ aside.parting_of_aside.beside_of_parting met

/-- Only the read timer ends a poll of the task with a read timeout. -/
theorem poll_expires {granting : Acquisition σ} {request : Request} {history : List (Stimulus σ)}
    {run : Run σ} {setting : Request × Timeouts × Handler} {id : ExecutionId}
    (course : Course granting request history run) (custody : Custody granting setting history run)
    (configured : run.1.timeouts = timeouts) (timed : run.1.stage.Timed timeouts)
    (employs : run.1.stage.Employs granting history)
    (candid : run.1.stage.isGone = false → run.1.completion.Candid id run.2)
    (listens : run.1.stage.Listens timeouts polls) (stalls : run.1.stage.Stalls timeouts polls)
    {connection : Connection σ} (granted : granting.answerBy history = some (.ok connection))
    {p : Pipeline} (framed : (Pipeline.configure connection).1 = .ok p) (now : Instant)
    {failure : Failure} (met : failure ∈ failures (.ok p) (run.1.poll now).2)
    (timeout : failure.category = .readTimeout) :
    ReadExpires p timeouts (polls ++ [(now, (run.1.poll now).2)]) now (run.1.poll now).2
      failure := by
  have silent {trace : List Action} (only : Only Action.isParting trace)
      (met : failure ∈ failures (.ok p) trace) : False := by
    rw [only.beside_of_parting.failures_of_beside] at met
    cases met
  have reflects := custody.reflects
  have polled := run.1.poll_polls now
  generalize run.1.poll now = next at polled met ⊢
  cases polled with
  | waits isWaiting unanswered => cases met
  | refused isWaiting error refused message =>
      rw [refused] at reflects
      cases granted.symm.trans reflects
  | unframed isWaiting other known cause unknown =>
      rw [known] at reflects
      obtain ⟨given, known, bare⟩ := reflects
      obtain rfl := Acquisition.granted_unique known granted
      rw [Pipeline.configure_of_bare bare, framed] at unknown
      cases unknown
  | begins isWaiting other known q configures x pipeline writeState frames events idle opening only
      isReading read =>
      rw [known] at reflects
      obtain ⟨given, known, bare⟩ := reflects
      obtain rfl := Acquisition.granted_unique known granted
      rw [Pipeline.configure_of_bare bare] at configures
      obtain rfl : q = p := Except.ok.inj (configures.symm.trans framed)
      rw [configured] at idle read
      obtain ⟨serves, unneeded⟩ := Exchange.timers_of_begin idle writeState
      have there := Stage.present_of_waiting isWaiting
      have due := stalls.due_of_begin isWaiting idle
      have opened : Only Action.isBeside (.leased other.id :: opening) :=
        (only_cons _ _).mpr ⟨rfl, only.beside_of_opening⟩
      rw [Run.after_snd, failures_append, opened.failures_of_beside] at met
      exact run.1.leased.pollExchange_expires (congrArg _ pipeline) events rfl serves unneeded
        (candid there).attach.own
        (Exchange.stands_of_begin (listens.unasked isWaiting) writeState isReading read) due opened
        met timeout
  | drives x lease stage =>
      have there : run.1.stage.isGone = false := by
        rw [stage]
        rfl
      obtain ⟨writes, -, empty⟩ := (course.framed granted framed).exchanging stage
      rw [stage] at timed employs listens stalls
      obtain ⟨connection, other, held, -⟩ := employs
      exact run.1.pollExchange_expires writes.decodes empty held timed.1 timed.2
        (candid there).own (.inl listens) stalls only_nil met timeout
  | closes held ending body stage =>
      exact (silent (run.1.pollClose_begins held ending body (rfl : calls [] = [])).1 met).elim
  | departed gone => cases met

section Life

variable (id : ExecutionId) (request : Request) (timeouts : Timeouts) (handler : Handler)
  (acquisition : Acquisition σ)

/-- At every moment of a life the read timer is due as the polls so far say. -/
theorem life_listens (history : List (Stimulus σ)) :
    (life id request timeouts handler acquisition history).1.stage.Listens timeouts
      (lifePolls id request timeouts handler acquisition history) := by
  refine life_invariant id request timeouts handler acquisition (fun past run =>
    run.1.stage.Listens timeouts (lifePolls id request timeouts handler acquisition past)) nofun
    (fun past stimulus h => ?_) history
  have custody := life_custody id request timeouts handler acquisition past
  rw [lifePolls_concat]
  exact respond_listens (congrArg (·.2.1) custody.setting)
    (life_timed id request timeouts handler acquisition past)
    (life_employs id request timeouts handler acquisition past) h stimulus

/-- An exchange reads if it may. -/
theorem life_reads {history : List (Stimulus σ)} {x : Exchange} {lease : Lease σ}
    (stage : (life id request timeouts handler acquisition history).1.stage = .exchanging x lease)
    {connection : Connection σ} (granted : acquisition.answerBy history = some (.ok connection))
    {p : Pipeline} (framed : (Pipeline.configure connection).1 = .ok p) :
    (x.isReading = true ↔ request.isFullDuplex = true ∨
        p.Flushed request (life id request timeouts handler acquisition history).2) ∧
      x.pipeline.decode = p.decode := by
  have course := life_course id request timeouts handler acquisition history
  obtain ⟨writes, reads, -⟩ := (course.framed granted framed).exchanging stage
  exact ⟨reads.trans (or_congr_right writes.flushed), writes.decodes⟩

/-- The read timer measures how long the response is silent. After a poll that leaves the exchange
in progress reads are on exactly if it is full-duplex or its request was flushed with its end, and
then the poll read; nothing was received before. The timer runs exactly if one is configured and
reads are on, and is due as the polls say. A poll ends the exchange with a read timeout only if
this timer is due and there is nothing else to end it. -/
theorem read_timer_measures_silence (past : List (Stimulus σ)) (now : Instant)
    (connection : Connection σ) (p : Pipeline)
    (granted : acquisition.answerBy past = some (.ok connection))
    (framed : (Pipeline.configure connection).1 = .ok p) :
    let run := life id request timeouts handler acquisition past
    let polled := run.1.poll now
    let polls := lifePolls id request timeouts handler acquisition (past ++ [.poll now])
    (∀ x lease, polled.1.stage = .exchanging x lease →
      (x.isReading = true ↔
        request.isFullDuplex = true ∨ p.Flushed request (run.2 ++ polled.2)) ∧
      listened polled.2 = x.isReading ∧
      (x.idle.read.isSome = true ↔ timeouts.read.isZero = false ∧ x.isReading = true) ∧
      ∀ timer ∈ x.idle.read, some timer.deadline = readDueAfter p timeouts.read polls) ∧
    (∀ front answer, front ++ [.receive answer] <+: run.2 ++ polled.2 →
      request.isFullDuplex = true ∨ p.Flushed request front) ∧
    ∀ failure ∈ failures (.ok p) polled.2, failure.category = .readTimeout →
      ReadExpires p timeouts polls now polled.2 failure := by
  intro run polled polls
  have granted_still := Acquisition.answerBy_concat granted (.poll now)
  have next : life id request timeouts handler acquisition (past ++ [.poll now]) =
      polled.after run.2 := life_concat id request timeouts handler acquisition past (.poll now)
  have polls_eq : polls =
      lifePolls id request timeouts handler acquisition past ++ [(now, polled.2)] :=
    lifePolls_concat id request timeouts handler acquisition past (.poll now)
  refine ⟨fun x lease stage => ?_, ?_, fun failure met timeout => ?_⟩
  · have stage_next : (life id request timeouts handler acquisition
        (past ++ [.poll now])).1.stage = .exchanging x lease := by
      rw [next]
      exact stage
    obtain ⟨reads, decodes⟩ :=
      life_reads id request timeouts handler acquisition stage_next granted_still framed
    obtain ⟨opening, waiting, actions, preparing, waits⟩ :=
      life_waits id request timeouts handler acquisition past stage_next
    have timed := life_timed id request timeouts handler acquisition (past ++ [.poll now])
    have listens := life_listens id request timeouts handler acquisition (past ++ [.poll now])
    rw [next] at reads
    rw [stage_next] at timed listens
    refine ⟨reads, ?_, ?_, fun timer running => ?_⟩
    · change listened ((life id request timeouts handler acquisition past).1.poll now).2 = _
      rw [actions, listened_append, preparing.unlistened fun _ => rfl, waits.listened_eq]
      rfl
    · cases listens with
      | silent off unread undone unasked => simp [off, unread]
      | reads on asked due =>
          rw [← Option.isSome_map (f := IdleTimer.deadline), due, timeouts.readDue_isSome]
          simp [on, asked]
    · cases listens with
      | silent off unread undone unasked =>
          rw [unread] at running
          cases running
      | reads on asked due =>
          have nonzero := (timed.1.read timer running).2.2
          rw [running, timeouts.readDue_congr decodes, Timeouts.readDue,
            if_neg (by simp [nonzero])] at due
          exact due
  · have course := life_course id request timeouts handler acquisition (past ++ [.poll now])
    rw [next] at course
    exact (course.framed granted_still framed).attending
  · have custody := life_custody id request timeouts handler acquisition past
    rw [polls_eq]
    exact poll_expires (life_course id request timeouts handler acquisition past) custody
      (congrArg (·.2.1) custody.setting) (life_timed id request timeouts handler acquisition past)
      (life_employs id request timeouts handler acquisition past)
      (life_reckoning id request timeouts handler acquisition past).candid
      (life_listens id request timeouts handler acquisition past)
      (life_stalls id request timeouts handler acquisition past) granted framed now met timeout

end Life

end Execution

namespace Bench

/-- A frame of the response comes after five seconds and puts the timer off. Thirty seconds later
it fires. -/
theorem read_timer_measures_silence_spoken :
    let speak : Stimulus Wire := .transport ⟨7⟩ fun wire =>
      { wire with inbound := [.frame (.single (.data [104, 105]))] }
    let late := [.poll .start, speak, .poll ⟨5000000000⟩]
    (∃ x lease, ((plainLife [.poll .start, speak]).1.poll ⟨5000000000⟩).1.stage =
        .exchanging x lease ∧
      ∃ timer ∈ x.idle.read, timer.deadline = Instant.advance ⟨5000000000⟩ (.ofSeconds 30)) ∧
    aborts ((plainLife late).1.poll ⟨35000000000⟩).2 = [] ∧
    failures (.ok .single) ((plainLife late).1.poll ⟨35000000000⟩).2 =
      [.readIdle (.ofSeconds 30)] := by
  intro speak late
  have timers : ((plainLife [.poll .start, speak]).1.poll ⟨5000000000⟩).1.stage.idle? =
      some ⟨.standard, none, some ⟨.read, .ofSeconds 30, ⟨35000000000⟩⟩⟩ := by decide +kernel
  have due : readDueAfter .single Timeouts.standard.read (Execution.lifePolls 1 plainRequest
      .standard .quiet (.granted stickyConnection)
        ([.poll .start, speak] ++ [.poll ⟨5000000000⟩])) =
      some (Instant.advance ⟨5000000000⟩ (.ofSeconds 30)) := by decide +kernel
  have met : .readIdle (.ofSeconds 30) ∈
      failures (.ok .single) ((plainLife late).1.poll ⟨35000000000⟩).2 := by decide +kernel
  obtain ⟨x, lease, stage, idle⟩ := Stage.exchanging_of_idle timers
  have running : (⟨.read, .ofSeconds 30, ⟨35000000000⟩⟩ : IdleTimer) ∈ x.idle.read := by
    rw [idle]
    rfl
  obtain ⟨-, -, -, deadlines⟩ := (Execution.read_timer_measures_silence 1 plainRequest .standard
    .quiet (.granted stickyConnection) [.poll .start, speak] ⟨5000000000⟩ stickyConnection .single
    rfl rfl).1 x lease stage
  have expires := (Execution.read_timer_measures_silence 1 plainRequest .standard .quiet
    (.granted stickyConnection) late ⟨35000000000⟩ stickyConnection .single rfl rfl).2.2 _ met rfl
  exact ⟨⟨x, lease, stage, _, running, Option.some.inj ((deadlines _ running).trans due)⟩,
    expires.unaborted, expires.alone⟩

/-- A read timer of more than thirty years is due after thirty years already. -/
theorem read_timer_due_early :
    let period : Duration := .ofMilliseconds 946080000005
    let run := Execution.life 1 plainRequest ⟨.ofSeconds 30, period⟩ .quiet
      (.granted stickyConnection) [.poll .start]
    ∃ x lease, run.1.stage = .exchanging x lease ∧
      ∃ timer ∈ x.idle.read, timer.deadline ≠ Instant.start.advance period := by
  intro period run
  have timers : run.1.stage.idle? = some ⟨⟨.ofSeconds 30, period⟩, none,
      some ⟨.read, period, Instant.start.sleepUntil period⟩⟩ := by decide +kernel
  obtain ⟨x, lease, stage, idle⟩ := Stage.exchanging_of_idle timers
  refine ⟨x, lease, stage, ⟨.read, period, Instant.start.sleepUntil period⟩, ?_, by decide⟩
  rw [idle]
  rfl

end Bench

end HttpExchange
