import HttpExchange.Proofs.Reuse
import HttpExchange.Proofs.Rounds
import HttpExchange.Proofs.Stalling

/-!
What a poll leaves an exchange waiting for. A poll that neither ends the exchange nor breaks off
comes to its timers: it found no abort, it wrote until the connection, the body or the last flush
answered that there is more to wait for, it read until nothing was received, and no timer was due.
So whatever can take the exchange further was asked in this very poll.
-/

namespace HttpExchange

open Trace

namespace FrameSource

/-- A source has nothing to send because its producer had nothing, asked last. -/
theorem poll_asked_of_pending {s : FrameSource} (waiting : s.poll.answer = .pending) :
    ∃ skipped, s.poll.asked = skipped ++ [.pending] := by
  have body_asked (b : MeteredBody) (waiting : b.poll.answer = .pending) :
      b.poll.asked.toList = [.pending] := by
    have going : b.isOver = false := by
      by_contra finished
      rw [MeteredBody.poll_of_over (by simpa using finished)] at waiting
      cases waiting
    rw [MeteredBody.poll_of_open going] at waiting ⊢
    dsimp only at waiting ⊢
    cases answer : b.producer.poll.1 with
    | pending => rfl
    | trailers fields | finished =>
        rw [answer] at waiting
        cases waiting
    | data chunk | failed error =>
        rw [answer] at waiting
        unfold MeteredBody.pass at waiting
        dsimp only at waiting
        split at waiting <;> cases waiting
  have source_asked (b : MeteredBody) (waiting : (pollBody b).answer = .pending) :
      ∃ skipped, (pollBody b).asked = skipped ++ [.pending] := by
    fun_induction pollBody b with
    | case1 b answered => exact ⟨[], body_asked b answered⟩
    | case2 b answered later ih =>
        obtain ⟨skipped, asked⟩ := ih waiting
        refine ⟨b.poll.asked.toList ++ skipped, ?_⟩
        rw [asked, List.append_assoc]
    | case3 | case4 | case5 | case6 => cases waiting
  unfold poll at waiting ⊢
  cases phase : s.phase with
  | head head | done =>
      simp only [phase] at waiting
      cases waiting
  | body =>
      simp only [phase] at waiting
      exact source_asked s.body waiting

end FrameSource

/-- Timers that are polled in vain are not due, and those that are not due are polled in vain. -/
theorem IdleWatch.poll_eq_none (w : IdleWatch) (now : Instant) : (w.poll now).1 = none ↔
    (∀ timer ∈ w.write, timer.isDue now = false) ∧ ∀ timer ∈ w.read, timer.isDue now = false := by
  have filtered (timer? : Option IdleTimer) : timer?.filter (·.isDue now) = none ↔
      ∀ timer ∈ timer?, timer.isDue now = false := by
    simp only [Option.filter_eq_none_iff, Bool.not_eq_true, Option.mem_def]
  rw [← filtered, ← filtered]
  unfold poll
  cases write : w.write.filter (·.isDue now) with
  | some timer => simp
  | none => cases read : w.read.filter (·.isDue now) <;> simp

namespace Exchange

/-- How the writing leaves a request that is not written: the connection has no room, or the body
has nothing and what was accepted so far was flushed, or the last flush is not answered. -/
inductive Pauses (y : Exchange) : List Action → Prop where
  | full (earlier : List Action) (writing : y.writeState = .writing) :
      y.Pauses (earlier ++ [.ready .pending, .timer .armWrite])
  | unfed (earlier : List Action) (skipped : List BodyAnswer) (writing : y.writeState = .writing)
      (phase : y.frames.phase = .body) (going : y.frames.body.isOver = false)
      (flushed : Readiness) (call : TimerCall)
      (answered : flushed = .done ∧ call = .removeWrite ∧ y.idle.write = none ∨
        flushed = .pending ∧ call = .armWrite) :
      y.Pauses (earlier ++ .ready .done ::
        (skipped.map .produced ++ [.produced .pending, .flush flushed, .timer call]))
  | unflushed (earlier : List Action) (flushing : y.writeState = .flushing) :
      y.Pauses (earlier ++ [.flush .pending, .timer .armWrite])

variable {y z : Exchange} {actions : List Action}

theorem Pauses.after (h : y.Pauses actions) (before : List Action) :
    y.Pauses (before ++ actions) := by
  cases h with
  | full earlier writing =>
      rw [← List.append_assoc]
      exact .full _ writing
  | unfed earlier skipped writing phase going flushed call answered =>
      rw [← List.append_assoc]
      exact .unfed _ skipped writing phase going flushed call answered
  | unflushed earlier flushing =>
      rw [← List.append_assoc]
      exact .unflushed _ flushing

/-- Only the request and its timer matter. -/
theorem Pauses.congr (h : y.Pauses actions) (frames : z.frames = y.frames)
    (writeState : z.writeState = y.writeState) (timer : z.idle.write = y.idle.write) :
    z.Pauses actions := by
  cases h with
  | full earlier writing => exact .full earlier (writeState.trans writing)
  | unfed earlier skipped writing phase going flushed call answered =>
      rw [← frames] at phase going
      rw [← timer] at answered
      exact .unfed earlier skipped (writeState.trans writing) phase going flushed call answered
  | unflushed earlier flushing => exact .unflushed earlier (writeState.trans flushing)

variable {σ : Type} [Transport σ] {x : Exchange}

theorem flushRequest_pauses (flushing : x.writeState = .flushing) (s : σ) (now : Instant)
    (waits : (x.flushRequest s now).turn = .pending) :
    (x.flushRequest s now).exchange.Pauses (x.flushRequest s now).actions := by
  simp only [flushRequest, WriteStep.after] at waits ⊢
  split at waits
  · cases waits
  · cases waits
  · rename_i pending
    rw [pending]
    exact .unflushed [] flushing

theorem flushAccepted_pauses (writing : x.writeState = .writing) (phase : x.frames.phase = .body)
    (going : x.frames.body.isOver = false) (skipped : List BodyAnswer) (s : σ) (now : Instant)
    (waits : (x.flushAccepted s now).turn = .pending) :
    (x.flushAccepted s now).exchange.Pauses
      (.ready .done :: (skipped ++ [BodyAnswer.pending]).map .produced ++
        (x.flushAccepted s now).actions) := by
  simp only [flushAccepted, WriteStep.after] at waits ⊢
  split at waits
  · rename_i flushed
    rw [flushed]
    have paused := Pauses.unfed (y := { x with idle := x.idle.removeWrite }) [] skipped writing
      phase going .done .removeWrite (.inl ⟨rfl, rfl, rfl⟩)
    simpa using paused
  · cases waits
  · rename_i flushed
    rw [flushed]
    have paused := Pauses.unfed (y := { x with idle := x.idle.armWrite now }) [] skipped writing
      phase going .pending .armWrite (.inr ⟨rfl, rfl⟩)
    simpa [stall] using paused

/-- The write loop, where it stops to wait. -/
theorem writeFrames_pauses (writing : x.writeState = .writing) (s : σ) (now : Instant)
    (waits : (x.writeFrames s now).turn = .pending) :
    (x.writeFrames s now).exchange.Pauses (x.writeFrames s now).actions := by
  fun_induction writeFrames x s now with
  | case1 | case3 | case7 | case8 => cases waits
  | case2 x s room full =>
      rw [full]
      exact .full [] writing
  | case4 x s room ready polled taken before waiting =>
      obtain ⟨phase, going⟩ := FrameSource.poll_of_pending waiting
      obtain ⟨skipped, asked⟩ := FrameSource.poll_asked_of_pending waiting
      have paused := flushAccepted_pauses (x := taken) writing phase going skipped room.2 now waits
      simp only [before, ready]
      rw [← asked] at paused
      exact paused
  | case5 x s room ready polled taken before finished =>
      exact (flushRequest_pauses (x := { taken with writeState := .flushing }) rfl room.2 now
        waits).after before
  | case6 x s room ready polled taken before frame yielded encoded framed silent ih =>
      exact (ih writing waits).after before
  | case9 =>
      rename_i ih
      exact (ih writing waits).after _

/-- The write part of a poll that has to wait. -/
theorem pollWrite_pauses (x : Exchange) (lease : Lease σ) (now : Instant)
    (waits : (x.pollWrite lease now).turn = .pending) :
    (x.pollWrite lease now).exchange.Pauses (x.pollWrite lease now).actions := by
  have continued (s : σ) (waits : (x.continueWrite s now).turn = .pending) :
      (x.continueWrite s now).exchange.Pauses (x.continueWrite s now).actions := by
    unfold continueWrite at waits ⊢
    cases state : x.writeState with
    | writing =>
        simp only [state] at waits
        exact writeFrames_pauses state s now waits
    | flushing =>
        simp only [state] at waits
        exact flushRequest_pauses state s now waits
    | done =>
        simp only [state] at waits
        cases waits
  have written (waits : (x.writeOn lease now).turn = .pending) :
      (x.writeOn lease now).exchange.Pauses (x.writeOn lease now).actions := by
    unfold writeOn at waits ⊢
    split at waits
    · cases waits
    · exact continued _ waits
  unfold pollWrite at waits ⊢
  split at waits
  · cases waits
  · rename_i undone
    rw [if_neg undone]
    dsimp only at waits ⊢
    split at waits
    · cases waits
    · exact written waits

omit [Transport σ] in
theorem requestWritten_done (x : Exchange) (now : Instant) :
    (x.requestWritten now).1.writeState = .done ∧ (x.requestWritten now).1.isReading = true := by
  unfold requestWritten
  dsimp only
  split
  · exact ⟨rfl, ‹_›⟩
  · exact ⟨rfl, rfl⟩

theorem pollWrite_of_written (x : Exchange) (lease : Lease σ) (now : Instant)
    (written : (x.pollWrite lease now).turn = .written) :
    (x.pollWrite lease now).exchange.writeState = .done := by
  unfold pollWrite at written ⊢
  split at written
  · rename_i done
    rw [if_pos done]
    exact done
  · rename_i undone
    rw [if_neg undone]
    dsimp only at written ⊢
    split at written
    · exact (requestWritten_done _ now).1
    · contradiction

theorem readFrames_waits (x : Exchange) (s : σ) (h : Handler) (c : Completion) (now : Instant)
    (waits : (x.readFrames s h c now).turn = .pending) :
    (x.readFrames s h c now).exchange.events = [] ∧
      ∃ earlier, (x.readFrames s h c now).actions = earlier ++ [.receive .pending] := by
  fun_induction readFrames x s h c now with
  | case3 x s c delivery _ delivered drained received before pending =>
      refine ⟨Handler.deliver_rest_of_drained drained, delivery.actions, ?_⟩
      simp only [before, pending]
  | case8 =>
      rename_i ih
      obtain ⟨empty, earlier, actions⟩ := ih waits
      refine ⟨empty, ?_⟩
      simp only [Step.after, actions, ← List.append_assoc]
      exact ⟨_, rfl⟩
  | _ => cases waits

/-- The read part of a poll that has to wait. -/
theorem pollRead_waits (x : Exchange) {lease : Lease σ} {connection : Connection σ}
    (held : lease.connection = some connection) (h : Handler) (c : Completion) (now : Instant)
    (reads : x.isReading = true) (waits : (x.pollRead lease h c now).turn = .pending) :
    (x.pollRead lease h c now).exchange.events = [] ∧
      ∃ earlier, (x.pollRead lease h c now).actions = earlier ++ [.receive .pending] := by
  unfold pollRead readOn at waits ⊢
  rw [if_pos reads] at waits ⊢
  simp only [held] at waits ⊢
  exact x.readFrames_waits _ h c now waits

/-- The read part of a poll. -/
def reading (x : Exchange) (lease : Lease σ) (h : Handler) (c : Completion) (now : Instant) :
    Step (Lease σ) :=
  (x.pollWrite lease now).exchange.pollRead (x.pollWrite lease now).resource h c.takeAbort.2 now

/-- A poll comes to its timers. -/
structure Completes (x : Exchange) (lease : Lease σ) (h : Handler) (c : Completion)
    (now : Instant) : Prop where
  unaborted : c.takeAbort.1 = none
  wrote : (x.pollWrite lease now).turn = .pending ∨ (x.pollWrite lease now).turn = .written
  waits : (x.reading lease h c now).turn = .pending

/-- A poll that comes to its timers is what it did before and the check of the timers. -/
theorem Completes.poll_eq {lease : Lease σ} {h : Handler} {c : Completion} {now : Instant}
    (completes : x.Completes lease h c now) :
    x.poll lease h c now =
      ((x.reading lease h c now).exchange.pollTimers (x.reading lease h c now).resource
        (x.reading lease h c now).completion now).after
          (.control none :: ((x.pollWrite lease now).actions ++
            (x.reading lease h c now).actions)) := by
  obtain ⟨unaborted, wrote, waits⟩ := completes
  unfold reading at waits ⊢
  unfold poll pollParts pollAfterWrite
  dsimp only
  rw [unaborted]
  rcases wrote with turn | turn <;>
    simp only [turn, waits, Step.after, List.append_assoc, List.cons_append, List.nil_append]

/-- A poll that does not come to its timers ends the exchange or breaks off. -/
theorem poll_completes (x : Exchange) (lease : Lease σ) (h : Handler) (c : Completion)
    (now : Instant) : x.Completes lease h c now ∨
      (x.poll lease h c now).turn ≠ .pending ∧
        ∀ fired, .timerCheck fired ∉ (x.poll lease h c now).actions := by
  have unchecked_writing (fired : Option Failure) :
      .timerCheck fired ∉ .control none :: (x.pollWrite lease now).actions := by
    intro member
    cases List.mem_cons.mp member with
    | inl same => cases same
    | inr later => cases x.pollWrite_writing lease now _ later
  have unchecked_reading (fired : Option Failure) :
      .timerCheck fired ∉ (x.reading lease h c now).actions := by
    intro member
    cases pollRead_receiving _ _ h _ now _ member
  cases unaborted : c.takeAbort.1 with
  | some abort => exact .inr ⟨by simp [poll, unaborted], by simp [poll, unaborted]⟩
  | none =>
      by_cases wrote : (x.pollWrite lease now).turn = .pending ∨
          (x.pollWrite lease now).turn = .written
      · by_cases waits : (x.reading lease h c now).turn = .pending
        · exact .inl ⟨unaborted, wrote, waits⟩
        · refine .inr ?_
          have polled : x.poll lease h c now = (x.reading lease h c now).after
              (.control none :: (x.pollWrite lease now).actions) := by
            unfold reading at waits ⊢
            have ended : (x.pollWrite lease now).exchange.pollAfterWrite
                (x.pollWrite lease now).resource h c.takeAbort.2 now =
              (x.pollWrite lease now).exchange.pollRead (x.pollWrite lease now).resource h
                c.takeAbort.2 now := by
              unfold pollAfterWrite
              dsimp only
              split
              · contradiction
              · rfl
            unfold poll pollParts
            dsimp only
            rw [unaborted, ended]
            rcases wrote with turn | turn <;> rw [turn] <;> rfl
          rw [polled]
          refine ⟨waits, fun fired member => ?_⟩
          exact (List.mem_append.mp member).elim (unchecked_writing fired)
            (unchecked_reading fired)
      · refine .inr ?_
        rw [not_or] at wrote
        unfold poll pollParts
        dsimp only
        rw [unaborted]
        cases turn : (x.pollWrite lease now).turn with
        | pending => exact absurd turn wrote.1
        | written => exact absurd turn wrote.2
        | failed failure => exact ⟨by simp [Step.after], unchecked_writing⟩
        | crashed => exact ⟨by simp [Step.after], unchecked_writing⟩

/-- What a poll did that leaves an exchange in progress: it looked for an abort, wrote until it had
to wait, read until it had to wait, and found no timer due. -/
inductive Waits (x : Exchange) (now : Instant) : List Action → Prop where
  | intro (writing reading : List Action) (sends : Only Action.isWriting writing)
      (receives : Only Action.isReceiving reading)
      (pauses : x.writeState ≠ .done → x.Pauses writing)
      (drained : x.isReading = true →
        x.events = [] ∧ ∃ earlier, reading = earlier ++ [.receive .pending])
      (unread : x.isReading = false → reading = [])
      (undue : (x.idle.poll now).1 = none) :
      x.Waits now (.control none :: (writing ++ (reading ++ [.timerCheck none])))

/-- A poll that leaves the exchange in progress leaves it waiting. -/
theorem poll_waits (x : Exchange) {lease : Lease σ} {connection : Connection σ}
    (held : lease.connection = some connection) (h : Handler) (c : Completion) (now : Instant)
    (turn : (x.poll lease h c now).turn = .pending) :
    (x.poll lease h c now).exchange.Waits now (x.poll lease h c now).actions := by
  have completes := (x.poll_completes lease h c now).resolve_right fun ended => ended.1 turn
  rw [completes.poll_eq] at turn ⊢
  obtain ⟨-, wrote, waits⟩ := completes
  have sends := x.pollWrite_writing lease now
  have pauses := x.pollWrite_pauses lease now
  have written := x.pollWrite_of_written lease now
  obtain ⟨still, still_held, -⟩ := Option.map_eq_some_iff.mp
    ((x.pollWrite_lease lease now).trans (congrArg (Option.map Connection.bare) held))
  have receives : Only Action.isReceiving (x.reading lease h c now).actions :=
    pollRead_receiving _ _ h _ now
  have frame : ReadFrame (x.pollWrite lease now).exchange (x.reading lease h c now).exchange :=
    pollRead_frame _ _ h _ now
  have timer : (x.reading lease h c now).exchange.idle.write =
      (x.pollWrite lease now).exchange.idle.write := (pollRead_rests _ _ h _ now).write
  have drained (reads : (x.pollWrite lease now).exchange.isReading = true) :
      (x.reading lease h c now).exchange.events = [] ∧
        ∃ earlier, (x.reading lease h c now).actions = earlier ++ [.receive .pending] :=
    pollRead_waits _ still_held h c.takeAbort.2 now reads waits
  have unread (silent : (x.pollWrite lease now).exchange.isReading = false) :
      (x.reading lease h c now).actions = [] := by
    unfold reading pollRead
    rw [if_neg (by simp [silent])]
  generalize x.pollWrite lease now = write at *
  generalize x.reading lease h c now = read at *
  have undue : (read.exchange.idle.poll now).1 = none := by
    simp only [Step.after, pollTimers] at turn
    split at turn
    · assumption
    · cases turn
  have whole : (.control none :: (write.actions ++ read.actions)) ++ [.timerCheck none] =
      .control none :: (write.actions ++ (read.actions ++ [.timerCheck none])) := by simp
  simp only [Step.after, pollTimers, undue, whole, IdleWatch.poll_of_undue undue]
  refine .intro _ _ sends receives (fun undone => ?_) (fun reads => ?_) (fun silent => ?_) undue
  · have undone : write.exchange.writeState ≠ .done := frame.writeState ▸ undone
    have turn := wrote.resolve_right fun turn => undone (written turn)
    exact (pauses turn).congr frame.frames frame.writeState timer
  · exact drained (frame.isReading ▸ reads)
  · exact unread (frame.isReading ▸ silent)

end Exchange

/-- The transport accepted the whole request, with its end. -/
def Pipeline.Whole (p : Pipeline) (request : Request) (trace : List Action) : Prop :=
  isOver request.room (answers trace) = true ∧
    accepted trace = p.reference request.head request.room (answers trace)

namespace Execution

variable [Transport σ]

/-- A poll of a task that leaves an exchange in progress ends with a poll of the exchange, which
leaves it waiting. -/
theorem poll_waits {granting : Acquisition σ} {history : List (Stimulus σ)} {e : Execution σ}
    (employs : e.stage.Employs granting history) {now : Instant} {x : Exchange} {lease : Lease σ}
    (stage : (e.poll now).1.stage = .exchanging x lease) :
    ∃ opening waiting, (e.poll now).2 = opening ++ waiting ∧ Only Action.isPreparing opening ∧
      x.Waits now waiting := by
  have ended {run : Run σ} {body : Option MeteredBody} (ends : Ends body run)
      (stage : run.1.stage = .exchanging x lease) : False := by
    have remains := ends.remains
    rw [stage] at remains
    cases remains
  have driven (e : Execution σ) (y : Exchange) {leased : Lease σ} {connection : Connection σ}
      (held : leased.connection = some connection)
      (stage : (e.pollExchange y leased now).1.stage = .exchanging x lease) :
      x.Waits now (e.pollExchange y leased now).2 := by
    have waits := y.poll_waits held e.handler e.completion now
    have driven := e.pollExchange_drives y leased now
    generalize e.pollExchange y leased now = run at driven stage ⊢
    cases driven with
    | goesOn turn =>
        cases stage
        exact waits turn
    | ends outcome turn => exact (ended (endExchange_ends _ _ _ outcome) stage).elim
    | breaksOff turn => exact (ended (dropLease_ends _ _ .crashed _) stage).elim
  have polled := e.poll_polls now
  generalize e.poll now = run at polled stage ⊢
  cases polled with
  | waits isWaiting unanswered => cases stage
  | refused isWaiting error refused message => exact (ended (finish_ends _ _ none) stage).elim
  | unframed isWaiting connection granted cause unknown =>
      exact (ended (pollClose_ends _ _ _ none) stage).elim
  | begins isWaiting connection granted p framed y pipeline writeState frames events idle opening
      only =>
      refine ⟨.leased connection.id :: opening, _, rfl, ?_, driven e.leased y rfl stage⟩
      exact (only_cons _ _).mpr ⟨rfl, only.preparing_of_opening⟩
  | drives y leased stage' =>
      rw [stage'] at employs
      obtain ⟨connection, given, held, known, same⟩ := employs
      exact ⟨[], _, rfl, only_nil, driven e y held stage⟩
  | closes connection ending body stage' => exact (ended (pollClose_ends _ _ _ body) stage).elim
  | departed gone =>
      rw [stage] at gone
      cases gone

section Life

variable (id : ExecutionId) (request : Request) (timeouts : Timeouts) (handler : Handler)
  (acquisition : Acquisition σ)

theorem life_waits (past : List (Stimulus σ)) {now : Instant} {x : Exchange} {lease : Lease σ}
    (stage : (life id request timeouts handler acquisition (past ++ [.poll now])).1.stage =
      .exchanging x lease) :
    ∃ opening waiting, ((life id request timeouts handler acquisition past).1.poll now).2 =
        opening ++ waiting ∧
      Only Action.isPreparing opening ∧ x.Waits now waiting := by
  rw [life_concat] at stage
  exact poll_waits (life_employs id request timeouts handler acquisition past) stage

end Life

end Execution

end HttpExchange
