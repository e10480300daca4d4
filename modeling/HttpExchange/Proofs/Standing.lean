import HttpExchange.Proofs.Waiting

/-!
An exchange that no last answer takes any further. If everything it asks is answered again as it
was answered last, a poll of it writes nothing, receives nothing and calls nobody, and leaves it as
it is, down to its timers. An exchange that a poll left waiting stands so.
-/

namespace HttpExchange

open Trace

/-- What an exchange waits for. -/
inductive Question where
  | abort
  | room
  | item
  | flush
  | frame
  deriving DecidableEq, Repr

namespace Action

/-- The question that an action answers. -/
def question? : Action → Option Question
  | control _ => some .abort
  | ready _ => some .room
  | produced _ => some .item
  | flush _ => some .flush
  | receive _ => some .frame
  | _ => none

/-- What a poll in vain consists of. Frames are neither written nor received, and no callback is
made. -/
def isVain : Action → Bool
  | control none | ready _ | produced _ | flush _ | receive .pending | timer _ | timerCheck none
  | cancel _ => true
  | _ => false

end Action

namespace Trace

def lastAnswer (question : Question) (trace : List Action) : Option Action :=
  (trace.filter fun action => action.question? = some question).getLast?

/-- Whatever is asked again is answered as it was answered last. -/
def Repeats (before again : List Action) : Prop :=
  ∀ action ∈ again, ∀ question ∈ action.question?, ∀ last ∈ lastAnswer question before,
    action = last

variable {question : Question} {before again : List Action} {action last : Action}

/-- The last answer is the one behind which the question is not answered again. -/
theorem lastAnswer_append_cons (answers : last.question? = some question)
    (earlier : List Action) {behind : List Action}
    (silent : ∀ action ∈ behind, action.question? ≠ some question) :
    lastAnswer question (earlier ++ last :: behind) = some last := by
  have nothing : behind.filter (fun action => action.question? = some question) = [] := by
    simpa using silent
  simp [lastAnswer, answers, nothing]

theorem Repeats.answer (repeats : Repeats before again)
    (known : lastAnswer question before = some last) (member : action ∈ again)
    (answers : action.question? = some question) : action = last :=
  repeats action member question answers last known

theorem Repeats.of_subset {fewer : List Action} (repeats : Repeats before again)
    (subset : fewer ⊆ again) : Repeats before fewer :=
  fun action member => repeats action (subset member)

theorem Only.views_of_vain {trace : List Action} (only : Only Action.isVain trace) :
    offered trace = [] ∧ received trace = [] ∧ callbacks trace = [] := by
  refine ⟨only.filterMap_eq_nil ?_, only.filterMap_eq_nil ?_, only.filterMap_eq_nil ?_⟩
  all_goals
    intro action vain
    cases action with
    | receive answer => cases answer <;> first | rfl | cases vain
    | _ => first | rfl | cases vain

theorem Only.vain_of_cancel {trace : List Action} (only : Only Action.isCancel trace) :
    Only Action.isVain trace :=
  only.mono fun action h => by cases action <;> first | rfl | cases h

end Trace

/-- A write timer that runs is armed in vain, and so is one that never runs. -/
theorem IdleWatch.armWrite_of_running {w : IdleWatch}
    (running : w.write.isSome = true ∨ w.periods.write.isZero = true) (now : Instant) :
    w.armWrite now = w := by
  obtain ⟨periods, write, read⟩ := w
  cases write with
  | some timer => rfl
  | none =>
      have zero := running.resolve_left Bool.false_ne_true
      simp only [armWrite, started]
      rw [if_pos zero]

theorem IdleWatch.removeWrite_of_none {w : IdleWatch} (unarmed : w.write = none) :
    w.removeWrite = w := by
  obtain ⟨periods, write, read⟩ := w
  cases unarmed
  rfl

/-- The exchange with another producer. -/
def Exchange.supply (x : Exchange) (producer : Producer) : Exchange :=
  { x with frames := { x.frames with body := { x.frames.body with producer } } }

/-- How a part of the writing ends that is tried again in vain. -/
structure WriteStep.Vain (x : Exchange) {ρ : Type} (step : WriteStep ρ) : Prop where
  waits : step.turn = .pending
  exchange : ∃ producer, step.exchange = x.supply producer
  vain : Only Action.isVain step.actions

namespace Exchange

/-- The writing is where no last answer of a trace takes it further. -/
inductive Stuck (x : Exchange) (before : List Action) : Prop where
  | written (done : x.writeState = .done)
  | full (writing : x.writeState = .writing)
      (room : lastAnswer .room before = some (.ready .pending))
      (armed : ∀ now, x.idle.armWrite now = x.idle)
  | unfed (writing : x.writeState = .writing) (phase : x.frames.phase = .body)
      (going : x.frames.body.isOver = false)
      (room : lastAnswer .room before = some (.ready .done))
      (item : lastAnswer .item before = some (.produced .pending))
      (flushed : lastAnswer .flush before = some (.flush .done) ∧ x.idle.write = none ∨
        lastAnswer .flush before = some (.flush .pending) ∧ ∀ now, x.idle.armWrite now = x.idle)
  | unflushed (flushing : x.writeState = .flushing)
      (flushed : lastAnswer .flush before = some (.flush .pending))
      (armed : ∀ now, x.idle.armWrite now = x.idle)

/-- The exchange is where no last answer of a trace takes it further. -/
structure Stands (x : Exchange) (before : List Action) : Prop where
  unaborted : lastAnswer .abort before = some (.control none)
  stuck : x.Stuck before
  drained : x.isReading = true →
    x.events = [] ∧ lastAnswer .frame before = some (.receive .pending)

section Again

variable {σ : Type} [Transport σ] {x : Exchange} {before : List Action}

omit [Transport σ] in
/-- Where the producer is does not matter. -/
theorem Stands.supply (stands : x.Stands before) (producer : Producer) :
    (x.supply producer).Stands before where
  unaborted := stands.unaborted
  stuck := by
    cases stands.stuck with
    | written done => exact .written done
    | full writing room armed => exact .full writing room armed
    | unfed writing phase going room item flushed =>
        exact .unfed writing phase going room item flushed
    | unflushed flushing flushed armed => exact .unflushed flushing flushed armed
  drained := stands.drained

/-- The write loop begins with the question for room, and asks the source if there is some. -/
theorem writeFrames_asks (x : Exchange) (s : σ) (now : Instant) :
    .ready (Transport.ready s).1 ∈ (x.writeFrames s now).actions ∧
      ((Transport.ready s).1 = .done →
        x.frames.poll.asked.map .produced ⊆ (x.writeFrames s now).actions) := by
  have both {room : Readiness} {asked : List BodyAnswer} (rest : List Action) :
      .ready room ∈ .ready room :: asked.map .produced ++ rest ∧
        (room = .done → asked.map .produced ⊆ .ready room :: asked.map .produced ++ rest) :=
    ⟨List.mem_cons_self, fun _ => by simp⟩
  rw [writeFrames]
  dsimp only
  split
  · rename_i failed
    simp [failed]
  · rename_i full
    simp [full, WriteStep.after]
  · split
    · simp
    · exact both _
    · exact both _
    · split
      · exact both _
      · split
        · exact both _
        · split <;> simp only [List.append_assoc, WriteStep.after] <;> exact both _

/-- A flush that is not answered again leaves the write timer running. -/
theorem flushRequest_vain (flushed : lastAnswer .flush before = some (.flush .pending))
    (armed : ∀ now, x.idle.armWrite now = x.idle) (s : σ) (now : Instant)
    (repeats : Repeats before (x.flushRequest s now).actions) :
    (x.flushRequest s now).Vain x := by
  have asked : .flush (Transport.flush s).1 ∈ (x.flushRequest s now).actions := List.mem_cons_self
  have pending := Action.flush.inj (repeats.answer flushed asked rfl)
  have stalled : x.flushRequest s now =
      ⟨x, (Transport.flush s).2, [.flush .pending, .timer .armWrite], .pending⟩ := by
    simp only [flushRequest, pending, stall, armed, WriteStep.after]
    rfl
  rw [stalled]
  exact ⟨rfl, ⟨x.frames.body.producer, rfl⟩, by simp [Action.isVain]⟩

theorem flushAccepted_vain
    (flushed : lastAnswer .flush before = some (.flush .done) ∧ x.idle.write = none ∨
      lastAnswer .flush before = some (.flush .pending) ∧ ∀ now, x.idle.armWrite now = x.idle)
    (s : σ) (now : Instant) (repeats : Repeats before (x.flushAccepted s now).actions) :
    (x.flushAccepted s now).turn = .pending ∧ (x.flushAccepted s now).exchange = x ∧
      Only Action.isVain (x.flushAccepted s now).actions := by
  have asked : .flush (Transport.flush s).1 ∈ (x.flushAccepted s now).actions :=
    List.mem_cons_self
  rcases flushed with ⟨known, unarmed⟩ | ⟨known, armed⟩
  · have done := Action.flush.inj (repeats.answer known asked rfl)
    simp only [flushAccepted, done, IdleWatch.removeWrite_of_none unarmed, WriteStep.after]
    simp [Action.isVain]
  · have pending := Action.flush.inj (repeats.answer known asked rfl)
    simp only [flushAccepted, pending, stall, armed, WriteStep.after]
    simp [Action.isVain]

/-- The write loop, where no answer takes it further. -/
theorem writeFrames_vain (stuck : x.Stuck before) (writing : x.writeState = .writing) (s : σ)
    (now : Instant) (repeats : Repeats before (x.writeFrames s now).actions) :
    (x.writeFrames s now).Vain x := by
  obtain ⟨asks, fed⟩ := x.writeFrames_asks s now
  cases stuck with
  | written done =>
      rw [writing] at done
      cases done
  | unflushed flushing flushed armed =>
      rw [writing] at flushing
      cases flushing
  | full writing room armed =>
      have full := Action.ready.inj (repeats.answer room asks rfl)
      have stalled : x.writeFrames s now =
          ⟨x, (Transport.ready s).2, [.ready .pending, .timer .armWrite], .pending⟩ := by
        rw [writeFrames_of_full full]
        simp only [stall, armed, WriteStep.after]
        rfl
      rw [stalled]
      exact ⟨rfl, ⟨x.frames.body.producer, rfl⟩, by simp [Action.isVain]⟩
  | unfed writing phase going room item flushed =>
      have ready := Action.ready.inj (repeats.answer room asks rfl)
      obtain ⟨⟨rest, first⟩, unfed⟩ := FrameSource.poll_of_unfed phase going
      have put : .produced x.frames.body.producer.poll.1 ∈ (x.writeFrames s now).actions := by
        refine fed ready ?_
        rw [first]
        exact List.mem_cons_self
      have polled := unfed (Action.produced.inj (repeats.answer item put rfl))
      have again : x.writeFrames s now =
          (x.asked.flushAccepted (Transport.ready s).2 now).after x.askings :=
        writeFrames_of_bodyPending ready (by rw [polled])
      have supplied : x.asked = x.supply x.frames.body.producer.poll.2 := by
        unfold asked
        rw [polled]
        rfl
      rw [again] at repeats ⊢
      obtain ⟨waits, same, vain⟩ := flushAccepted_vain (x := x.asked) flushed _ now
        (repeats.of_subset (List.subset_append_right _ _))
      refine ⟨waits, ⟨_, same.trans supplied⟩, (only_append _ _).mpr ⟨?_, vain⟩⟩
      simp [askings, polled, Action.isVain]

/-- Writing again, where no answer takes it further. -/
theorem pollWrite_vain (stuck : x.Stuck before) (undone : x.writeState ≠ .done) {lease : Lease σ}
    {connection : Connection σ} (held : lease.connection = some connection) (now : Instant)
    (repeats : Repeats before (x.pollWrite lease now).actions) :
    (x.pollWrite lease now).Vain x := by
  have within : (x.continueWrite connection.transport now).actions ⊆
      (x.pollWrite lease now).actions := by
    unfold pollWrite writeOn
    rw [if_neg undone, held]
    dsimp only
    split
    · exact List.subset_append_left _ _
    · exact List.Subset.refl _
  have again : (x.continueWrite connection.transport now).Vain x := by
    have repeats := repeats.of_subset within
    unfold continueWrite at repeats ⊢
    cases state : x.writeState with
    | writing =>
        simp only [state] at repeats
        exact writeFrames_vain stuck state _ now repeats
    | flushing =>
        simp only [state] at repeats
        cases stuck with
        | unflushed flushing flushed armed => exact flushRequest_vain flushed armed _ now repeats
        | written done => exact absurd done undone
        | full writing room armed =>
            rw [state] at writing
            cases writing
        | unfed writing phase going room item flushed =>
            rw [state] at writing
            cases writing
    | done => exact absurd state undone
  obtain ⟨waits, same, vain⟩ := again
  have whole : x.pollWrite lease now =
      ⟨(x.continueWrite connection.transport now).exchange,
        ⟨some { connection with
          transport := (x.continueWrite connection.transport now).resource }⟩,
        (x.continueWrite connection.transport now).actions, .pending⟩ := by
    unfold pollWrite writeOn
    rw [if_neg undone, held]
    dsimp only
    rw [waits]
  rw [whole]
  exact ⟨rfl, same, vain⟩

theorem readFrames_asks (x : Exchange) (empty : x.events = []) (s : σ) (h : Handler)
    (c : Completion) (now : Instant) :
    .receive (Transport.receive s).1 ∈ (x.readFrames s h c now).actions := by
  rw [readFrames]
  simp only [empty, Handler.deliver]
  split
  · simp
  · simp
  · simp
  · split
    · simp
    · split <;> simp [Step.after]

/-- Reading again, where nothing was received. -/
theorem pollRead_vain
    (drained : x.isReading = true →
      x.events = [] ∧ lastAnswer .frame before = some (.receive .pending))
    {lease : Lease σ} {connection : Connection σ} (held : lease.connection = some connection)
    (h : Handler) (c : Completion) (now : Instant)
    (repeats : Repeats before (x.pollRead lease h c now).actions) :
    (x.pollRead lease h c now).turn = .pending ∧ (x.pollRead lease h c now).exchange = x ∧
      Only Action.isVain (x.pollRead lease h c now).actions := by
  cases reads : x.isReading with
  | false =>
      unfold pollRead
      rw [if_neg (by simp [reads])]
      exact ⟨rfl, rfl, only_nil⟩
  | true =>
      obtain ⟨empty, known⟩ := drained reads
      have asks := x.readFrames_asks empty connection.transport h c now
      unfold pollRead readOn at repeats ⊢
      rw [if_pos reads, held] at repeats ⊢
      have nothing := Action.receive.inj (repeats.answer known asks rfl)
      simp only [readFrames_of_pending empty nothing]
      simp [Action.isVain]

/-- What the parts of a poll did is part of what the poll did. -/
theorem parts_subset_poll (x : Exchange) (lease : Lease σ) (h : Handler) (c : Completion)
    (now : Instant) :
    .control c.takeAbort.1 ∈ (x.poll lease h c now).actions ∧
      (c.takeAbort.1 = none →
        (x.pollWrite lease now).actions ⊆ (x.poll lease h c now).actions ∧
        ((x.pollWrite lease now).turn = .pending ∨ (x.pollWrite lease now).turn = .written →
          (x.reading lease h c now).actions ⊆ (x.poll lease h c now).actions)) := by
  have behind : (x.reading lease h c now).actions ⊆
      ((x.pollWrite lease now).exchange.pollAfterWrite (x.pollWrite lease now).resource h
        c.takeAbort.2 now).actions := by
    unfold reading pollAfterWrite
    dsimp only
    split
    · exact List.subset_append_left _ _
    · exact List.Subset.refl _
  unfold poll
  dsimp only
  cases unaborted : c.takeAbort.1 with
  | some abort => exact ⟨List.mem_cons_self, nofun⟩
  | none =>
      refine ⟨List.mem_cons_self, fun _ => ?_⟩
      refine ⟨List.Subset.trans ?_ (List.subset_append_right _ _), fun wrote =>
        List.Subset.trans ?_ (List.subset_append_right _ _)⟩
      · unfold pollParts
        dsimp only
        split
        · exact List.Subset.refl _
        · exact List.Subset.refl _
        all_goals exact List.subset_append_left _ _
      · unfold pollParts
        dsimp only
        rcases wrote with turn | turn <;> rw [turn] <;>
          exact List.Subset.trans behind (List.subset_append_right _ _)

/-- A poll of an exchange that stands changes nothing, as long as no timer is due. -/
theorem poll_vain (stands : x.Stands before) {lease : Lease σ} {connection : Connection σ}
    (held : lease.connection = some connection) (h : Handler) (c : Completion) (now : Instant)
    (undue : (x.idle.poll now).1 = none)
    (repeats : Repeats before (x.poll lease h c now).actions) :
    (x.poll lease h c now).turn = .pending ∧
      (∃ producer, (x.poll lease h c now).exchange = x.supply producer) ∧
      Only Action.isVain (x.poll lease h c now).actions := by
  obtain ⟨looked, parts⟩ := x.parts_subset_poll lease h c now
  have unaborted := Action.control.inj (repeats.answer stands.unaborted looked rfl)
  obtain ⟨writes, reads⟩ := parts unaborted
  obtain ⟨wrote, ⟨producer, supplied⟩, vain_writing⟩ :
      ((x.pollWrite lease now).turn = .pending ∨ (x.pollWrite lease now).turn = .written) ∧
        (∃ producer, (x.pollWrite lease now).exchange = x.supply producer) ∧
        Only Action.isVain (x.pollWrite lease now).actions := by
    by_cases done : x.writeState = .done
    · simp only [pollWrite, done, ↓reduceIte]
      exact ⟨.inr trivial, ⟨x.frames.body.producer, rfl⟩, only_nil⟩
    · obtain ⟨waits, same, vain⟩ :=
        pollWrite_vain stands.stuck done held now (repeats.of_subset writes)
      exact ⟨.inl waits, same, vain⟩
  obtain ⟨still, still_held, -⟩ := Option.map_eq_some_iff.mp
    ((x.pollWrite_lease lease now).trans (congrArg (Option.map Connection.bare) held))
  have repeats_reading := repeats.of_subset (reads wrote)
  obtain ⟨waits, same, vain_reading⟩ : (x.reading lease h c now).turn = .pending ∧
      (x.reading lease h c now).exchange = x.supply producer ∧
      Only Action.isVain (x.reading lease h c now).actions := by
    unfold reading at repeats_reading ⊢
    rw [supplied] at repeats_reading ⊢
    exact pollRead_vain (stands.supply producer).drained still_held h _ now repeats_reading
  have completes : x.Completes lease h c now := ⟨unaborted, wrote, waits⟩
  have checked : ((x.supply producer).idle.poll now) = (none, x.idle) :=
    Prod.ext undue (IdleWatch.poll_of_undue undue)
  rw [completes.poll_eq]
  simp only [Step.after, pollTimers, same, checked]
  refine ⟨trivial, ⟨producer, rfl⟩, ?_⟩
  simp [vain_writing, vain_reading, Action.isVain]

omit [Transport σ] in
/-- An exchange that a poll left waiting stands where the answers of this poll left it. -/
theorem Waits.stands {now : Instant} {waiting : List Action} (waits : x.Waits now waiting)
    (armed : stalled waiting = true → ∀ now, x.idle.armWrite now = x.idle)
    (earlier : List Action) : x.Stands (earlier ++ waiting) := by
  cases waits with
  | intro writing reading sends receives pauses drained unread undue =>
  -- reading answers no question but the one for a frame
  have behind {question : Question} (other : question ≠ .abort ∧ question ≠ .frame) :
      ∀ action ∈ reading ++ [.timerCheck none], action.question? ≠ some question := by
    intro action member
    have only : Only Action.isReading (reading ++ [.timerCheck none]) := by
      simp [receives.reading_of_receiving, Action.isReading]
    have kind := only action member
    cases action <;> first | (cases kind; done) | simp [Action.question?, other.2.symm]
  have last (question : Question) (other : question ≠ .abort ∧ question ≠ .frame)
      (answer : Action) (answers : answer.question? = some question) (front rest : List Action)
      (split : writing = front ++ answer :: rest)
      (silent : ∀ action ∈ rest, action.question? ≠ some question) :
      lastAnswer question (earlier ++ .control none :: (writing ++
        (reading ++ [.timerCheck none]))) = some answer := by
    have whole : earlier ++ .control none :: (writing ++ (reading ++ [.timerCheck none])) =
        (earlier ++ .control none :: front) ++
          answer :: (rest ++ (reading ++ [.timerCheck none])) := by
      rw [split]
      simp
    rw [whole]
    refine lastAnswer_append_cons answers _ fun action member => ?_
    exact (List.mem_append.mp member).elim (silent action) (behind other action)
  have held_back (answer : Action) (stall : answer.isStall = true) (member : answer ∈ writing) :
      ∀ now, x.idle.armWrite now = x.idle :=
    armed (List.any_eq_true.mpr ⟨answer,
      List.mem_cons_of_mem _ (List.mem_append_left _ member), stall⟩)
  refine ⟨?_, ?_, fun reads => ?_⟩
  · refine lastAnswer_append_cons rfl _ fun action member => ?_
    rw [List.mem_append, List.mem_append, List.mem_singleton] at member
    rcases member with writes | receives_it | rfl
    · have kind := sends action writes
      cases action <;> first | (cases kind; done) | simp [Action.question?]
    · have kind := receives action receives_it
      cases action <;> first | (cases kind; done) | simp [Action.question?]
    · simp [Action.question?]
  · by_cases done : x.writeState = .done
    · exact .written done
    · cases pauses done with
      | full front writing =>
          have room := last .room (by simp) (.ready .pending) rfl front [.timer .armWrite] rfl
            (by simp [Action.question?])
          exact .full writing room (held_back (.ready .pending) rfl (by simp))
      | unflushed front flushing =>
          have flush := last .flush (by simp) (.flush .pending) rfl front [.timer .armWrite] rfl
            (by simp [Action.question?])
          exact .unflushed flushing flush (held_back (.flush .pending) rfl (by simp))
      | unfed front skipped writing phase going flushed call answered =>
          have room := last .room (by simp) (.ready .done) rfl front _ rfl fun action member => by
            simp only [List.mem_append, List.mem_map, List.mem_cons, List.not_mem_nil,
              or_false] at member
            rcases member with ⟨answer, _, rfl⟩ | rfl | rfl | rfl <;> simp [Action.question?]
          have item := last .item (by simp) (.produced .pending) rfl
            (front ++ .ready .done :: skipped.map .produced) [.flush flushed, .timer call]
            (by simp) (by simp [Action.question?])
          have flush := last .flush (by simp) (.flush flushed) rfl
            (front ++ .ready .done :: (skipped.map .produced ++ [.produced .pending]))
            [.timer call] (by simp) (by simp [Action.question?])
          refine .unfed writing phase going room item ?_
          rcases answered with ⟨rfl, -, unarmed⟩ | ⟨rfl, -⟩
          · exact .inl ⟨flush, unarmed⟩
          · exact .inr ⟨flush, held_back (.flush .pending) rfl (by simp)⟩
  · obtain ⟨empty, front, rfl⟩ := drained reads
    refine ⟨empty, ?_⟩
    have whole : earlier ++ .control none :: (writing ++
          ((front ++ [.receive .pending]) ++ [.timerCheck none])) =
        (earlier ++ .control none :: (writing ++ front)) ++
          .receive .pending :: [.timerCheck none] := by simp
    rw [whole]
    exact lastAnswer_append_cons rfl _ (by simp [Action.question?])

end Again

end Exchange

end HttpExchange
