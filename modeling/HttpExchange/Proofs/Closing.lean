import HttpExchange.Proofs.Calling
import HttpExchange.Proofs.Unwinding

/-!
The close of a connection. Behind its exchange an execution asks nothing of its connection but to
close, at every poll until it has answered, and whatever else happens asks nothing.
-/

namespace HttpExchange

open Trace

variable {σ : Type}

namespace Action

/-- What is done apart from any exchange: the pool, the handler's last callback and the future have
to do with it, and the transport has not. -/
def isAside : Action → Bool
  | acquire | leased _ | cancel _ | settle _ _ | release _ _ | log _ => true
  | callback made => made.isVerdict
  | _ => false

/-- What is done once an exchange is over, the closing included. -/
def isParting : Action → Bool
  | close _ _ => true
  | action => action.isAside

end Action

namespace Trace

/-- The connection is asked to close until it answers, and then no more. -/
def ClosesOnly (connection : ConnectionId) (trace : List Action) : Prop :=
  ∃ waits answered, calls trace = List.replicate waits (.close connection .pending) ++ answered ∧
    (answered = [] ∨ ∃ answer, answer ≠ .pending ∧ answered = [.close connection answer])

variable {trace : List Action}

theorem Only.calls_eq_nil (only : Only Action.isAside trace) : calls trace = [] := by
  refine List.filter_eq_nil_iff.mpr fun action member => ?_
  have aside := only action member
  cases action <;> first | (simp [Action.isCall]; done) | cases aside

theorem Only.parting_of_aside (only : Only Action.isAside trace) : Only Action.isParting trace :=
  only.mono fun action h => by cases action <;> first | rfl | exact h

theorem Only.aside_of_cancel (only : Only Action.isCancel trace) : Only Action.isAside trace :=
  only.mono fun action h => by cases action <;> first | rfl | cases h

theorem Only.offWire_of_parting (only : Only Action.isParting trace) :
    Only Action.isOffWire trace :=
  only.mono fun action h => by cases action <;> first | rfl | cases h

theorem Only.passing_of_parting {p : Pipeline} (only : Only Action.isParting trace) :
    Only (Action.isPassing p) trace :=
  only.mono fun action h => by cases action <;> first | rfl | cases h

theorem Only.unasked_of_parting (only : Only Action.isParting trace) (answer : Arrival) :
    .receive answer ∉ trace := by
  intro member
  cases only _ member

theorem closesOnly_of_uncalled {connection : ConnectionId} (uncalled : calls trace = []) :
    ClosesOnly connection trace :=
  ⟨0, [], uncalled, .inl rfl⟩

end Trace

namespace Execution

theorem leave_aside (e : Execution σ) (departure : Departure) (body : Option MeteredBody) :
    Only Action.isAside (e.leave departure body).2 := by
  unfold leave
  dsimp only
  split <;> simp [Action.isAside]

theorem conclude_aside (e : Execution σ) {callback : Callback} (result : Result)
    (body : Option MeteredBody) (last : callback.isVerdict = true) :
    Only Action.isAside (e.conclude callback result body).2 := by
  have called : Only Action.isAside (e.handler.call callback e.completion).actions := by
    unfold Handler.call
    dsimp only
    split <;> simp [Action.isAside, last]
  unfold conclude
  dsimp only
  split
  · exact (only_append _ _).mpr ⟨called, leave_aside _ .crashed body⟩
  · refine (only_append _ _).mpr ⟨?_, leave_aside _ .finished body⟩
    simp [called, Action.isAside]

theorem finish_aside (e : Execution σ) (ending : Ending) (body : Option MeteredBody) :
    Only Action.isAside (e.finish ending body).2 := by
  cases ending with
  | success => exact e.conclude_aside _ body rfl
  | failure message failure =>
      exact (only_append _ _).mpr ⟨by simp [Action.isAside], e.conclude_aside _ body rfl⟩

theorem dropLease_aside (e : Execution σ) (lease : Lease σ) (departure : Departure)
    (body : Option MeteredBody) : Only Action.isAside
      (((e.dropLease lease).1.leave departure body).after (e.dropLease lease).2).2 := by
  refine (only_append _ _).mpr ⟨?_, leave_aside _ departure body⟩
  unfold dropLease
  split <;> simp [Action.isAside, Run.after, release]

theorem drop_aside (e : Execution σ) : Only Action.isAside e.drop.2 := by
  unfold drop
  split
  · exact only_nil
  · exact leave_aside _ _ _
  · exact dropLease_aside e _ .dropped _
  · exact leave_aside _ _ _
  · exact only_nil

/-- Where the close of a connection stands after all that was done behind its exchange: it was
asked for and is not answered, or the task is gone. -/
inductive Closing (connection : ConnectionId) (later : List Action) : Stage σ → Prop where
  | asks (held : Connection σ) (ending : Ending) (body : Option MeteredBody)
      (same : held.id = connection) (waits : Nat)
      (asked : calls later = List.replicate (waits + 1) (.close connection .pending)) :
      Closing connection later (.closing held ending body)
  | gone (departure : Departure) (body : Option MeteredBody)
      (closes : ClosesOnly connection later) : Closing connection later (.gone departure body)

variable {connection : ConnectionId} {later more : List Action} {stage : Stage σ}

theorem Closing.closesOnly (h : Closing connection later stage) :
    ClosesOnly connection later := by
  cases h with
  | asks held ending body same waits asked =>
      exact ⟨waits + 1, [], by rw [asked, List.append_nil], .inl rfl⟩
  | gone departure body closes => exact closes

/-- What does not call the transport changes nothing. -/
theorem Closing.append (h : Closing connection later stage) (uncalled : calls more = []) :
    Closing connection (later ++ more) stage := by
  have same : calls (later ++ more) = calls later := by
    rw [calls_append, uncalled, List.append_nil]
  cases h with
  | asks held ending body same_id waits asked =>
      exact .asks held ending body same_id waits (same.trans asked)
  | gone departure body closes =>
      refine .gone departure body ?_
      unfold ClosesOnly
      rw [same]
      exact closes

variable [Transport σ]

/-- One poll asks for the close, behind polls that asked in vain. -/
theorem pollClose_closing (e : Execution σ) (held : Connection σ) (ending : Ending)
    (body : Option MeteredBody) {waits : Nat}
    (asked : calls later = List.replicate waits (.close held.id .pending)) :
    Only Action.isParting (e.pollClose held ending body).2 ∧
      Closing held.id (later ++ (e.pollClose held ending body).2)
        (e.pollClose held ending body).1.stage ∧
      calls (e.pollClose held ending body).2 = [.close held.id held.close.1] := by
  unfold pollClose
  dsimp only
  split
  · rename_i pending
    rw [pending]
    refine ⟨by simp [Action.isParting], .asks held.close.2 ending body rfl waits ?_, rfl⟩
    rw [calls_append, asked, List.replicate_succ']
    rfl
  · rename_i answered
    have finished := finish_aside (e.release held.close.2).1 ending body
    have released : Only Action.isAside (e.release held.close.2).2 := by
      simp [release, Action.isAside]
    have aside := (only_append _ _).mpr ⟨released, finished⟩
    have concluded := (finish_concludes (e.release held.close.2).1 ending body).ended
    obtain ⟨departure, left, gone⟩ := Stage.gone_of_ranToEnd concluded
    have called : calls (.close held.id held.close.1 :: ((e.release held.close.2).2 ++
        ((e.release held.close.2).1.finish ending body).2)) = [.close held.id held.close.1] :=
      congrArg (Action.close held.id held.close.1 :: ·) aside.calls_eq_nil
    refine ⟨(only_cons _ _).mpr ⟨rfl, aside.parting_of_aside⟩, ?_, called⟩
    rw [Run.after_fst, gone]
    refine .gone departure left ⟨waits, _, ?_, .inr ⟨held.close.1, answered, rfl⟩⟩
    rw [calls_append, asked]
    exact congrArg _ called

/-- The first poll that asks for the close. -/
theorem pollClose_begins (e : Execution σ) (held : Connection σ) (ending : Ending)
    (body : Option MeteredBody) (uncalled : calls later = []) :
    Only Action.isParting (e.pollClose held ending body).2 ∧
      Closing held.id (later ++ (e.pollClose held ending body).2)
        (e.pollClose held ending body).1.stage ∧
      calls (e.pollClose held ending body).2 = [.close held.id held.close.1] :=
  e.pollClose_closing held ending body
    (show calls later = List.replicate 0 (.close held.id .pending) from uncalled)

/-- What follows the last poll of an exchange is no part of it. -/
theorem endExchange_parting (e : Execution σ) (x : Exchange) (lease : Lease σ)
    (outcome : Outcome) : Only Action.isParting (e.endExchange x lease outcome).2 := by
  have closed : Only Action.isParting
      (e.closeLease lease (e.endingOf outcome) (some x.frames.body)).2 := by
    unfold closeLease
    split
    · exact (e.finish_aside _ _).parting_of_aside
    · exact (e.pollClose_begins _ _ _ (rfl : calls [] = [])).1
  unfold endExchange
  dsimp only
  split
  · refine Only.parting_of_aside ((only_append _ _).mpr ⟨?_, finish_aside _ _ _⟩)
    simp [release, Action.isAside]
  · exact closed

/-- Whatever happens, nothing but a poll asks again, and a task that is gone asks nothing. -/
theorem respond_closing (e : Execution σ) (h : Closing connection later e.stage)
    (stimulus : Stimulus σ) : Only Action.isParting (e.respond stimulus).2 ∧
      Closing connection (later ++ (e.respond stimulus).2) (e.respond stimulus).1.stage := by
  have aside (next : Run σ) (only : Only Action.isAside next.2)
      (closing : Closing connection later next.1.stage) :
      Only Action.isParting next.2 ∧ Closing connection (later ++ next.2) next.1.stage :=
    ⟨only.parting_of_aside, closing.append only.calls_eq_nil⟩
  cases stage : e.stage with
  | created | acquiring | exchanging _ _ =>
      rw [stage] at h
      cases h
  | gone departure body =>
      rw [stage] at h
      obtain ⟨⟨left, still_gone⟩, cancels, -⟩ := e.respond_gone stage stimulus
      refine aside _ cancels.aside_of_cancel ?_
      rw [still_gone]
      exact .gone departure left h.closesOnly
  | closing held ending body =>
      rw [stage] at h
      have closes := h.closesOnly
      cases h with
      | asks _ _ _ same waits asked =>
      cases stimulus with
      | poll now =>
          rw [← same] at asked ⊢
          obtain ⟨parting, closing, -⟩ := e.pollClose_closing held ending body asked
          simp only [respond, poll, stage]
          exact ⟨parting, closing⟩
      | drop =>
          refine aside e.drop e.drop_aside ?_
          obtain ⟨left, gone⟩ := (e.drop_dropping (by rw [stage]; rfl)).gone
          rw [gone]
          exact .gone .dropped left closes
      | answer given =>
          refine aside (e.answer given, []) only_nil ?_
          rw [answer_stage, stage]
          exact .asks held ending body same waits asked
      | cancel =>
          refine aside e.cancel (by simp [cancel, Action.isAside]) ?_
          change Closing connection later e.stage
          rw [stage]
          exact .asks held ending body same waits asked
      | transport id change =>
          refine aside (e.respond (.transport id change)) only_nil ?_
          simp only [respond, mapConnections, stage, Stage.mapConnection]
          refine .asks _ ending body ?_ waits asked
          exact (congrArg (·.id) (held.bare_changeTransport id change)).trans same
      | feed items close =>
          refine aside (e.respond (.feed items close)) only_nil ?_
          simp only [respond, stage, Stage.mapBody]
          exact .asks held ending _ same waits asked

/-- As long as the close is not answered, every poll asks for it, and for nothing else. -/
theorem Closing.poll {e : Execution σ} (h : Closing connection later e.stage)
    (present : e.stage.isGone = false) (now : Instant) :
    ∃ answer, calls (e.poll now).2 = [.close connection answer] := by
  cases stage : e.stage with
  | created | acquiring | exchanging _ _ =>
      rw [stage] at h
      cases h
  | gone departure body =>
      rw [stage] at present
      cases present
  | closing held ending body =>
      rw [stage] at h
      cases h with
      | asks _ _ _ same waits asked =>
      rw [← same] at asked ⊢
      obtain ⟨-, -, called⟩ := e.pollClose_closing held ending body asked
      simp only [Execution.poll, stage]
      exact ⟨held.close.1, called⟩

end Execution

end HttpExchange
