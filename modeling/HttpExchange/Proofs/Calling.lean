import HttpExchange.Proofs.Hearing

/-!
The calls that an exchange makes to its transport, in their order. A frame is handed over, and the
producer is asked for more, only when the last call was a question for room that was answered with
yes.
-/

namespace HttpExchange

open Trace

namespace Action

/-- The operations of a transport. -/
def isCall : Action → Bool
  | ready _ | write _ _ | flush _ | receive _ | close _ _ => true
  | _ => false

/-- What is done only if the transport has room. -/
def needsRoom : Action → Bool
  | write _ _ | produced _ => true
  | _ => false

/-- What does not end an exchange that is framed so: no failure, and not the end of the
response. -/
def isPassing (p : Pipeline) : Action → Bool
  | responseEnd => false
  | action => (action.failure? (.ok p)).isNone

end Action

namespace Trace

/-- The calls to the transport. -/
abbrev calls (trace : List Action) : List Action := trace.filter Action.isCall

theorem calls_append (first second : List Action) :
    calls (first ++ second) = calls first ++ calls second :=
  List.filter_append first second

/-- The answers of the producer are no calls. -/
theorem calls_asking (room : Readiness) {asked : List Action}
    (answers : ∀ action ∈ asked, ∃ answer, action = .produced answer) :
    calls (.ready room :: asked) = [.ready room] := by
  have quiet : calls asked = [] := by
    refine List.filter_eq_nil_iff.mpr fun action member => ?_
    obtain ⟨answer, rfl⟩ := answers action member
    simp [Action.isCall]
  calc calls (.ready room :: asked) = .ready room :: calls asked := rfl
    _ = [.ready room] := by rw [quiet]

/-- An action of a joined trace is one of the first part or one of the second. -/
theorem concat_isPrefix_append {front first second : List Action} {action : Action} :
    front ++ [action] <+: first ++ second ↔
      front ++ [action] <+: first ∨
        ∃ more, front = first ++ more ∧ more ++ [action] <+: second := by
  constructor
  · intro here
    rcases List.prefix_or_prefix_of_prefix here (List.prefix_append first second) with
      within | beyond
    · exact .inl within
    · rcases List.prefix_concat_iff.mp beyond with rfl | ⟨more, rfl⟩
      · exact .inl List.prefix_rfl
      · rw [List.append_assoc, List.prefix_append_right_inj] at here
        exact .inr ⟨more, rfl, here⟩
  · rintro (within | ⟨more, rfl, here⟩)
    · exact within.trans (List.prefix_append _ _)
    · rw [List.append_assoc, List.prefix_append_right_inj]
      exact here

/-- Whatever needs room is done when the last call was a question for it that was answered with
yes. -/
def Ordered (trace : List Action) : Prop :=
  ∀ front action, front ++ [action] <+: trace → action.needsRoom = true →
    (calls front).getLast? = some (.ready .done)

variable {first second trace : List Action}

theorem Ordered.append (h : Ordered first) (later : Ordered second) :
    Ordered (first ++ second) := by
  intro front action here needs
  rcases concat_isPrefix_append.mp here with within | ⟨more, rfl, beyond⟩
  · exact h front action within needs
  · rw [calls_append, List.getLast?_append, later more action beyond needs]
    rfl

/-- Off the wire no room is needed. -/
theorem Only.ordered (only : Only Action.isOffWire trace) : Ordered trace := by
  intro front action here needs
  have offWire := only action (here.subset (by simp))
  cases action with
  | write frame refusal | produced answer => cases offWire
  | _ => cases needs

theorem ordered_asking {room : Readiness} (ready : room = .done) (asked : List BodyAnswer) :
    Ordered (.ready room :: asked.map .produced) := by
  subst ready
  intro front action here needs
  cases front with
  | nil =>
      obtain ⟨rfl, -⟩ := List.cons_prefix_cons.mp here
      cases needs
  | cons head rest =>
      obtain ⟨rfl, within⟩ := List.cons_prefix_cons.mp here
      rw [calls_asking .done fun asking member => ?_]
      · rfl
      · obtain ⟨answer, -, rfl⟩ := List.mem_map.mp
          (within.subset (List.mem_append_left _ member))
        exact ⟨answer, rfl⟩

/-- The transport is handed a frame behind the question for room. -/
theorem ordered_offering {room : Readiness} (ready : room = .done) (asked : List BodyAnswer)
    (outbound : Outbound) (refusal : Option NetError) :
    Ordered (.ready room :: asked.map .produced ++ [.write outbound refusal]) := by
  intro front action here needs
  rcases List.prefix_concat_iff.mp here with whole | within
  · obtain ⟨rfl, -⟩ := List.append_inj' whole rfl
    subst ready
    rw [calls_asking .done (by simp)]
    rfl
  · exact ordered_asking ready asked front action within needs

end Trace

namespace Exchange

variable {σ : Type} [Transport σ]

theorem flushRequest_ordered (x : Exchange) (s : σ) (now : Instant) :
    Ordered (x.flushRequest s now).actions := by
  refine Only.ordered ?_
  simp only [flushRequest]
  split <;> simp [WriteStep.after, stall, Action.isOffWire]

theorem flushAccepted_ordered (x : Exchange) (s : σ) (now : Instant) :
    Ordered (x.flushAccepted s now).actions := by
  refine Only.ordered ?_
  simp only [flushAccepted]
  split <;> simp [WriteStep.after, stall, Action.isOffWire]

theorem writeFrames_ordered (x : Exchange) (s : σ) (now : Instant) :
    Ordered (x.writeFrames s now).actions := by
  have touching : Ordered [.timer .writeProgress] := Only.ordered (by simp [Action.isOffWire])
  fun_induction writeFrames x s now with
  | case1 => exact Only.ordered (by simp [Action.isOffWire])
  | case2 => exact Only.ordered (by simp [stall, WriteStep.after, Action.isOffWire])
  | case3 x s room ready => exact ordered_asking ready _
  | case4 x s room ready => exact (ordered_asking ready _).append (flushAccepted_ordered _ _ now)
  | case5 x s room ready => exact (ordered_asking ready _).append (flushRequest_ordered _ _ now)
  | case6 x s room ready =>
      rename_i ih
      exact (ordered_asking ready _).append ih
  | case7 x s room ready => exact ordered_offering ready _ _ _
  | case8 x s room ready => exact (ordered_offering ready _ _ _).append touching
  | case9 x s room ready =>
      rename_i ih
      exact ((ordered_offering ready _ _ _).append touching).append ih

theorem pollWrite_ordered (x : Exchange) (lease : Lease σ) (now : Instant) :
    Ordered (x.pollWrite lease now).actions := by
  have written : Ordered (x.writeOn lease now).actions := by
    unfold writeOn continueWrite
    split
    · exact Only.ordered only_nil
    · split
      · exact x.writeFrames_ordered _ now
      · exact x.flushRequest_ordered _ now
      · exact Only.ordered only_nil
  unfold pollWrite
  split
  · exact Only.ordered only_nil
  · dsimp only
    split
    · refine written.append (Only.ordered ?_)
      unfold requestWritten
      dsimp only
      split <;> simp [Action.isOffWire]
    · exact written

theorem poll_ordered (x : Exchange) (lease : Lease σ) (h : Handler) (c : Completion)
    (now : Instant) : Ordered (x.poll lease h c now).actions := by
  have looked (abort : Option Failure) : Ordered [.control abort] :=
    Only.ordered (by simp [Action.isOffWire])
  have writing := x.pollWrite_ordered lease now
  unfold poll
  dsimp only
  split
  · exact looked _
  · refine (looked none).append ?_
    unfold pollParts
    dsimp only
    split
    · exact writing
    · exact writing
    all_goals
      have reading := pollAfterWrite_reading (x.pollWrite lease now).exchange
        (x.pollWrite lease now).resource h c.takeAbort.2 now
      exact writing.append reading.offWire_of_reading.ordered

end Exchange

end HttpExchange
