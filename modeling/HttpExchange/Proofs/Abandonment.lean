import HttpExchange.Proofs.Tallying

/-!
Whether the future of an execution is left without a result. What it yields is the one completion
or cancellation that won. The guard that completes it when the task goes away comes with the first
poll of the task. So a task that was polled leaves a future that yields something, however it goes
away, and one that is dropped before leaves its future to whoever cancels.
-/

namespace HttpExchange

open Trace

variable {σ : Type}

namespace Stage

/-- The task was not polled yet. -/
def isCreated : Stage σ → Bool
  | created => true
  | _ => false

theorem Alike.isCreated {stage other : Stage σ} (alike : stage.Alike other) :
    other.isCreated = stage.isCreated := by
  cases alike <;> rfl

end Stage

namespace Execution

/-- A task that was polled, or what is left of it: its guard completes the result when it goes
away. -/
structure Guarded (id : ExecutionId) (run : Run σ) : Prop where
  tally : run.1.completion.Tally id run.2
  awake : run.1.stage.isCreated = false
  left : run.1.stage.isGone = true →
    run.1.completion.isSettled = true ∧ ∃ won, Action.settle .abandoned won ∈ run.2

section Parts

variable {id : ExecutionId} {e : Execution σ} {trace : List Action}

/-- A task that is still there has its guard to come. -/
theorem Guarded.ofPresent {run : Run σ} (tally : run.1.completion.Tally id run.2)
    (awake : run.1.stage.isCreated = false) (present : run.1.stage.isGone = false) :
    Guarded id run where
  tally := tally
  awake := awake
  left gone := by
    rw [present] at gone
    cases gone

theorem leave_guarded (h : e.completion.Tally id trace) (departure : Departure)
    (body : Option MeteredBody) : Guarded id ((e.leave departure body).after trace) where
  tally := by
    unfold leave
    dsimp only
    split
    · have warned : results id [.log ⟨.warn, Failure.abandoned.text⟩] = [] := rfl
      have logged := (h.complete .abandoned).extend warned
      rw [List.append_assoc] at logged
      exact logged
    · exact h.complete .abandoned
  awake := rfl
  left _ := ⟨e.completion.complete_isSettled .abandoned, _,
    List.mem_append_right _ List.mem_cons_self⟩

theorem conclude_guarded (h : e.completion.Tally id trace) (callback : Callback) (result : Result)
    (body : Option MeteredBody) : Guarded id ((e.conclude callback result body).after trace) := by
  have called := h.call e.handler callback
  unfold conclude
  dsimp only
  split
  · rw [Run.after_after]
    exact leave_guarded called .crashed body
  · rw [Run.after_after, ← List.append_assoc]
    exact leave_guarded (called.complete result) .finished body

theorem finish_guarded (h : e.completion.Tally id trace) (ending : Ending)
    (body : Option MeteredBody) : Guarded id ((e.finish ending body).after trace) := by
  cases ending with
  | success => exact conclude_guarded h _ _ body
  | failure message failure =>
      unfold finish fail
      dsimp only
      rw [Run.after_after]
      exact conclude_guarded (h.extend rfl) _ _ body

theorem release_tally (h : e.completion.Tally id trace) (connection : Connection σ) :
    (e.release connection).1.completion.Tally id (trace ++ (e.release connection).2) :=
  h.detach.extend rfl

theorem dropLease_tally (h : e.completion.Tally id trace) (lease : Lease σ) :
    (e.dropLease lease).1.completion.Tally id (trace ++ (e.dropLease lease).2) := by
  unfold dropLease
  split
  · exact h.extend rfl
  · exact h.detach.extend rfl

theorem drop_guarded (h : e.completion.Tally id trace) (awake : e.stage.isCreated = false)
    (present : e.stage.isGone = false) : Guarded id (e.drop.after trace) := by
  have abandoned : e.abandonAcquisition.completion.Tally id trace := by
    unfold abandonAcquisition
    split <;> exact h
  unfold drop
  split
  · rename_i created
    rw [created] at awake
    cases awake
  · exact leave_guarded abandoned .dropped none
  · rename_i x lease stage
    rw [Run.after_after]
    exact leave_guarded (dropLease_tally h lease) .dropped (some x.frames.body)
  · rename_i connection _ body _
    have lost : ({ e with lost := e.lost ++ [connection] } : Execution σ).completion.Tally id
        trace := h
    exact leave_guarded lost .dropped body
  · rename_i gone
    rw [gone] at present
    cases present

variable [Transport σ]

theorem pollClose_guarded (h : e.completion.Tally id trace) (connection : Connection σ)
    (ending : Ending) (body : Option MeteredBody) :
    Guarded id ((e.pollClose connection ending body).after trace) := by
  unfold pollClose
  dsimp only
  split
  · exact .ofPresent (h.extend rfl) rfl rfl
  · rw [Run.after_after, List.append_cons]
    exact finish_guarded (release_tally (h.extend rfl) connection.close.2) ending body

theorem endExchange_guarded (h : e.completion.Tally id trace) (x : Exchange) (lease : Lease σ)
    (outcome : Outcome) : Guarded id ((e.endExchange x lease outcome).after trace) := by
  unfold endExchange
  dsimp only
  split
  · rename_i connection _ _
    rw [Run.after_after]
    exact finish_guarded (release_tally h connection) _ _
  · unfold closeLease
    split
    · exact finish_guarded h _ _
    · exact pollClose_guarded h _ _ _

theorem pollExchange_guarded (h : e.completion.Tally id trace) (x : Exchange) (lease : Lease σ)
    (now : Instant) : Guarded id ((e.pollExchange x lease now).after trace) := by
  have polled := h.poll x lease e.handler now
  have driven := e.pollExchange_drives x lease now
  generalize e.pollExchange x lease now = run at driven ⊢
  generalize x.poll lease e.handler e.completion now = step at *
  have next : ({ e with completion := step.completion } : Execution σ).completion.Tally id
      (trace ++ step.actions) := polled
  cases driven with
  | goesOn turn => exact .ofPresent polled rfl rfl
  | ends outcome turn =>
      rw [Run.after_after]
      exact endExchange_guarded next _ _ outcome
  | breaksOff turn =>
      rw [Run.after_after, ← List.append_assoc]
      exact leave_guarded (dropLease_tally next _) .crashed _

/-- The first poll brings the guard. -/
theorem poll_guarded (h : e.completion.Tally id trace) (present : e.stage.isGone = false)
    (now : Instant) : Guarded id ((e.poll now).after trace) := by
  have leased (connection : ConnectionId) {opening : List Action}
      (only : Only Action.isOpening opening) :
      e.leased.completion.Tally id (trace ++ .leased connection :: opening) := by
    refine h.attach.extend (only.filterMap_eq_nil fun action opens => ?_)
    cases action <;> first | rfl | cases opens
  have polled := e.poll_polls now
  generalize e.poll now = run at polled ⊢
  cases polled with
  | waits isWaiting unanswered => exact .ofPresent (h.extend rfl) rfl rfl
  | refused isWaiting error refused message =>
      have taken : ({ e with acquisition := .taken } : Execution σ).completion.Tally id
          (trace ++ [.refused error]) := h.extend rfl
      rw [Run.after_after]
      exact finish_guarded taken _ none
  | unframed isWaiting connection granted cause unknown =>
      rw [Run.after_after]
      exact pollClose_guarded (leased connection.id only_nil) _ _ none
  | begins isWaiting connection granted p framed x pipeline writeState frames events idle
      opening only =>
      rw [Run.after_after]
      exact pollExchange_guarded (leased connection.id only) x _ now
  | drives x lease stage => exact pollExchange_guarded h x lease now
  | closes connection ending body stage => exact pollClose_guarded h connection ending body
  | departed gone =>
      rw [present] at gone
      cases gone

end Parts

end Execution

namespace Stimulus

/-- What makes the guard of a task, and what takes away the task: whichever comes first decides
whether its future has a guard. -/
def wakes? : Stimulus σ → Option Bool
  | poll _ => some true
  | drop => some false
  | _ => none

def isCancel : Stimulus σ → Bool
  | cancel => true
  | _ => false

end Stimulus

/-- The task was polled before anything dropped it (`some true`), was dropped before it was polled
(`some false`), or was neither polled nor dropped. -/
def wakenedBy (history : List (Stimulus σ)) : Option Bool := history.findSome? Stimulus.wakes?

theorem wakenedBy_concat (history : List (Stimulus σ)) (stimulus : Stimulus σ) :
    wakenedBy (history ++ [stimulus]) = (wakenedBy history).or stimulus.wakes? := by
  simp [wakenedBy, List.findSome?_append]

namespace Execution

/-- What of an execution depends on whether its task was polled before it was dropped. A task that
was not has no part in the result; one that was has its guard. -/
structure Attended (id : ExecutionId) (history : List (Stimulus σ)) (run : Run σ) : Prop where
  tally : run.1.completion.Tally id run.2
  created : wakenedBy history = none → run.1.stage.isCreated = true
  gone : wakenedBy history = some false → run.1.stage.isGone = true
  guarded : wakenedBy history = some true → Guarded id run
  unguarded : wakenedBy history ≠ some true →
    run.1.completion.isSettled = history.any Stimulus.isCancel

namespace Attended

variable [Transport σ] {id : ExecutionId} {history : List (Stimulus σ)} {run : Run σ}

/-- What neither polls nor drops the task moves it nowhere, and settles its result only if it
cancels. -/
theorem respond_aside {e : Execution σ} {trace : List Action} {stimulus : Stimulus σ}
    (h : e.completion.Tally id trace) (aside : stimulus.wakes? = none) :
    (e.respond stimulus).1.completion.Tally id (trace ++ (e.respond stimulus).2) ∧
      (e.respond stimulus).1.completion.isSettled =
        (e.completion.isSettled || stimulus.isCancel) ∧
      (e.respond stimulus).1.stage.isCreated = e.stage.isCreated ∧
      (e.respond stimulus).1.stage.isGone = e.stage.isGone := by
  cases stimulus with
  | poll now => cases aside
  | drop => cases aside
  | answer given =>
      have completion : (e.respond (.answer given)).1.completion = e.completion :=
        e.answer_completion given
      have stage : (e.respond (.answer given)).1.stage = e.stage := e.answer_stage given
      rw [completion, stage]
      exact ⟨h.extend rfl, (Bool.or_false _).symm, rfl, rfl⟩
  | cancel =>
      exact ⟨h.cancel, e.completion.cancel_isSettled.trans (Bool.or_true _).symm, rfl, rfl⟩
  | transport connection change =>
      have alike := e.stage.alike_mapConnection (·.changeTransport connection change)
      exact ⟨h.extend rfl, (Bool.or_false _).symm, alike.isCreated, alike.isGone⟩
  | feed items close =>
      have alike := e.stage.alike_mapBody (·.feed items close)
      exact ⟨h.extend rfl, (Bool.or_false _).symm, alike.isCreated, alike.isGone⟩

theorem aside (h : Attended id history run) {stimulus : Stimulus σ}
    (aside : stimulus.wakes? = none) :
    Attended id (history ++ [stimulus]) ((run.1.respond stimulus).after run.2) := by
  obtain ⟨tally, settled, created, gone⟩ := respond_aside h.tally aside
  have same : wakenedBy (history ++ [stimulus]) = wakenedBy history := by
    rw [wakenedBy_concat, aside, Option.or_none]
  refine ⟨tally, ?_, ?_, ?_, ?_⟩ <;> rw [same]
  · exact fun asleep => created.trans (h.created asleep)
  · exact fun unpolled => gone.trans (h.gone unpolled)
  · intro polled
    have guarded := h.guarded polled
    refine ⟨tally, created.trans guarded.awake, fun left => ?_⟩
    obtain ⟨was_settled, won, member⟩ := guarded.left (gone.symm.trans left)
    exact ⟨settled.trans (by rw [was_settled, Bool.true_or]), won, List.mem_append_left _ member⟩
  · intro unpolled
    rw [Run.after_fst, settled, h.unguarded unpolled]
    simp

omit [Transport σ] in
theorem ofGuarded (polled : wakenedBy history = some true) (guarded : Guarded id run) :
    Attended id history run := by
  refine ⟨guarded.tally, ?_, ?_, fun _ => guarded, ?_⟩ <;> rw [polled]
  · rintro ⟨⟩
  · rintro ⟨⟩
  · exact fun unpolled => absurd rfl unpolled

/-- The first poll of a task, or its drop, decides. -/
theorem first (h : Attended id history run) (asleep : wakenedBy history = none)
    {stimulus : Stimulus σ} {polled : Bool} (wakes : stimulus.wakes? = some polled) :
    Attended id (history ++ [stimulus]) ((run.1.respond stimulus).after run.2) := by
  have now_known : wakenedBy (history ++ [stimulus]) = some polled := by
    rw [wakenedBy_concat, asleep, wakes]
    rfl
  have created := h.created asleep
  cases stimulus with
  | poll now =>
      cases wakes
      refine .ofGuarded now_known (poll_guarded h.tally ?_ now)
      cases stage : run.1.stage <;> rw [stage] at created <;> first | rfl | cases created
  | drop =>
      cases wakes
      have dropped : run.1.drop =
          ({ run.1.abandonAcquisition with stage := .gone .dropped none }, []) := by
        unfold drop
        split <;> rename_i stage <;> rw [stage] at created <;> first | rfl | cases created
      have same : run.1.abandonAcquisition.completion = run.1.completion := by
        unfold abandonAcquisition
        split <;> rfl
      rw [respond, dropped]
      refine ⟨?_, ?_, fun _ => rfl, ?_, fun _ => ?_⟩
      · change Completion.Tally id run.1.abandonAcquisition.completion (run.2 ++ [])
        rw [same]
        exact h.tally.extend rfl
      · rw [now_known]
        rintro ⟨⟩
      · rw [now_known]
        rintro ⟨⟩
      · change run.1.abandonAcquisition.completion.isSettled = _
        rw [same, h.unguarded (by rw [asleep]; rintro ⟨⟩)]
        simp [Stimulus.isCancel]
  | _ => cases wakes

/-- Once that is decided, only a task that was polled can still be there. -/
theorem later (h : Attended id history run) {decided : Bool}
    (known : wakenedBy history = some decided) {stimulus : Stimulus σ} {polled : Bool}
    (wakes : stimulus.wakes? = some polled) :
    Attended id (history ++ [stimulus]) ((run.1.respond stimulus).after run.2) := by
  have same : wakenedBy (history ++ [stimulus]) = wakenedBy history := by
    rw [wakenedBy_concat, known]
    rfl
  have silent : (history ++ [stimulus]).any Stimulus.isCancel = history.any Stimulus.isCancel := by
    cases stimulus <;> first | cases wakes; simp [Stimulus.isCancel] | cases wakes
  cases present : run.1.stage.isGone with
  | true =>
      have idle : run.1.respond stimulus = (run.1, []) := by
        cases stimulus with
        | poll now => exact poll_of_gone present now
        | drop => exact drop_of_gone _ present
        | _ => cases wakes
      have kept : (run.1.respond stimulus).after run.2 = run := by
        rw [idle]
        exact Prod.ext rfl (List.append_nil _)
      rw [kept]
      exact ⟨h.tally, by rw [same]; exact h.created, by rw [same]; exact h.gone,
        by rw [same]; exact h.guarded, by rw [same, silent]; exact h.unguarded⟩
  | false =>
      have was_polled : wakenedBy history = some true := by
        cases decided with
        | true => exact known
        | false => rw [h.gone known] at present; cases present
      refine .ofGuarded (same.trans was_polled) ?_
      cases stimulus with
      | poll now => exact poll_guarded h.tally present now
      | drop => exact drop_guarded h.tally (h.guarded was_polled).awake present
      | _ => cases wakes

theorem respond (h : Attended id history run) (stimulus : Stimulus σ) :
    Attended id (history ++ [stimulus]) ((run.1.respond stimulus).after run.2) := by
  cases wakes : stimulus.wakes? with
  | none => exact h.aside wakes
  | some polled =>
      cases known : wakenedBy history with
      | none => exact h.first known wakes
      | some decided => exact h.later known wakes

end Attended

variable [Transport σ]

theorem life_attended (id : ExecutionId) (request : Request) (timeouts : Timeouts)
    (handler : Handler) (acquisition : Acquisition σ) (history : List (Stimulus σ)) :
    Attended id history (life id request timeouts handler acquisition history) := by
  refine life_invariant id request timeouts handler acquisition (Attended id) ?_ ?_ history
  · exact ⟨Completion.fresh_tally id rfl, fun _ => rfl, nofun, nofun, fun _ => rfl⟩
  · exact fun past stimulus attended => attended.respond stimulus

/-- A future yields the one completion or cancellation that won. Once its task is gone it yields
something if and only if the task was polled before anything dropped it, or somebody cancelled;
in the first case the guard completed the result, in case nothing else had. -/
theorem vanished_task_resolves_iff (id : ExecutionId) (request : Request) (timeouts : Timeouts)
    (handler : Handler) (acquisition : Acquisition σ) (history : List (Stimulus σ)) :
    let run := life id request timeouts handler acquisition history
    let awaited := run.1.completion.await
    results id run.2 = awaited.toList ∧
      (run.1.stage.isGone = true →
        (awaited.isSome = true ↔
          wakenedBy history = some true ∨ history.any Stimulus.isCancel = true) ∧
        (wakenedBy history = some true → ∃ won, Action.settle .abandoned won ∈ run.2)) := by
  intro run awaited
  have attended := life_attended id request timeouts handler acquisition history
  have yields : awaited = run.1.completion.result := attended.tally.await
  rw [yields, ← attended.tally.settled]
  refine ⟨attended.tally.won, fun gone => ?_⟩
  by_cases polled : wakenedBy history = some true
  · obtain ⟨settled, completed⟩ := (attended.guarded polled).left gone
    exact ⟨⟨fun _ => .inl polled, fun _ => settled⟩, fun _ => completed⟩
  · refine ⟨?_, fun waken => absurd waken polled⟩
    rw [attended.unguarded polled, or_iff_right polled]

/-- A task that is dropped before its first poll leaves a future that yields nothing, whatever
comes later, unless somebody cancels. -/
theorem unpolled_task_never_resolves (id : ExecutionId) (request : Request) (timeouts : Timeouts)
    (handler : Handler) (acquisition : Acquisition σ) (later : List (Stimulus σ))
    (uncancelled : later.any Stimulus.isCancel = false) :
    let run := life id request timeouts handler acquisition (.drop :: later)
    run.1.stage.isGone = true ∧ run.1.completion.await = none := by
  intro run
  have attended := life_attended id request timeouts handler acquisition (.drop :: later)
  have unpolled : wakenedBy (.drop :: later) = some false := rfl
  have unsettled : run.1.completion.isSettled = false :=
    (attended.unguarded (by rw [unpolled]; exact nofun)).trans uncancelled
  have no_result : run.1.completion.result = none := by
    rw [← Option.not_isSome_iff_eq_none, ← attended.tally.settled, unsettled]
    exact Bool.false_ne_true
  exact ⟨attended.gone unpolled, attended.tally.await.trans no_result⟩

end Execution

end HttpExchange
