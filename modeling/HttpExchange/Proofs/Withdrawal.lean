import HttpExchange.Proofs.Settlement

/-!
What is left of an execution once a cancellation has won. Its future has failed with the
cancellation. The abort waits in the queue of the exchange, or is parked until there is one, and
the exchange finds it before it does anything else; so no frame is sent any more, nothing is
received, and nothing is delivered. All that is still asked of the transport is to close.
-/

namespace HttpExchange

open Trace

variable {σ : Type}

namespace Acquisition

/-- The pool granted a connection of a known protocol. -/
def IsFramed (start : Acquisition σ) (history : List (Stimulus σ)) : Prop :=
  ∃ connection p, start.answerBy history = some (.ok connection) ∧
    (Pipeline.configure connection).1 = .ok p

/-- The pool refused, or granted a connection of an unknown protocol. -/
def IsUnfit (start : Acquisition σ) (history : List (Stimulus σ)) : Prop :=
  ∃ answer, start.answerBy history = some answer ∧
    ∀ connection p, answer = .ok connection → (Pipeline.configure connection).1 ≠ .ok p

theorem IsFramed.append {start : Acquisition σ} {history : List (Stimulus σ)}
    (h : start.IsFramed history) (later : List (Stimulus σ)) :
    start.IsFramed (history ++ later) := by
  obtain ⟨connection, p, granted, framed⟩ := h
  exact ⟨connection, p, answerBy_append granted later, framed⟩

theorem IsUnfit.concat {start : Acquisition σ} {history : List (Stimulus σ)}
    (h : start.IsUnfit history) (stimulus : Stimulus σ) :
    start.IsUnfit (history ++ [stimulus]) := by
  obtain ⟨answer, known, unfit⟩ := h
  exact ⟨answer, answerBy_concat known stimulus, unfit⟩

theorem IsUnfit.not_isFramed {start : Acquisition σ} {history : List (Stimulus σ)}
    (h : start.IsUnfit history) : ¬start.IsFramed history := by
  rintro ⟨connection, p, granted, framed⟩
  obtain ⟨answer, known, unfit⟩ := h
  rw [granted] at known
  exact unfit connection p (Option.some.inj known).symm framed

end Acquisition

namespace Completion

variable {c : Completion}

theorem unsettled_of_won (won : c.cancel.1 = true) : c.isSettled = false := by
  by_contra settled
  simp [cancel, complete_of_settled (by simpa using settled)] at won

theorem cancel_yields (won : c.cancel.1 = true) :
    c.cancel.2.Yields (.failure c.cancellation.classify) := by
  have unsettled := unsettled_of_won won
  cases slot : c.slot <;> simp [Yields, cancel, complete_of_open unsettled, abort, slot]

/-- The abort of a cancellation that comes before the connection is parked. -/
theorem cancel_of_unleased (won : c.cancel.1 = true) (unleased : c.slot = .unleased) :
    c.cancel.2.slot = .parked c.cancellation ∧ c.cancel.2.queue = c.queue := by
  simp [cancel, complete_of_open (unsettled_of_won won), abort, unleased]

theorem cancel_of_leased (won : c.cancel.1 = true) (leased : c.slot = .leased) :
    c.cancel.2.queue = c.queue ++ [c.cancellation] := by
  simp [cancel, complete_of_open (unsettled_of_won won), abort, leased]

/-- All aborts of an execution are the same, so the queue begins with the one put at its end. -/
theorem queue_head {abort : Failure} {queue : List Failure}
    (same : ∀ other ∈ queue, other = abort) : ∃ rest, queue ++ [abort] = abort :: rest := by
  cases queue with
  | nil => exact ⟨[], rfl⟩
  | cons first rest =>
      rw [same first List.mem_cons_self]
      exact ⟨rest ++ [abort], rfl⟩

end Completion

namespace Execution

variable [Transport σ]

/-- An exchange that has an abort in its queue takes it and does nothing else. -/
theorem pollExchange_of_abort (e : Execution σ) (x : Exchange) {lease : Lease σ}
    {connection : Connection σ} (leased : lease.connection = some connection) {abort : Failure}
    {rest : List Failure} (queued : e.completion.queue = abort :: rest) (now : Instant) :
    ∃ (next : Execution σ) (message : String), e.pollExchange x lease now =
      (next.pollClose connection (.failure message abort) (some x.frames.body)).after
        [.control (some abort)] := by
  have taken : e.completion.takeAbort = (some abort, { e.completion with queue := rest }) := by
    simp [Completion.takeAbort, queued]
  refine ⟨{ e with completion := { e.completion with queue := rest } },
    "Request to " ++ e.uri ++ " was aborted", ?_⟩
  unfold pollExchange Exchange.poll
  rw [taken]
  dsimp only
  rw [endExchange_of_unfit _ _ leased (by simp)]
  rfl

/-- Where an execution stands after a cancellation that won, and what was done since. Either the
abort is still on its way, or it was taken, or it came to nothing because there was no exchange
to take it. -/
inductive Withdrawn (id : ExecutionId) (granting : Acquisition σ) (history : List (Stimulus σ))
    (run : Run σ) : Prop where
  | waits (isWaiting : run.1.stage.isWaiting = true) (settled : run.1.completion.isSettled = true)
      (parked : run.1.completion.slot = .parked (.cancelled id))
      (queued : ∀ abort ∈ run.1.completion.queue, abort = .cancelled id)
      (winds : ∀ connection, Winds connection [] [] [] run.2)
  | drives (x : Exchange) (lease : Lease σ) (connection : Connection σ) (rest : List Failure)
      (stage : run.1.stage = .exchanging x lease) (leased : lease.connection = some connection)
      (settled : run.1.completion.isSettled = true)
      (queued : run.1.completion.queue = .cancelled id :: rest)
      (winds : ∀ connection, Winds connection [] [] [] run.2)
  | aborts (connection : ConnectionId) (message : String)
      (unwinding : Unwinding connection (.failure message (.cancelled id)) run)
  | unframed (connection : ConnectionId) (ending : Ending)
      (unwinding : Unwinding connection ending run) (unfit : granting.IsUnfit history)
  | departed (departure : Departure) (body : Option MeteredBody)
      (stage : run.1.stage = .gone departure body) (unwinding : Only Action.isUnwinding run.2)
      (unfit : departure = .dropped ∨ granting.IsUnfit history)

namespace Withdrawn

variable {id : ExecutionId} {granting : Acquisition σ} {history : List (Stimulus σ)} {run : Run σ}

omit [Transport σ] in
theorem only (h : Withdrawn id granting history run) : Only Action.isUnwinding run.2 := by
  cases h with
  | waits _ _ _ _ winds | drives _ _ _ _ _ _ _ _ winds => exact (winds ⟨0⟩).unwinding
  | aborts _ _ unwinding | unframed _ _ unwinding _ => exact unwinding.only
  | departed _ _ _ unwinding _ => exact unwinding

/-- A task that looks for the pool's answer with an abort parked. -/
theorem pollWaiting (isWaiting : run.1.stage.isWaiting = true)
    (reflects : granting.Reflects history run.1.acquisition)
    (settled : run.1.completion.isSettled = true)
    (parked : run.1.completion.slot = .parked (.cancelled id))
    (queued : ∀ abort ∈ run.1.completion.queue, abort = .cancelled id)
    (winds : ∀ connection, Winds connection [] [] [] run.2) (now : Instant) :
    Withdrawn id granting (history ++ [.poll now]) ((run.1.poll now).after run.2) := by
  have polled := run.1.poll_polls now
  generalize run.1.poll now = next at polled ⊢
  cases polled with
  | waits isWaiting unanswered =>
      refine .waits rfl settled parked queued ?_
      rw [Run.after_snd, List.append_nil]
      exact winds
  | refused isWaiting error refused message =>
      rw [refused] at reflects
      have unfit : granting.IsUnfit (history ++ [.poll now]) :=
        Acquisition.IsUnfit.concat ⟨_, reflects, fun _ _ granted => by cases granted⟩ _
      have concluded := finish_concludes ({ run.1 with acquisition := .taken } : Execution σ)
        (.failure message (.lease error)) none
      obtain ⟨departure, body, gone⟩ := Stage.gone_of_ranToEnd concluded.ended
      exact .departed departure body gone ((only_append _ _).mpr ⟨(winds ⟨0⟩).unwinding,
        (only_cons _ _).mpr ⟨rfl, concluded.unwinding⟩⟩) (.inr unfit)
  | unframed isWaiting connection granted cause unknown =>
      rw [granted] at reflects
      obtain ⟨given, known, bare⟩ := reflects
      have same := Pipeline.configure_of_bare bare
      rw [unknown] at same
      have unfit : granting.IsUnfit history := by
        refine ⟨_, known, fun other p is_given framed => ?_⟩
        cases is_given
        rw [framed] at same
        cases same
      have unwinding := Unwinding.ofPollClose run.1.leased (Pipeline.configure connection).2
        (.failure cause.text cause) none
      have leased (id : ConnectionId) : Winds id [] [] [] [.leased connection.id] :=
        ⟨by simp [Action.isUnwinding], rfl, rfl, rfl⟩
      exact .unframed _ _ ((unwinding.after (by simp) (leased _)).after (by simp) (winds _))
        (unfit.concat _)
  | begins isWaiting connection granted p framed x pipeline writeState frames events idle
      opening only =>
      obtain ⟨rest, head⟩ := Completion.queue_head queued
      have delivered : run.1.leased.completion.queue = .cancelled id :: rest := by
        simp only [leased, Completion.attach, parked, head]
      have held : (⟨some (Pipeline.configure connection).2⟩ : Lease σ).connection =
          some (Pipeline.configure connection).2 := rfl
      obtain ⟨next, message, closing⟩ :=
        run.1.leased.pollExchange_of_abort x held delivered now
      have unwinding := Unwinding.ofPollClose next (Pipeline.configure connection).2
        (.failure message (.cancelled id)) (some x.frames.body)
      have took : Only Action.isUnwinding [.control (some (.cancelled id))] ∧
          Only Action.isMidway [.control (some (.cancelled id))] := by
        simp [Action.isUnwinding, Action.isMidway]
      have opened := Winds.ofMidway ((only_cons (.leased connection.id) _).mpr
        ⟨rfl, only.unwinding_of_opening⟩) ((only_cons _ _).mpr ⟨rfl, only.midway_of_opening⟩)
      rw [closing]
      exact .aborts _ message (((unwinding.after (by simp) (Winds.ofMidway took.1 took.2 _)).after
        (by simp) (opened _)).after (by simp) (winds _))
  | drives x lease stage =>
      rw [stage] at isWaiting
      cases isWaiting
  | closes connection ending body stage =>
      rw [stage] at isWaiting
      cases isWaiting
  | departed gone =>
      rw [Stage.present_of_waiting isWaiting] at gone
      cases gone

omit [Transport σ] in
/-- A task that is dropped with the abort on its way takes it along. -/
theorem ofDrop (present : run.1.stage.isGone = false)
    (winds : ∀ connection, Winds connection [] [] [] run.2) :
    Withdrawn id granting (history ++ [.drop]) (run.1.drop.after run.2) := by
  obtain ⟨body, gone⟩ := (run.1.drop_dropping present).gone
  exact .departed .dropped body gone
    ((only_append _ _).mpr ⟨(winds ⟨0⟩).unwinding, run.1.drop_unwinding⟩) (.inl rfl)

/-- Every stimulus leaves the abort where it is or brings it further. -/
theorem respond (h : Withdrawn id granting history run)
    (reflects : granting.Reflects history run.1.acquisition) (stimulus : Stimulus σ) :
    Withdrawn id granting (history ++ [stimulus])
      ((run.1.respond stimulus).after run.2) := by
  cases h with
  | aborts connection message unwinding =>
      exact .aborts connection message (unwinding.respond stimulus)
  | unframed connection ending unwinding unfit =>
      exact .unframed connection ending (unwinding.respond stimulus) (unfit.concat stimulus)
  | departed departure body stage unwinding unfit =>
      obtain ⟨⟨left, still_gone⟩, cancels, _⟩ := run.1.respond_gone stage stimulus
      exact .departed departure left still_gone
        ((only_append _ _).mpr ⟨unwinding, cancels.unwinding_of_cancel⟩)
        (unfit.imp_right fun unfit => unfit.concat stimulus)
  | waits isWaiting settled parked queued winds =>
      rcases run.1.respond_waiting isWaiting stimulus with
        ⟨now, rfl⟩ | rfl | ⟨waiting, cancels, moved⟩
      · exact pollWaiting isWaiting reflects settled parked queued winds now
      · exact ofDrop (Stage.present_of_waiting isWaiting) winds
      · have same := Completion.same_of_settled settled moved
        exact .waits waiting (same ▸ settled) (same ▸ parked) (same ▸ queued)
          fun connection => (winds connection).append (.ofCancel cancels connection)
  | drives x lease connection rest stage leased settled queued winds =>
      rcases run.1.respond_exchanging stage stimulus with
        ⟨now, rfl⟩ | rfl | ⟨⟨y, lease, stays, bare, _⟩, cancels, moved⟩
      · obtain ⟨next, message, closing⟩ := run.1.pollExchange_of_abort x leased queued now
        have unwinding := Unwinding.ofPollClose next connection
          (.failure message (.cancelled id)) (some x.frames.body)
        have took : Only Action.isUnwinding [.control (some (.cancelled id))] ∧
            Only Action.isMidway [.control (some (.cancelled id))] := by
          simp [Action.isUnwinding, Action.isMidway]
        simp only [Execution.respond, Execution.poll, stage, closing]
        exact .aborts _ message ((unwinding.after (by simp)
          (Winds.ofMidway took.1 took.2 _)).after (by simp) (winds _))
      · exact ofDrop (by rw [stage]; rfl) winds
      · have same := Completion.same_of_settled settled moved
        rw [leased] at bare
        obtain ⟨held, still_leased, _⟩ := Option.map_eq_some_iff.mp bare
        exact .drives y lease held rest stays still_leased (same ▸ settled) (same ▸ queued)
          fun connection => (winds connection).append (.ofCancel cancels connection)

omit [Transport σ] in
/-- If there was an exchange to take the abort, the cancellation is what the handler was told by
the time the task has run to its end. -/
theorem of_ranToEnd (h : Withdrawn id granting history run) (framed : granting.IsFramed history)
    (ended : run.1.stage.ranToEnd = true) : ∃ connection, releases run.2 = [(connection, false)] ∧
      verdicts run.2 = [.failed (Failure.cancelled id).classify] := by
  obtain ⟨departure, body, gone⟩ := Stage.gone_of_ranToEnd ended
  cases h with
  | aborts connection message unwinding => exact ⟨connection, unwinding.of_ranToEnd ended⟩
  | waits isWaiting _ _ _ _ =>
      rw [gone] at isWaiting
      cases isWaiting
  | drives x lease connection rest stage _ _ _ _ =>
      rw [gone] at stage
      cases stage
  | unframed connection ending unwinding unfit => exact absurd framed unfit.not_isFramed
  | departed departure body stage unwinding unfit =>
      rcases unfit with dropped | unfit
      · rw [stage, dropped] at ended
        cases ended
      · exact absurd framed unfit.not_isFramed

end Withdrawn

namespace Transmission

variable {granting : Acquisition σ} {request : Request} {script : List BodyItem}
  {history : List (Stimulus σ)} {run : Run σ}

omit [Transport σ] in
/-- Until the task has its connection, nothing is sent. -/
theorem offered_of_waiting (h : Transmission granting request script history run)
    (isWaiting : run.1.stage.isWaiting = true) : offered run.2 = [] := by
  cases h with
  | idle bodiless offWire unfed => exact offWire.offered_eq_nil
  | begun connection p granted framed transmits =>
      cases stage : run.1.stage with
      | created | acquiring =>
          rw [stage] at transmits
          exact transmits.elim
      | _ =>
          rw [stage] at isWaiting
          cases isWaiting

omit [Transport σ] in
/-- An exchange that is driven has a known protocol. -/
theorem isFramed_of_exchanging (h : Transmission granting request script history run)
    (exchanging : run.1.stage.isExchanging = true) : granting.IsFramed history := by
  cases h with
  | begun connection p granted framed transmits => exact ⟨connection, p, granted, framed⟩
  | idle bodiless offWire unfed =>
      cases stage : run.1.stage with
      | exchanging x lease =>
          rw [stage] at bodiless
          cases bodiless
      | _ =>
          rw [stage] at exchanging
          cases exchanging

end Transmission

section Life

variable (id : ExecutionId) (request : Request) (timeouts : Timeouts) (handler : Handler)
  (acquisition : Acquisition σ)

/-- A cancellation that wins while the task waits for its connection or drives its exchange
sends the abort on its way. -/
theorem withdrawn_of_cancel {past : List (Stimulus σ)}
    (won : (life id request timeouts handler acquisition past).1.completion.cancel.1 = true)
    (on_way : (life id request timeouts handler acquisition past).1.stage.isWaiting = true ∨
      (life id request timeouts handler acquisition past).1.stage.isExchanging = true) :
    Withdrawn id acquisition (past ++ [.cancel])
      ((life id request timeouts handler acquisition past).1.cancel.1, []) := by
  have reckoned := life_reckoning id request timeouts handler acquisition past
  have employs := life_employs id request timeouts handler acquisition past
  generalize life id request timeouts handler acquisition past = before at *
  have unsettled := Completion.unsettled_of_won won
  have attached := reckoned.attached
  obtain ⟨settled, _⟩ := Completion.cancel_yields won
  cases stage : before.1.stage with
  | created | acquiring =>
      have candid := reckoned.candid (by rw [stage]; rfl)
      have own : before.1.completion.cancellation = .cancelled id :=
        congrArg Failure.cancelled candid.execution
      rw [stage] at attached
      have unleased : before.1.completion.slot = .unleased :=
        attached.resolve_right (by simp [unsettled])
      obtain ⟨parked, queue⟩ := Completion.cancel_of_unleased won unleased
      rw [own] at parked
      refine .waits (by simp [cancel, stage, Stage.isWaiting]) settled parked ?_ winds_nil
      intro abort member
      exact candid.queued abort (queue ▸ member)
  | exchanging x lease =>
      have candid := reckoned.candid (by rw [stage]; rfl)
      have own : before.1.completion.cancellation = .cancelled id :=
        congrArg Failure.cancelled candid.execution
      rw [stage] at attached employs
      obtain ⟨connection, _, leased, _, _⟩ := employs
      obtain ⟨rest, head⟩ := Completion.queue_head candid.queued
      have queued := Completion.cancel_of_leased won attached
      rw [own, head] at queued
      exact .drives x lease connection rest stage leased settled queued winds_nil
  | closing _ _ _ | gone _ _ =>
      rw [stage] at on_way
      rcases on_way with waiting | exchanging
      · cases waiting
      · cases exchanging

theorem life_withdrawn {past : List (Stimulus σ)}
    (won : (life id request timeouts handler acquisition past).1.completion.cancel.1 = true)
    (on_way : (life id request timeouts handler acquisition past).1.stage.isWaiting = true ∨
      (life id request timeouts handler acquisition past).1.stage.isExchanging = true)
    (later : List (Stimulus σ)) :
    Withdrawn id acquisition (past ++ .cancel :: later)
      ((life id request timeouts handler acquisition past).1.cancel.1.play later) := by
  induction later using List.reverseRecOn with
  | nil => exact withdrawn_of_cancel id request timeouts handler acquisition won on_way
  | append_singleton later stimulus ih =>
      have custody := life_custody id request timeouts handler acquisition
        (past ++ .cancel :: later)
      rw [life_append] at custody
      have next := ih.respond custody.reflects stimulus
      have same : past ++ .cancel :: (later ++ [stimulus]) =
          past ++ .cancel :: later ++ [stimulus] := by simp
      rw [same, play_append]
      simp only [play, Run.after, List.append_nil] at next ⊢
      exact next

/-- Whenever the cancellation wins, only winding up is left. -/
theorem life_cancel_unwinding {past : List (Stimulus σ)}
    (won : (life id request timeouts handler acquisition past).1.completion.cancel.1 = true)
    (later : List (Stimulus σ)) : Only Action.isUnwinding
      ((life id request timeouts handler acquisition past).1.cancel.1.play later).2 := by
  have withdrawn := life_withdrawn id request timeouts handler acquisition won
  generalize life id request timeouts handler acquisition past = before at *
  cases stage : before.1.stage with
  | created | acquiring => exact (withdrawn (.inl (congrArg Stage.isWaiting stage)) later).only
  | exchanging x lease => exact (withdrawn (.inr (congrArg Stage.isExchanging stage)) later).only
  | closing held ending body =>
      have unwinding : Unwinding held.id ending (before.1.cancel.1, []) :=
        .waiting held body [] rfl stage (by simp) (winds_nil _)
      exact (unwinding.play later).only
  | gone departure body =>
      exact (before.1.cancel.1.play_departed stage later).2.unwinding_of_cancel

/-- Up to the end of the exchange nothing was handed back and the handler has not heard of an
end. -/
theorem life_on_way {past : List (Stimulus σ)}
    (on_way : (life id request timeouts handler acquisition past).1.stage.isWaiting = true ∨
      (life id request timeouts handler acquisition past).1.stage.isExchanging = true) :
    releases (life id request timeouts handler acquisition past).2 = [] ∧
      verdicts (life id request timeouts handler acquisition past).2 = [] := by
  have custody := life_custody id request timeouts handler acquisition past
  have employs := life_employs id request timeouts handler acquisition past
  have reckoned := life_reckoning id request timeouts handler acquisition past
  generalize life id request timeouts handler acquisition past = run at *
  have silent := reckoned.silent
  cases stage : run.1.stage with
  | created | acquiring =>
      rw [stage] at silent
      exact ⟨(custody.waiting (congrArg Stage.isWaiting stage)).2, silent rfl⟩
  | exchanging x lease =>
      rw [stage] at silent
      exact ⟨exchanging_unreleased custody employs stage, silent rfl⟩
  | closing _ _ _ | gone _ _ =>
      rw [stage] at on_way
      rcases on_way with waiting | exchanging
      · cases waiting
      · cases exchanging

theorem life_cancel (past later : List (Stimulus σ)) :
    life id request timeouts handler acquisition (past ++ .cancel :: later) =
      (((life id request timeouts handler acquisition past).1.cancel.1.play later).after
        [.cancel (life id request timeouts handler acquisition past).1.completion.cancel.1]).after
          (life id request timeouts handler acquisition past).2 :=
  life_append id request timeouts handler acquisition past (.cancel :: later)

/-- By the time the task has run to its end, a cancellation on the way to an exchange of a known
protocol is all that the handler heard of the end, and the connection was closed. -/
theorem life_withdrawn_told {past later : List (Stimulus σ)}
    (won : (life id request timeouts handler acquisition past).1.completion.cancel.1 = true)
    (on_way : (life id request timeouts handler acquisition past).1.stage.isWaiting = true ∨
      (life id request timeouts handler acquisition past).1.stage.isExchanging = true)
    (framed : acquisition.IsFramed (past ++ .cancel :: later))
    (ended : (life id request timeouts handler acquisition
      (past ++ .cancel :: later)).1.stage.ranToEnd = true) :
    let run := life id request timeouts handler acquisition (past ++ .cancel :: later)
    ∃ connection, leases run.2 = [connection] ∧ releases run.2 = [(connection, false)] ∧
      verdicts run.2 = [.failed (Failure.cancelled id).classify] := by
  have withdrawn := life_withdrawn id request timeouts handler acquisition won on_way later
  have nothing_before := life_on_way id request timeouts handler acquisition on_way
  have custody := life_custody id request timeouts handler acquisition (past ++ .cancel :: later)
  obtain ⟨lent, handed⟩ := custody.of_ranToEnd ended
  rw [← lent] at handed
  rw [life_cancel] at ended handed ⊢
  generalize life id request timeouts handler acquisition past = before at *
  obtain ⟨unreleased, untold⟩ := nothing_before
  obtain ⟨connection, released, told⟩ := withdrawn.of_ranToEnd framed ended
  have all_released : releases (((before.1.cancel.1.play later).after
      [.cancel before.1.completion.cancel.1]).after before.2).2 = [(connection, false)] := by
    rw [Run.after_snd, releases_append, unreleased]
    exact released
  refine ⟨connection, ?_, all_released, ?_⟩
  · rw [← handed, all_released]
    rfl
  · rw [Run.after_snd, verdicts_append, untold]
    exact told

/-- From a cancellation that wins between two polls on, the future yields the cancellation, and
of all an execution can ask of its transport it asks it only to close: no frame is sent, nothing
is received, the body is not asked for more, and nothing is delivered. If the connection was not
leased by then, no frame was sent at all. If the exchange was under way by then, or begins later,
then by the time the task has run to its end its connection was handed back as closed, and the
handler's one verdict is the cancellation. -/
theorem cancellation_withdraws (past later : List (Stimulus σ))
    (won : (life id request timeouts handler acquisition past).1.completion.cancel.1 = true) :
    let before := life id request timeouts handler acquisition past
    let since := before.1.cancel.1.play later
    let run := life id request timeouts handler acquisition (past ++ .cancel :: later)
    run.1.completion.await = some (.failure (Failure.cancelled id).classify) ∧
    Only Action.isUnwinding since.2 ∧
    (before.1.stage.isWaiting = true → offered run.2 = []) ∧
    (before.1.stage.isExchanging = true ∨
        before.1.stage.isWaiting = true ∧ acquisition.IsFramed (past ++ .cancel :: later) →
      run.1.stage.ranToEnd = true → ∃ connection, leases run.2 = [connection] ∧
        releases run.2 = [(connection, false)] ∧
        verdicts run.2 = [.failed (Failure.cancelled id).classify]) := by
  intro before since run
  have run_eq : run = (since.after [.cancel before.1.completion.cancel.1]).after before.2 :=
    life_cancel id request timeouts handler acquisition past later
  have only : Only Action.isUnwinding since.2 :=
    life_cancel_unwinding id request timeouts handler acquisition won later
  have transmission := life_transmission id request timeouts handler acquisition past
  refine ⟨?_, only, ?_, ?_⟩
  · have own : before.1.completion.cancellation = .cancelled id :=
      congrArg Failure.cancelled (life_execution id request timeouts handler acquisition past)
    have yields := Completion.cancel_yields won
    rw [own] at yields
    rw [run_eq]
    exact (play_keeps (Completion.yields_lasting _) yields later).await
  · intro isWaiting
    have none_before : offered before.2 = [] := transmission.offered_of_waiting isWaiting
    have none_since : offered since.2 = [] :=
      only.filterMap_eq_nil fun action h => by cases action <;> first | rfl | cases h
    simp only [run_eq, Run.after_snd, offered_append, none_before, none_since]
    rfl
  · intro begun ended
    have on_way := begun.symm.imp_left And.left
    have framed : acquisition.IsFramed (past ++ .cancel :: later) := by
      rcases begun with exchanging | ⟨_, framed⟩
      · exact (transmission.isFramed_of_exchanging exchanging).append _
      · exact framed
    exact life_withdrawn_told id request timeouts handler acquisition won on_way framed ended

end Life

/-- A plain exchange that is cancelled while it waits for its response. -/
theorem cancellation_withdraws_reading :
    let later : List (Stimulus Bench.Wire) :=
      [.poll ⟨0⟩, .transport ⟨7⟩ fun wire => { wire with holdsClose := false }, .poll ⟨0⟩]
    let run := Bench.plainLife (.poll ⟨0⟩ :: .cancel :: later)
    run.1.completion.await = some (.failure (Failure.cancelled 1).classify) ∧
      run.1.stage.ranToEnd = true ∧ ∃ connection, leases run.2 = [connection] ∧
        releases run.2 = [(connection, false)] ∧
        verdicts run.2 = [.failed (Failure.cancelled 1).classify] := by
  intro later run
  have ended : run.1.stage.ranToEnd = true := by decide +kernel
  obtain ⟨yields, _, _, told⟩ := cancellation_withdraws 1 Bench.plainRequest .standard .quiet
    (.granted Bench.stickyConnection) [.poll ⟨0⟩] later (by decide +kernel)
  exact ⟨yields, ended, told (.inl (by decide +kernel)) ended⟩

end Execution

end HttpExchange
