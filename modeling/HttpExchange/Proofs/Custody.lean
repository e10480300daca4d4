import HttpExchange.Proofs.Account

/-!
Who has the connection of an execution. Once the task took the pool's answer, the connection
that was granted is in the task or was handed back, and never both; so it is handed back
exactly once by the time the task has run to its end. A task that is dropped hands back the
connection it holds, closed, unless it is waiting for that very connection to close.
-/

namespace HttpExchange

open Trace

variable {σ : Type}

namespace Execution

/-- How the pool and an execution stand. Nothing was lent before the task took the pool's
answer, and then all that was granted; what was lent is with the pool again or in the task. -/
structure Custody (granting : Acquisition σ) (setting : Request × Timeouts × Handler)
    (history : List (Stimulus σ)) (run : Run σ) : Prop where
  setting : run.1.setting = setting
  reflects : granting.Reflects history run.1.acquisition
  returned : run.1.returned.map Connection.receipt = releases run.2
  waiting : run.1.stage.isWaiting = true → leases run.2 = [] ∧ releases run.2 = []
  underway : run.1.stage.isUnderway = true → granting.answerBy history ≠ none ∧
    leases run.2 = granting.grantedBy history ∧
    (releases run.2).map Prod.fst ++ run.1.stage.held = granting.grantedBy history
  lent : leases run.2 <+: granting.grantedBy history
  handedBack : (releases run.2).map Prod.fst <+: leases run.2

namespace Custody

variable {granting : Acquisition σ} {setting : Request × Timeouts × Handler}
  {history : List (Stimulus σ)} {run : Run σ}

/-- Once the task took the answer, the custody is a balance. -/
theorem ofUnderway (setting_eq : run.1.setting = setting)
    (reflects : granting.Reflects history run.1.acquisition)
    (returned : run.1.returned.map Connection.receipt = releases run.2)
    (isUnderway : run.1.stage.isUnderway = true) (answered : granting.answerBy history ≠ none)
    (lent : leases run.2 = granting.grantedBy history)
    (balance : (releases run.2).map Prod.fst ++ run.1.stage.held = granting.grantedBy history) :
    Custody granting setting history run where
  setting := setting_eq
  reflects := reflects
  returned := returned
  waiting := by
    intro isWaiting
    cases stage : run.1.stage <;> simp_all [Stage.isUnderway, Stage.isWaiting]
  underway _ := ⟨answered, lent, balance⟩
  lent := by rw [lent]
  handedBack := by
    rw [lent, ← balance]
    exact List.prefix_append _ _

/-- A task that has not taken the answer yet lent nothing, so whatever it now accounts for is
all there is. -/
theorem ofWaiting (h : Custody granting setting history run)
    (isWaiting : run.1.stage.isWaiting = true) {e : Execution σ} {next : Run σ}
    {stimulus : Stimulus σ} {opening : List Action}
    (accounts : AccountsFor e (granting.grantedBy history) next)
    (setting_eq : e.setting = run.1.setting) (returned_eq : e.returned = run.1.returned)
    (taken : e.acquisition = .taken) (answered : granting.answerBy history ≠ none)
    (lent : leases opening = granting.grantedBy history) (kept : releases opening = []) :
    Custody granting setting (history ++ [stimulus]) ((next.after opening).after run.2) := by
  obtain ⟨none_lent, none_released⟩ := h.waiting isWaiting
  have granted := Acquisition.grantedBy_concat answered stimulus
  have balance := accounts.balance
  apply ofUnderway
  · exact accounts.setting.trans (setting_eq.trans h.setting)
  · simp [accounts.acquisition, taken, Acquisition.Reflects]
  · have before : run.1.returned.map Connection.receipt = [] := h.returned.trans none_released
    have returned := accounts.returned
    rw [returned_eq, before, List.nil_append] at returned
    simp only [Run.after_fst, Run.after_snd, releases_append, none_released, kept,
      List.nil_append]
    exact returned
  · exact accounts.underway
  · obtain ⟨answer, known⟩ := Option.ne_none_iff_exists'.mp answered
    simp [Acquisition.answerBy_concat known]
  · simp only [Run.after_snd, leases_append, none_lent, lent, accounts.leases, granted,
      List.nil_append, List.append_nil]
  · simp only [Run.after_fst, Run.after_snd, releases_append, none_released, kept,
      List.nil_append]
    rw [granted, balance]

/-- What neither lends nor hands back anything keeps the custody, if it leaves the connection
where it was or the task is no longer underway. -/
theorem quiet (h : Custody granting setting history run) {next : Run σ} {stimulus : Stimulus σ}
    (setting_eq : next.1.setting = run.1.setting)
    (reflects : granting.Reflects (history ++ [stimulus]) next.1.acquisition)
    (returned : next.1.returned.map Connection.receipt = run.1.returned.map Connection.receipt)
    (noLease : leases next.2 = []) (noRelease : releases next.2 = [])
    (waiting : next.1.stage.isWaiting = true → run.1.stage.isWaiting = true)
    (underway : next.1.stage.isUnderway = true →
      run.1.stage.isUnderway = true ∧ next.1.stage.held = run.1.stage.held) :
    Custody granting setting (history ++ [stimulus]) (next.after run.2) where
  setting := setting_eq.trans h.setting
  reflects := reflects
  returned := by
    rw [Run.after_snd, releases_append, noRelease, List.append_nil, ← h.returned]
    exact returned
  waiting isWaiting := by
    rw [Run.after_snd, leases_append, releases_append, noLease, noRelease, List.append_nil,
      List.append_nil]
    exact h.waiting (waiting isWaiting)
  underway isUnderway := by
    obtain ⟨was_underway, held⟩ := underway isUnderway
    obtain ⟨answered, lent, balance⟩ := h.underway was_underway
    have granted := Acquisition.grantedBy_concat answered stimulus
    rw [Run.after_snd, leases_append, releases_append, noLease, noRelease, List.append_nil,
      List.append_nil, granted, Run.after_fst, held]
    obtain ⟨answer, known⟩ := Option.ne_none_iff_exists'.mp answered
    exact ⟨by simp [Acquisition.answerBy_concat known], lent, balance⟩
  lent := by
    rw [Run.after_snd, leases_append, noLease, List.append_nil]
    exact h.lent.trans (Acquisition.grantedBy_isPrefix_concat _ _ _)
  handedBack := by
    rw [Run.after_snd, leases_append, releases_append, noLease, noRelease, List.append_nil,
      List.append_nil]
    exact h.handedBack

/-- Looking for the pool's answer takes it, if it is there. -/
theorem pollAcquire [Transport σ] (h : Custody granting setting history run)
    (isWaiting : run.1.stage.isWaiting = true) (now : Instant) :
    Custody granting setting (history ++ [.poll now])
      ((run.1.pollAcquire now).after run.2) := by
  have reflects := h.reflects
  cases acquisition : run.1.acquisition with
  | waiting | taken =>
      rw [pollAcquire_of_unanswered (by simp [acquisition])]
      refine h.quiet rfl ?_ rfl rfl rfl (fun _ => isWaiting) ?_
      · exact reflects.concat rfl
      · intro underway
        cases underway
  | refused error =>
      rw [acquisition] at reflects
      obtain ⟨next, polled, accounts⟩ := run.1.pollAcquire_refused now acquisition
      rw [polled]
      have none_granted : granting.grantedBy history = [] :=
        Acquisition.grantedBy_of_error reflects
      rw [← none_granted] at accounts
      have answered : granting.answerBy history ≠ none := by
        rw [reflects]
        exact Option.some_ne_none _
      exact h.ofWaiting isWaiting accounts rfl rfl rfl answered none_granted.symm rfl
  | granted connection =>
      rw [acquisition] at reflects
      obtain ⟨given, known, same⟩ := reflects
      obtain ⟨next, used, accounts⟩ := run.1.useConnection_accounts connection now
      have id_eq : connection.bare.id = given.bare.id := congrArg Connection.id same
      change connection.id = given.id at id_eq
      rw [pollAcquire_of_granted acquisition, used]
      rw [id_eq, ← Acquisition.grantedBy_of_ok known] at accounts
      have lent : leases [.leased connection.id] = granting.grantedBy history := by
        rw [Acquisition.grantedBy_of_ok known, ← id_eq]
        rfl
      exact h.ofWaiting isWaiting accounts rfl rfl rfl (by simp [known]) lent rfl

/-- A task that took the answer accounts for what it holds. -/
theorem pollUnderway [Transport σ] (h : Custody granting setting history run)
    (isUnderway : run.1.stage.isUnderway = true) (now : Instant) :
    Custody granting setting (history ++ [.poll now]) ((run.1.poll now).after run.2) := by
  obtain ⟨answered, lent, balance⟩ := h.underway isUnderway
  have accounts := run.1.poll_accounts now isUnderway
  have granted := Acquisition.grantedBy_concat answered (.poll now)
  apply ofUnderway
  · exact accounts.setting.trans h.setting
  · have reflects := h.reflects
    rw [← accounts.acquisition] at reflects
    exact reflects.concat rfl
  · rw [Run.after_fst, Run.after_snd, releases_append, accounts.returned, h.returned]
  · exact accounts.underway
  · obtain ⟨answer, known⟩ := Option.ne_none_iff_exists'.mp answered
    simp [Acquisition.answerBy_concat known]
  · rw [Run.after_snd, leases_append, accounts.leases, List.append_nil, lent, granted]
  · rw [Run.after_fst, Run.after_snd, releases_append, List.map_append, List.append_assoc,
      accounts.balance, balance, granted]

theorem poll [Transport σ] (h : Custody granting setting history run) (now : Instant) :
    Custody granting setting (history ++ [.poll now]) ((run.1.poll now).after run.2) := by
  cases stage : run.1.stage with
  | created | acquiring =>
      have isWaiting : run.1.stage.isWaiting = true := by rw [stage]; rfl
      rw [poll_of_waiting isWaiting]
      exact h.pollAcquire isWaiting now
  | exchanging _ _ | closing _ _ _ => exact h.pollUnderway (by rw [stage]; rfl) now
  | gone departure body =>
      rw [poll_of_gone (by rw [stage]; rfl)]
      exact h.quiet rfl (h.reflects.concat rfl) rfl rfl rfl id (fun underway => ⟨underway, rfl⟩)

/-- What a stage surrenders is all that is lent and not yet handed back, or nothing. -/
theorem surrender (h : Custody granting setting history run) :
    (releases run.2 ++ run.1.stage.surrendered).map Prod.fst <+: leases run.2 := by
  cases stage : run.1.stage with
  | exchanging x lease =>
      obtain ⟨answered, lent, balance⟩ := h.underway (by rw [stage]; rfl)
      have held : (run.1.stage.surrendered).map Prod.fst = run.1.stage.held := by
        simp [stage, Stage.surrendered, Stage.held, Stage.connections]
      rw [← stage, List.map_append, held, balance, lent]
  | _ => simpa [Stage.surrendered] using h.handedBack

/-- A task that goes away hands back at most what it holds. -/
theorem drop (h : Custody granting setting history run) :
    Custody granting setting (history ++ [.drop]) (run.1.drop.after run.2) := by
  cases present : run.1.stage.isGone with
  | true =>
      rw [run.1.drop_of_gone present]
      exact h.quiet rfl (h.reflects.concat rfl) rfl rfl rfl id (fun underway => ⟨underway, rfl⟩)
  | false =>
      have dropping := run.1.drop_dropping present
      obtain ⟨body, gone⟩ := dropping.gone
      refine ⟨dropping.setting.trans h.setting, ?_, ?_, ?_, ?_, ?_, ?_⟩
      · rcases dropping.acquisition with same | taken
        · rw [Run.after_fst, same]
          exact h.reflects.concat rfl
        · rw [Run.after_fst, taken]
          trivial
      · rw [Run.after_fst, Run.after_snd, releases_append, dropping.returned, h.returned]
      · intro isWaiting
        rw [Run.after_fst, gone] at isWaiting
        cases isWaiting
      · intro isUnderway
        rw [Run.after_fst, gone] at isUnderway
        cases isUnderway
      · rw [Run.after_snd, leases_append, dropping.leases, List.append_nil]
        exact h.lent.trans (Acquisition.grantedBy_isPrefix_concat _ _ _)
      · rw [Run.after_snd, leases_append, releases_append, dropping.leases, dropping.releases,
          List.append_nil]
        exact h.surrender

/-- Every stimulus keeps the custody. -/
theorem respond [Transport σ] (h : Custody granting setting history run)
    (stimulus : Stimulus σ) :
    Custody granting setting (history ++ [stimulus])
      ((run.1.respond stimulus).after run.2) := by
  cases stimulus with
  | poll now => exact h.poll now
  | drop => exact h.drop
  | answer given =>
      refine h.quiet ?_ (run.1.answer_reflects h.reflects given) ?_ rfl rfl ?_ ?_
      all_goals
        simp only [Execution.respond, answer]
        split <;> simp [Execution.setting]
  | cancel => exact h.quiet rfl (h.reflects.concat rfl) rfl rfl rfl id (fun was => ⟨was, rfl⟩)
  | transport id change =>
      have same (c : Connection σ) : (c.changeTransport id change).receipt = c.receipt :=
        congrArg (fun bare : Connection Unit => bare.receipt) (c.bare_changeTransport id change)
      refine h.quiet rfl ((h.reflects.mapConnection id change).concat rfl) ?_ rfl rfl ?_ ?_
      · simp [Execution.respond, mapConnections, same]
      all_goals have alike := run.1.stage.alike_mapConnection (·.changeTransport id change)
      · exact fun isWaiting => alike.isWaiting.symm.trans isWaiting
      · exact fun isUnderway =>
          ⟨alike.isUnderway.symm.trans isUnderway, Stage.held_mapConnection _ _ _⟩
  | feed items close =>
      have alike := run.1.stage.alike_mapBody (·.feed items close)
      refine h.quiet rfl (h.reflects.concat rfl) rfl rfl rfl ?_ ?_
      · exact fun isWaiting => alike.isWaiting.symm.trans isWaiting
      · exact fun isUnderway => ⟨alike.isUnderway.symm.trans isUnderway,
          Stage.held_mapBody run.1.stage (·.feed items close)⟩

end Custody

section Life

variable [Transport σ] (id : ExecutionId) (request : Request) (timeouts : Timeouts)
  (handler : Handler) (acquisition : Acquisition σ)

omit [Transport σ] in
theorem start_custody : Custody acquisition (request, timeouts, handler) []
    (start id request timeouts handler acquisition) where
  setting := rfl
  reflects := acquisition.reflects_self
  returned := rfl
  waiting _ := ⟨rfl, rfl⟩
  underway isUnderway := by cases isUnderway
  lent := List.nil_prefix
  handedBack := List.prefix_rfl

theorem life_custody (history : List (Stimulus σ)) :
    Custody acquisition (request, timeouts, handler) history
      (life id request timeouts handler acquisition history) :=
  life_invariant id request timeouts handler acquisition _
    (start_custody id request timeouts handler acquisition)
    (fun _ stimulus h => h.respond stimulus) history

/-- Over the whole life of an execution the pool lends at most the one connection it granted,
and gets back at most what it lent. By the time the task has run to its end, whichever way it
ended, it lent what it granted and got all of it back. A task that the pool refused hands
nothing back. What is handed back is what the trace says, and nothing else. -/
theorem granted_connection_handed_back (history : List (Stimulus σ)) :
    let run := life id request timeouts handler acquisition history
    leases run.2 <+: acquisition.grantedBy history ∧
    (releases run.2).map Prod.fst <+: leases run.2 ∧
    (run.1.stage.ranToEnd = true → leases run.2 = acquisition.grantedBy history ∧
      (releases run.2).map Prod.fst = leases run.2) ∧
    (∀ error, acquisition.answerBy history = some (.error error) → releases run.2 = []) ∧
    run.1.returned.map Connection.receipt = releases run.2 := by
  intro run
  have custody := life_custody id request timeouts handler acquisition history
  refine ⟨custody.lent, custody.handedBack, ?_, ?_, custody.returned⟩
  · intro ended
    obtain ⟨isUnderway, none_held⟩ := Stage.underway_of_ranToEnd ended
    obtain ⟨_, lent, balance⟩ := custody.underway isUnderway
    refine ⟨lent, ?_⟩
    rw [none_held, List.append_nil] at balance
    rw [balance, lent]
  · intro error refused
    have none_lent := custody.lent
    rw [Acquisition.grantedBy_of_error refused, List.prefix_nil] at none_lent
    have none_released := custody.handedBack
    rw [none_lent, List.prefix_nil, List.map_eq_nil_iff] at none_released
    exact none_released

/-- A task that went away stays away, and nothing is done but to hear who cancels. -/
theorem respond_gone (e : Execution σ) {departure : Departure} {body : Option MeteredBody}
    (gone : e.stage = .gone departure body) (stimulus : Stimulus σ) :
    (∃ left, (e.respond stimulus).1.stage = .gone departure left) ∧
      Only Action.isCancel (e.respond stimulus).2 ∧
      ((e.respond stimulus).1.completion = e.completion ∨
        (e.respond stimulus).1.completion = e.completion.cancel.2) := by
  cases stimulus with
  | poll now =>
      rw [respond, poll_of_gone (by rw [gone]; rfl)]
      exact ⟨⟨body, gone⟩, only_nil, .inl rfl⟩
  | drop =>
      rw [respond, e.drop_of_gone (by rw [gone]; rfl)]
      exact ⟨⟨body, gone⟩, only_nil, .inl rfl⟩
  | answer given =>
      exact ⟨⟨body, (e.answer_stage given).trans gone⟩, only_nil, .inl (e.answer_completion given)⟩
  | cancel => exact ⟨⟨body, gone⟩, by simp [respond, cancel, Action.isCancel], .inr rfl⟩
  | transport id change =>
      refine ⟨⟨body, ?_⟩, only_nil, .inl rfl⟩
      simp [respond, mapConnections, gone, Stage.mapConnection]
  | feed items close =>
      exact ⟨⟨_, by simp only [respond, gone, Stage.mapBody]; rfl⟩, only_nil, .inl rfl⟩

theorem play_departed (e : Execution σ) {departure : Departure} {body : Option MeteredBody}
    (gone : e.stage = .gone departure body) (history : List (Stimulus σ)) :
    (∃ left, (e.play history).1.stage = .gone departure left) ∧
      Only Action.isCancel (e.play history).2 := by
  induction history generalizing e body with
  | nil => exact ⟨⟨body, gone⟩, only_nil⟩
  | cons stimulus rest ih =>
      obtain ⟨⟨left, still_gone⟩, cancels, _⟩ := e.respond_gone gone stimulus
      obtain ⟨stays, later⟩ := ih _ still_gone
      exact ⟨stays, (only_append _ _).mpr ⟨cancels, later⟩⟩

/-- A task that went away does nothing with the pool. -/
theorem play_gone (e : Execution σ) (gone : e.stage.isGone = true)
    (history : List (Stimulus σ)) : releases (e.play history).2 = [] := by
  cases stage : e.stage with
  | gone departure body =>
      exact (e.play_departed stage history).2.midway_of_cancel.releases_eq_nil
  | _ => rw [stage] at gone; cases gone

/-- A task that is dropped with a connection that it leased and did not hand back hands it
back then, once and closed, whatever comes later; unless the task waits for the connection to
close, in which case the connection never gets back to the pool. -/
theorem dropped_connection_handed_back (history later : List (Stimulus σ))
    (connection : ConnectionId)
    (lent : leases (life id request timeouts handler acquisition history).2 = [connection])
    (kept : releases (life id request timeouts handler acquisition history).2 = [])
    (present : (life id request timeouts handler acquisition history).1.stage.isGone = false) :
    let isClosing := (life id request timeouts handler acquisition history).1.stage.isClosing
    let returns :=
      releases (life id request timeouts handler acquisition (history ++ .drop :: later)).2
    (isClosing = false → returns = [(connection, false)]) ∧ (isClosing = true → returns = []) := by
  have custody := life_custody id request timeouts handler acquisition history
  rw [life_append]
  generalize life id request timeouts handler acquisition history = run at *
  have dropping := run.1.drop_dropping present
  obtain ⟨body, gone⟩ := dropping.gone
  have silent : releases (run.1.drop.1.play later).2 = [] :=
    play_gone _ (by rw [gone]; rfl) later
  have returns : releases ((run.1.play (.drop :: later)).after run.2).2 =
      run.1.stage.surrendered := by
    simp only [play, respond, Run.after_snd, releases_append, kept, dropping.releases, silent,
      List.nil_append, List.append_nil]
  intro isClosing returned
  rw [show returned = run.1.stage.surrendered from returns]
  cases stage : run.1.stage with
  | created | acquiring =>
      obtain ⟨none_lent, _⟩ := custody.waiting (by rw [stage]; rfl)
      rw [none_lent] at lent
      cases lent
  | exchanging x lease =>
      obtain ⟨_, all_lent, balance⟩ := custody.underway (by rw [stage]; rfl)
      rw [kept, ← all_lent, lent, stage] at balance
      have held : lease.connection.toList.map Connection.id = [connection] := balance
      refine ⟨fun _ => ?_, fun closing => by simp [isClosing, stage, Stage.isClosing] at closing⟩
      cases leased : lease.connection with
      | none => simp [leased] at held
      | some given =>
          have same : given.id = connection := by simpa [leased] using held
          simp [Stage.surrendered, leased, same]
  | closing closing ending body =>
      exact ⟨fun running => by simp [isClosing, stage, Stage.isClosing] at running, fun _ => rfl⟩
  | gone departure body =>
      rw [stage] at present
      cases present

end Life

/-- A plain exchange that is cancelled: its connection is closed and handed back. -/
theorem granted_connection_handed_back_cancelled :
    let history : List (Stimulus Bench.Wire) := [.poll ⟨0⟩, .cancel, .transport ⟨7⟩ fun wire =>
      { wire with holdsClose := false }, .poll ⟨0⟩]
    (Bench.plainLife history).1.stage.ranToEnd = true ∧
      (releases (Bench.plainLife history).2).map Prod.fst = leases (Bench.plainLife history).2 := by
  intro history
  have ended : (Bench.plainLife history).1.stage.ranToEnd = true := by decide +kernel
  exact ⟨ended, ((granted_connection_handed_back 1 Bench.plainRequest .standard .quiet
    (.granted Bench.stickyConnection) history).2.2.1 ended).2⟩

theorem dropped_connection_handed_back_reading :
    releases (Bench.plainLife [.poll ⟨0⟩, .drop]).2 = [(⟨7⟩, false)] :=
  (dropped_connection_handed_back 1 Bench.plainRequest .standard .quiet
    (.granted Bench.stickyConnection) [.poll ⟨0⟩] [] ⟨7⟩ (by decide +kernel) (by decide +kernel)
    (by decide +kernel)).1 (by decide +kernel)

/-- Dropped while it waits for the close, the same task keeps its connection from the pool. -/
theorem closing_connection_lost :
    let waiting := Bench.plainLife [.poll ⟨0⟩, .cancel, .poll ⟨0⟩]
    leases waiting.2 = [⟨7⟩] ∧ releases waiting.2 = [] ∧ waiting.1.stage.isGone = false ∧
      releases (Bench.plainLife [.poll ⟨0⟩, .cancel, .poll ⟨0⟩, .drop]).2 = [] := by
  refine ⟨?_, ?_, ?_, ?_⟩ <;> decide +kernel

end Execution

end HttpExchange
