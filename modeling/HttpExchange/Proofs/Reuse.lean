import HttpExchange.Proofs.Delivering

/-!
Which connections may be used again. A connection goes back to the pool as it was leased exactly
if the end of the response was found after the whole request was accepted and flushed. At every
other end of an exchange, and if the exchange is dropped, it goes back as closed, whatever its
transport answers.
-/

namespace HttpExchange

open Trace

namespace Execution

/-- Whatever was found of the response, it was not the end of it behind the flushed request. -/
def Undelivered (granting : Acquisition σ) (request : Request) (history : List (Stimulus σ))
    (trace : List Action) : Prop :=
  .responseEnd ∉ trace ∨ ∃ given p, granting.answerBy history = some (.ok given) ∧
    (Pipeline.configure given).1 = .ok p ∧ ¬p.Delivered request trace

/-- Where an execution stands with its connection: it has none yet, or writes its request on it,
or handed it back as it was leased once the response was delivered, or closes it. -/
inductive Reuse (granting : Acquisition σ) (request : Request) (history : List (Stimulus σ))
    (run : Run σ) : Prop where
  | ahead (isWaiting : run.1.stage.isWaiting = true) (preparing : Only Action.isPreparing run.2)
  | drives (x : Exchange) (lease : Lease σ) (stage : run.1.stage = .exchanging x lease)
      (given : Connection σ) (p : Pipeline)
      (known : granting.answerBy history = some (.ok given))
      (framed : (Pipeline.configure given).1 = .ok p) (writes : x.Writes p request run.2)
      (unended : .responseEnd ∉ run.2)
  | kept (departure : Departure) (body : Option MeteredBody)
      (stage : run.1.stage = .gone departure body) (given : Connection σ) (p : Pipeline)
      (known : granting.answerBy history = some (.ok given))
      (framed : (Pipeline.configure given).1 = .ok p)
      (delivered : p.Delivered request run.2) (handed : releases run.2 = [given.receipt])
  | closes (body : Option MeteredBody) (remains : run.1.stage.remains = some body)
      (undelivered : Undelivered granting request history run.2)
      (closed : ∀ receipt ∈ releases run.2, receipt.2 = false)

theorem Undelivered.append {granting : Acquisition σ} {request : Request}
    {history : List (Stimulus σ)} {trace more : List Action}
    (h : Undelivered granting request history trace) (unmarked : .responseEnd ∉ more) :
    Undelivered granting request history (trace ++ more) := by
  rcases h with unended | ⟨given, p, known, framed, undelivered⟩
  · exact .inl (by simp [unended, unmarked])
  · refine .inr ⟨given, p, known, framed, ?_⟩
    rw [Pipeline.delivered_append unmarked]
    exact undelivered

namespace Unwinding

variable {connection : ConnectionId} {ending : Ending} {run : Run σ}

theorem remains (h : Unwinding connection ending run) :
    ∃ body, run.1.stage.remains = some body := by
  cases h with
  | waiting held body answers same stage unanswered winds => exact ⟨body, by rw [stage]; rfl⟩
  | dropped body answers stage unanswered winds => exact ⟨body, by rw [stage]; rfl⟩
  | told answers ended settled answered winds =>
      obtain ⟨departure, body, gone⟩ := Stage.gone_of_ranToEnd ended
      exact ⟨body, by rw [gone]; rfl⟩

/-- A connection that is wound up goes back as closed, if it goes back. -/
theorem closed (h : Unwinding connection ending run) :
    ∀ receipt ∈ releases run.2, receipt.2 = false := by
  cases h with
  | waiting _ _ _ _ _ _ winds | dropped _ _ _ _ winds => simp [winds.releases]
  | told _ _ _ _ winds => simp [winds.releases]

end Unwinding

namespace Reuse

variable {granting : Acquisition σ} {request : Request} {history : List (Stimulus σ)}
  {run next : Run σ} {trace : List Action}

/-- The history may grow. -/
theorem concat (h : Reuse granting request history run) (stimulus : Stimulus σ) :
    Reuse granting request (history ++ [stimulus]) run := by
  have still {given : Connection σ} (known : granting.answerBy history = some (.ok given)) :=
    Acquisition.answerBy_concat known stimulus
  cases h with
  | ahead isWaiting preparing => exact .ahead isWaiting preparing
  | drives x lease stage given p known framed writes unended =>
      exact .drives x lease stage given p (still known) framed writes unended
  | kept departure body stage given p known framed delivered handed =>
      exact .kept departure body stage given p (still known) framed delivered handed
  | closes body remains undelivered closed =>
      refine .closes body remains ?_ closed
      rcases undelivered with unended | ⟨given, p, known, framed, undelivered⟩
      · exact .inl unended
      · exact .inr ⟨given, p, still known, framed, undelivered⟩

/-- What winds up after an exchange that did not deliver. -/
theorem ofClosing (undelivered : Undelivered granting request history trace)
    (closed : ∀ receipt ∈ releases trace, receipt.2 = false) {body : Option MeteredBody}
    (remains : next.1.stage.remains = some body) (only : Only Action.isUnwinding next.2)
    (handed : ∀ receipt ∈ releases next.2, receipt.2 = false) :
    Reuse granting request history (next.after trace) := by
  refine .closes body remains (undelivered.append ?_) ?_
  · intro member
    cases only _ member
  · rw [Run.after_snd, releases_append]
    exact List.forall_mem_append.mpr ⟨closed, handed⟩

theorem ofUnwinding (undelivered : Undelivered granting request history trace)
    (closed : ∀ receipt ∈ releases trace, receipt.2 = false) {connection : ConnectionId}
    {ending : Ending} (unwinding : Unwinding connection ending next) :
    Reuse granting request history (next.after trace) := by
  obtain ⟨body, remains⟩ := unwinding.remains
  exact ofClosing undelivered closed remains unwinding.only unwinding.closed

/-- A task that is dropped hands back what it holds as closed. -/
theorem ofDrop (undelivered : Undelivered granting request history run.2)
    (closed : ∀ receipt ∈ releases run.2, receipt.2 = false)
    (present : run.1.stage.isGone = false) :
    Reuse granting request history (run.1.drop.after run.2) := by
  have dropping := run.1.drop_dropping present
  refine ofClosing undelivered closed (run.1.drop_ends present).remains run.1.drop_unwinding ?_
  rw [dropping.releases]
  unfold Stage.surrendered
  split <;> simp

variable [Transport σ]

/-- A poll of the exchange goes on with the request, or decides what becomes of the
connection. -/
theorem pollExchange (e : Execution σ) {x : Exchange} {lease : Lease σ}
    {held given : Connection σ} {p : Pipeline} (leased : lease.connection = some held)
    (known : granting.answerBy history = some (.ok given)) (same : held.receipt = given.receipt)
    (framed : (Pipeline.configure given).1 = .ok p) (writes : x.Writes p request trace)
    (unended : .responseEnd ∉ trace) (unreleased : releases trace = []) (now : Instant) :
    Reuse granting request history ((e.pollExchange x lease now).after trace) := by
  obtain ⟨still, still_leased, kept⟩ := x.poll_leased leased e.handler e.completion now
  have driving := x.poll_driving lease e.handler e.completion now
  have delivers := Exchange.poll_delivered writes unended lease e.handler e.completion now
  have goes := Exchange.poll_writes writes lease e.handler e.completion now
  have finds := x.poll_findsEnd lease e.handler e.completion now
  have driven := e.pollExchange_drives x lease now
  generalize e.pollExchange x lease now = run at driven ⊢
  generalize x.poll lease e.handler e.completion now = step at *
  have receipt : still.receipt = given.receipt := kept.trans same
  -- the poll itself hands nothing back; only what follows its end does
  have unreleased : releases (trace ++ step.actions) = [] := by
    rw [releases_append, unreleased, driving.midway_of_driving.releases_eq_nil]
    rfl
  have closed : ∀ receipt ∈ releases (trace ++ step.actions), receipt.2 = false := by
    simp [unreleased]
  have undelivered (unfit : ¬(step.turn = .ended .complete ∧ step.exchange.writeState = .done)) :
      Undelivered granting request history (trace ++ step.actions) :=
    .inr ⟨given, p, known, framed, fun delivered => unfit (delivers.mp delivered)⟩
  cases driven with
  | goesOn turn =>
      have unmarked := finds.unmarked (by simp [turn])
      exact .drives step.exchange step.resource rfl given p known framed (goes (.inl turn))
        (by simp [unended, unmarked])
  | breaksOff turn =>
      rw [Run.after_after, ← List.append_assoc, ← Run.after_after]
      refine ofClosing (undelivered (by simp [turn])) closed (dropLease_ends _ _ .crashed _).remains
        (dropLease_unwinding _ _ .crashed _) ?_
      rw [dropLease_releases _ still_leased]
      simp
  | ends outcome turn =>
      rw [Run.after_after]
      by_cases fit : outcome = .complete ∧ step.exchange.writeState = .done
      · obtain ⟨rfl, written⟩ := fit
        have concluded := finish_concludes
          (({ e with completion := step.completion } : Execution σ).release still).1 .success
          (some step.exchange.frames.body)
        obtain ⟨departure, body, gone⟩ := Stage.gone_of_ranToEnd concluded.ended
        rw [endExchange_of_fit _ still_leased written]
        refine .kept departure body gone given p known framed ?_ ?_
        · exact (delivers.mpr ⟨turn, written⟩).append _
        · rw [Run.after_snd, releases_append, unreleased, Run.after_snd, releases_append,
            (concluded.winds still.id).releases, ← receipt]
          rfl
      · rw [endExchange_of_unfit _ _ still_leased fit]
        refine ofUnwinding (undelivered ?_) closed (Unwinding.ofPollClose _ still _ _)
        rw [turn]
        simpa using fit

/-- A task that looks for the pool's answer. -/
theorem pollWaiting (isWaiting : run.1.stage.isWaiting = true)
    (preparing : Only Action.isPreparing run.2) (same : run.1.request = request)
    (reflects : granting.Reflects history run.1.acquisition) (now : Instant) :
    Reuse granting request history ((run.1.poll now).after run.2) := by
  have unended {more : List Action} (preparing : Only Action.isPreparing more) :
      Undelivered granting request history more := by
    refine .inl fun member => ?_
    cases preparing _ member
  have unreleased {more : List Action} (preparing : Only Action.isPreparing more) :
      releases more = [] := preparing.midway_of_preparing.releases_eq_nil
  have polled := run.1.poll_polls now
  generalize run.1.poll now = next at polled ⊢
  cases polled with
  | waits isWaiting unanswered =>
      refine .ahead rfl ?_
      rw [Run.after_snd, List.append_nil]
      exact preparing
  | refused isWaiting error refused message =>
      have before : Only Action.isPreparing (run.2 ++ [.refused error]) :=
        (only_append _ _).mpr ⟨preparing, by simp [Action.isPreparing]⟩
      have concluded := finish_concludes ({ run.1 with acquisition := .taken } : Execution σ)
        (.failure message (.lease error)) none
      rw [Run.after_after]
      refine ofClosing (unended before) (by simp [unreleased before]) (finish_ends _ _ none).remains
        concluded.unwinding ?_
      simp [(concluded.winds ⟨0⟩).releases]
  | unframed isWaiting connection granted cause unknown =>
      have before : Only Action.isPreparing (run.2 ++ [.leased connection.id]) :=
        (only_append _ _).mpr ⟨preparing, by simp [Action.isPreparing]⟩
      rw [Run.after_after]
      exact ofUnwinding (unended before) (by simp [unreleased before])
        (Unwinding.ofPollClose _ _ _ none)
  | begins isWaiting connection granted p framed x pipeline writeState frames events idle
      opening only =>
      rw [granted] at reflects
      obtain ⟨given, known, bare⟩ := reflects
      have receipt := (Pipeline.configure_receipt connection).trans
        (Connection.receipt_of_bare bare)
      have before : Only Action.isPreparing (run.2 ++ (.leased connection.id :: opening)) :=
        (only_append _ _).mpr ⟨preparing, (only_cons _ _).mpr ⟨rfl, only.preparing_of_opening⟩⟩
      rw [Pipeline.configure_of_bare bare] at framed
      rw [same] at frames
      rw [Run.after_after]
      have writes := Exchange.Writes.ofPreparing pipeline writeState frames before
      have none_found : .responseEnd ∉ run.2 ++ (.leased connection.id :: opening) := by
        intro member
        cases before _ member
      exact pollExchange run.1.leased rfl known receipt framed writes none_found
        (unreleased before) now
  | drives x lease stage =>
      rw [stage] at isWaiting
      cases isWaiting
  | closes connection ending body stage =>
      rw [stage] at isWaiting
      cases isWaiting
  | departed gone =>
      rw [Stage.present_of_waiting isWaiting] at gone
      cases gone

/-- Every stimulus keeps an execution in step with its connection. -/
theorem respond (h : Reuse granting request history run) {setting : Request × Timeouts × Handler}
    (custody : Custody granting setting history run) (same : run.1.request = request)
    (employs : run.1.stage.Employs granting history) (stimulus : Stimulus σ) :
    Reuse granting request (history ++ [stimulus]) ((run.1.respond stimulus).after run.2) := by
  refine concat ?_ stimulus
  cases h with
  | ahead isWaiting preparing =>
      rcases run.1.respond_waiting isWaiting stimulus with
        ⟨now, rfl⟩ | rfl | ⟨waiting, cancels, _⟩
      · exact pollWaiting isWaiting preparing same custody.reflects now
      · refine ofDrop (.inl fun member => ?_) ?_ ?_
        · cases preparing _ member
        · simp [(custody.waiting isWaiting).2]
        · exact Stage.present_of_waiting isWaiting
      · exact .ahead waiting ((only_append _ _).mpr ⟨preparing, cancels.preparing_of_cancel⟩)
  | drives x lease stage given p known framed writes unended =>
      have unreleased := exchanging_unreleased custody employs stage
      rcases run.1.respond_exchanging stage stimulus with
        ⟨now, rfl⟩ | rfl | ⟨⟨y, moved, stays, _, fed⟩, cancels, _⟩
      · rw [stage] at employs
        obtain ⟨held, other, leased, known_other, same⟩ := employs
        obtain rfl := Acquisition.granted_unique known_other known
        simp only [Execution.respond, Execution.poll, stage]
        exact pollExchange run.1 leased known same framed writes unended unreleased now
      · refine ofDrop ?_ (by simp [unreleased]) (by rw [stage]; rfl)
        exact .inr ⟨given, p, known, framed, Pipeline.not_delivered unended⟩
      · have still_writes : y.Writes p request run.2 := by
          rcases fed with rfl | ⟨items, close, rfl⟩
          · exact writes
          · exact writes.feed items close
        have still_unended : .responseEnd ∉ run.2 ++ (run.1.respond stimulus).2 := by
          intro member
          rcases List.mem_append.mp member with before | now
          · exact unended before
          · cases cancels _ now
        exact .drives y moved stays given p known framed (still_writes.ofCancel cancels)
          still_unended
  | kept departure body stage given p known framed delivered handed =>
      obtain ⟨⟨left, still_gone⟩, cancels, _⟩ := run.1.respond_gone stage stimulus
      refine .kept departure left still_gone given p known framed (delivered.append _) ?_
      rw [Run.after_snd, releases_append, handed, cancels.midway_of_cancel.releases_eq_nil]
      rfl
  | closes body remains undelivered closed =>
      cases stage : run.1.stage with
      | created | acquiring | exchanging _ _ =>
          rw [stage] at remains
          cases remains
      | gone departure body =>
          obtain ⟨⟨left, still_gone⟩, cancels, _⟩ := run.1.respond_gone stage stimulus
          refine ofClosing undelivered closed (by rw [still_gone]; rfl)
            cancels.unwinding_of_cancel ?_
          simp [cancels.midway_of_cancel.releases_eq_nil]
      | closing held ending body =>
          have unwinding : Unwinding held.id ending (run.1, []) :=
            .waiting held body [] rfl stage (by simp) (winds_nil _)
          exact ofUnwinding undelivered closed (unwinding.respond stimulus)

omit [Transport σ] in
/-- The response was delivered and the connection went back as it was leased, or it was not and
the connection did not go back as open. -/
theorem fate (h : Reuse granting request history run) {setting : Request × Timeouts × Handler}
    (custody : Custody granting setting history run)
    (employs : run.1.stage.Employs granting history) {connection : Connection σ}
    (granted : granting.answerBy history = some (.ok connection)) :
    (∃ p, (Pipeline.configure connection).1 = .ok p ∧ p.Delivered request run.2) ∧
        releases run.2 = [connection.receipt] ∨
      (¬∃ p, (Pipeline.configure connection).1 = .ok p ∧ p.Delivered request run.2) ∧
        ∀ receipt ∈ releases run.2, receipt.2 = false := by
  have unended (unended : .responseEnd ∉ run.2) :
      ¬∃ p, (Pipeline.configure connection).1 = .ok p ∧ p.Delivered request run.2 := by
    rintro ⟨p, _, delivered⟩
    exact Pipeline.not_delivered unended delivered
  cases h with
  | ahead isWaiting preparing =>
      refine .inr ⟨unended fun member => ?_, ?_⟩
      · cases preparing _ member
      · simp [preparing.midway_of_preparing.releases_eq_nil]
  | drives x lease stage given p known framed writes none_found =>
      refine .inr ⟨unended none_found, ?_⟩
      simp [exchanging_unreleased custody employs stage]
  | kept departure body stage given p known framed delivered handed =>
      obtain rfl := Acquisition.granted_unique known granted
      exact .inl ⟨⟨p, framed, delivered⟩, handed⟩
  | closes body remains undelivered closed =>
      refine .inr ⟨?_, closed⟩
      rcases undelivered with none_found | ⟨given, p, known, framed, undelivered⟩
      · exact unended none_found
      · obtain rfl := Acquisition.granted_unique known granted
        rintro ⟨other, other_framed, delivered⟩
        obtain rfl : other = p := Except.ok.inj (other_framed.symm.trans framed)
        exact undelivered delivered

end Reuse

section Life

variable [Transport σ] (id : ExecutionId) (request : Request) (timeouts : Timeouts)
  (handler : Handler) (acquisition : Acquisition σ)

theorem life_reuse (history : List (Stimulus σ)) :
    Reuse acquisition request history (life id request timeouts handler acquisition history) := by
  refine life_invariant id request timeouts handler acquisition (Reuse acquisition request) ?_ ?_
    history
  · exact .ahead rfl (by simp [start, Action.isPreparing])
  · intro past stimulus h
    have custody := life_custody id request timeouts handler acquisition past
    have employs := life_employs id request timeouts handler acquisition past
    exact h.respond custody (congrArg Prod.fst custody.setting) employs stimulus

/-- An exchange that is dropped hands back its connection as closed, whatever comes later. -/
theorem exchanging_drop (history : List (Stimulus σ)) {connection : Connection σ}
    (granted : acquisition.answerBy history = some (.ok connection))
    (exchanging :
      (life id request timeouts handler acquisition history).1.stage.isExchanging = true)
    (later : List (Stimulus σ)) :
    releases (life id request timeouts handler acquisition (history ++ .drop :: later)).2 =
      [(connection.id, false)] := by
  have custody := life_custody id request timeouts handler acquisition history
  have employs := life_employs id request timeouts handler acquisition history
  rw [life_append]
  generalize life id request timeouts handler acquisition history = run at *
  cases stage : run.1.stage with
  | exchanging x lease =>
      have unreleased := exchanging_unreleased custody employs stage
      rw [stage] at employs
      obtain ⟨held, given, leased, known, same⟩ := employs
      obtain rfl := Acquisition.granted_unique known granted
      have same_id : held.id = given.id := congrArg Prod.fst same
      have dropping := run.1.drop_dropping (by rw [stage]; rfl)
      obtain ⟨body, gone⟩ := dropping.gone
      have silent := play_gone run.1.drop.1 (by rw [gone]; rfl) later
      simp only [play, respond, Run.after_snd, releases_append, unreleased, dropping.releases,
        silent, stage, Stage.surrendered, leased]
      simp [same_id]
  | _ =>
      rw [stage] at exchanging
      cases exchanging

omit [Transport σ] in
/-- Connections that go back as closed are told by their identities. -/
theorem eq_map_of_closed {receipts : List (ConnectionId × Bool)}
    (closed : ∀ receipt ∈ receipts, receipt.2 = false) :
    receipts = (receipts.map Prod.fst).map (·, false) := by
  rw [List.map_map]
  refine (List.map_id receipts).symm.trans (List.map_congr_left fun receipt member => ?_)
  exact Prod.ext rfl (closed receipt member)

/-- A connection that was open when it was leased goes back to the pool as open exactly if the
end of the response was found after the transport had accepted the whole request, with its end,
and then flushed. If it goes back at all in any other case it goes back as closed; this has
happened by the time the task has run to its end, and happens if the task is dropped while it
drives its exchange. -/
theorem reusable_iff_delivered (history : List (Stimulus σ)) (connection : Connection σ)
    (granted : acquisition.answerBy history = some (.ok connection))
    (isOpen : connection.isOpen = true) :
    let run := life id request timeouts handler acquisition history
    let delivered :=
      ∃ p, (Pipeline.configure connection).1 = .ok p ∧ p.Delivered request run.2
    ((connection.id, true) ∈ releases run.2 ↔ delivered) ∧
    (¬delivered → releases run.2 <+: [(connection.id, false)]) ∧
    (¬delivered → run.1.stage.ranToEnd = true → releases run.2 = [(connection.id, false)]) ∧
    (run.1.stage.isExchanging = true → ∀ later, releases (life id request timeouts handler
      acquisition (history ++ .drop :: later)).2 = [(connection.id, false)]) := by
  intro run delivered
  have custody := life_custody id request timeouts handler acquisition history
  have employs := life_employs id request timeouts handler acquisition history
  have fate := (life_reuse id request timeouts handler acquisition history).fate custody employs
    granted
  have whole : connection.receipt = (connection.id, true) := Prod.ext rfl isOpen
  rw [whole] at fate
  have given_back (undelivered : ¬delivered) :
      releases run.2 = ((releases run.2).map Prod.fst).map (·, false) := by
    rcases fate with ⟨is_delivered, _⟩ | ⟨_, closed⟩
    · exact absurd is_delivered undelivered
    · exact eq_map_of_closed closed
  have granted_id := Acquisition.grantedBy_of_ok granted
  refine ⟨?_, ?_, ?_, ?_⟩
  · rcases fate with ⟨is_delivered, handed⟩ | ⟨undelivered, closed⟩
    · exact iff_of_true (handed ▸ List.mem_cons_self) is_delivered
    · refine iff_of_false (fun member => ?_) undelivered
      cases closed _ member
  · intro undelivered
    have lent := custody.handedBack.trans custody.lent
    rw [granted_id] at lent
    rw [given_back undelivered]
    exact lent.map (·, false)
  · intro undelivered ended
    obtain ⟨_, handed⟩ := custody.of_ranToEnd ended
    rw [granted_id] at handed
    rw [given_back undelivered]
    exact congrArg (List.map (·, false)) handed
  · exact fun exchanging later => exchanging_drop id request timeouts handler acquisition history
      granted exchanging later

end Life

/-- A plain exchange whose response ends in the poll in which its request is flushed. -/
theorem reusable_iff_delivered_plain :
    let connection : Connection Bench.Wire :=
      .ofTransport ⟨7⟩ Protocol.http11.text
        { Bench.Wire.idle with inbound := [.frame (.single .finish)] }
    let run := life 1 Bench.plainRequest .standard .quiet (.granted connection) [.poll ⟨0⟩]
    releases run.2 = [(⟨7⟩, true)] ∧ ∃ p, (Pipeline.configure connection).1 = .ok p ∧
      p.Delivered Bench.plainRequest run.2 := by
  intro connection run
  have handed : releases run.2 = [(⟨7⟩, true)] := by decide +kernel
  have reused := (reusable_iff_delivered 1 Bench.plainRequest .standard .quiet
    (.granted connection) [.poll ⟨0⟩] connection rfl rfl).1
  exact ⟨handed, reused.mp (handed ▸ List.mem_cons_self)⟩

/-- The same response is too early for a request that has not been written yet. -/
example :
    let connection : Connection Bench.Wire :=
      .ofTransport ⟨7⟩ Protocol.http11.text
        { Bench.Wire.idle with capacity := some 0, inbound := [.frame (.single .finish)] }
    let request : Request := { Bench.plainRequest with isFullDuplex := true }
    releases (life 1 request .standard .quiet (.granted connection) [.poll ⟨0⟩]).2 =
      [(⟨7⟩, false)] := by
  decide +kernel

end Execution

end HttpExchange
