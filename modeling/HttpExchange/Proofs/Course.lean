import HttpExchange.Proofs.Attending
import HttpExchange.Proofs.Closing
import HttpExchange.Proofs.Halting

/-!
The course of an execution on its connection. It has not called it, or drives its exchange on it,
or the exchange is over and only the close is left. What ends the exchange is found last. A
connection on which nothing can be framed is asked for nothing but to close.
-/

namespace HttpExchange

open Trace

variable {σ : Type}

/-- The pipeline of an exchange reads as it did when it was put together. -/
theorem Exchange.Writes.decodes {p : Pipeline} {request : Request} {x : Exchange}
    {trace : List Action} (h : x.Writes p request trace) : x.pipeline.decode = p.decode := by
  obtain ⟨script, sends⟩ := h.sends
  obtain ⟨frames, -, pipeline, -⟩ := sends.sent
  rw [pipeline, Pipeline.decode_advance]
  rfl

theorem Trace.Only.passing_of_opening {p : Pipeline} {trace : List Action}
    (only : Only Action.isOpening trace) : Only (Action.isPassing p) trace :=
  only.mono fun action h => by cases action <;> first | rfl | cases h

namespace Trace

/-- What an exchange did until it was over: nothing that ends one, where it broke off or was
dropped, and otherwise the one thing that ended it, last. Only the end of the response may leave
the connection unclosed. -/
inductive Halted (p : Pipeline) (later : List Action) : List Action → Prop where
  | quiet {trace : List Action} (passing : Only (Action.isPassing p) trace) : Halted p later trace
  | marked {trace : List Action} (passing : Only (Action.isPassing p) trace) (mark : Action)
      (asked : calls later = [] → mark = .responseEnd) : Halted p later (trace ++ [mark])

variable {p : Pipeline} {front later more : List Action}

theorem Halted.append (h : Halted p later front) (more : List Action) :
    Halted p (later ++ more) front := by
  cases h with
  | quiet passing => exact .quiet passing
  | marked passing mark asked =>
      refine .marked passing mark fun uncalled => asked ?_
      rw [calls_append] at uncalled
      exact (List.append_eq_nil_iff.mp uncalled).1

/-- Behind what ends an exchange there is only what is done later. -/
theorem Halted.split (h : Halted p later front) (parting : Only Action.isParting later)
    {before behind : List Action} {mark : Action}
    (whole : front ++ later = before ++ mark :: behind)
    (final : mark.isPassing p = false) :
    behind = later ∧ (calls later = [] → mark = .responseEnd) := by
  have passes {trace : List Action} (passing : Only (Action.isPassing p) trace)
      (member : mark ∈ trace) : False := by
    rw [passing mark member] at final
    cases final
  -- What is done later passes, so the mark stands in front, and there it can only be the last.
  have here : mark ∉ later := passes parting.passing_of_parting
  rcases List.append_eq_append_iff.mp whole with ⟨rest, rfl, split⟩ | ⟨rest, rfl, split⟩
  · exact absurd (by rw [split]; simp) here
  · cases rest with
    | nil => exact absurd (by rw [← show _ = later from split]; simp) here
    | cons head rest =>
        obtain ⟨rfl, rfl⟩ := List.cons_eq_cons.mp split
        generalize whole_front : before ++ mark :: rest = front at h
        cases h with
        | quiet passing => exact (passes passing (by rw [← whole_front]; simp)).elim
        | marked passing last asked =>
            rcases List.eq_nil_or_concat rest with rfl | ⟨between, final_mark, rfl⟩
            · obtain ⟨-, same⟩ := List.append_inj' whole_front rfl
              cases same
              exact ⟨rfl, asked⟩
            · rw [List.concat_eq_append, ← List.cons_append, ← List.append_assoc] at whole_front
              obtain ⟨rfl, -⟩ := List.append_inj' whole_front rfl
              exact (passes passing (by simp)).elim

end Trace

/-- An exchange that is over was ended by what its last poll found last. -/
theorem Step.Halts.halted {p : Pipeline} {ρ : Type} {step : Step ρ} {trace later : List Action}
    (h : step.Halts p) (passing : Only (Action.isPassing p) trace) {outcome : Outcome}
    (turn : step.turn = .ended outcome) (asked : calls later = [] → outcome = .complete) :
    Halted p later (trace ++ step.actions) := by
  cases h with
  | going going _ => exact absurd turn (going outcome)
  | completes _ front actions passed =>
      rw [actions, ← List.append_assoc]
      exact .marked ((only_append _ _).mpr ⟨passing, passed⟩) .responseEnd fun _ => rfl
  | fails other failure turned failed front mark actions passed =>
      rw [actions, ← List.append_assoc]
      refine .marked ((only_append _ _).mpr ⟨passing, passed⟩) mark fun uncalled => ?_
      obtain rfl : other = outcome := Turn.ended.inj (turned.symm.trans turn)
      rw [asked uncalled] at failed
      cases failed

namespace Execution

/-- Where an execution stands with its transport: it has not called it, or drives its exchange, or
the pool refused it, or it left without a call, or nothing can be framed on its connection, or its
exchange is over and it closes. -/
inductive Course (granting : Acquisition σ) (request : Request) (history : List (Stimulus σ))
    (run : Run σ) : Prop where
  | ahead (isWaiting : run.1.stage.isWaiting = true) (preparing : Only Action.isPreparing run.2)
      (aside : Only Action.isAside run.2)
  | drives (x : Exchange) (lease : Lease σ) (stage : run.1.stage = .exchanging x lease)
      (given : Connection σ) (p : Pipeline)
      (known : granting.answerBy history = some (.ok given))
      (framed : (Pipeline.configure given).1 = .ok p) (writes : x.Writes p request run.2)
      (reads : x.Reads request) (empty : x.events = []) (attends : p.Attends request run.2)
      (passing : Only (Action.isPassing p) run.2)
  | refused (departure : Departure) (body : Option MeteredBody)
      (stage : run.1.stage = .gone departure body) (error : LeaseError)
      (known : granting.answerBy history = some (.error error))
  | left (departure : Departure) (body : Option MeteredBody)
      (stage : run.1.stage = .gone departure body) (aside : Only Action.isAside run.2)
  | unframed (given : Connection σ) (cause : Failure)
      (known : granting.answerBy history = some (.ok given))
      (unknown : (Pipeline.configure given).1 = .error cause)
      (parting : Only Action.isParting run.2) (closing : Closing given.id run.2 run.1.stage)
  | ended (given : Connection σ) (p : Pipeline)
      (known : granting.answerBy history = some (.ok given))
      (framed : (Pipeline.configure given).1 = .ok p) (front later : List Action)
      (whole : run.2 = front ++ later) (attends : p.Attends request front)
      (halted : Halted p later front) (parting : Only Action.isParting later)
      (closing : Closing given.id later run.1.stage)

/-- The course of an execution on a connection that is framed so. -/
inductive Framed (connection : Connection σ) (p : Pipeline) (request : Request) (run : Run σ) :
    Prop where
  | uncalled (idle : run.1.stage.isExchanging = false) (aside : Only Action.isAside run.2)
  | drives (x : Exchange) (lease : Lease σ) (stage : run.1.stage = .exchanging x lease)
      (writes : x.Writes p request run.2) (reads : x.Reads request) (empty : x.events = [])
      (attends : p.Attends request run.2) (passing : Only (Action.isPassing p) run.2)
  | ended (front later : List Action) (whole : run.2 = front ++ later)
      (attends : p.Attends request front) (halted : Halted p later front)
      (parting : Only Action.isParting later)
      (closing : Closing connection.id later run.1.stage)

namespace Framed

variable {connection : Connection σ} {p : Pipeline} {request : Request} {run : Run σ}

/-- What is known of an exchange in progress. -/
theorem exchanging (h : Framed connection p request run) {x : Exchange} {lease : Lease σ}
    (stage : run.1.stage = .exchanging x lease) :
    x.Writes p request run.2 ∧ x.Reads request ∧ x.events = [] := by
  cases h with
  | uncalled idle aside =>
      rw [stage] at idle
      cases idle
  | drives y moved driven writes reads empty attends passing =>
      obtain ⟨rfl, rfl⟩ := Stage.exchanging.inj (stage.symm.trans driven)
      exact ⟨writes, reads, empty⟩
  | ended front later whole attends halted parting closing =>
      rw [stage] at closing
      cases closing

/-- Nothing is received before it may be. -/
theorem attending (h : Framed connection p request run) : p.Attends request run.2 := by
  cases h with
  | uncalled idle aside =>
      exact Pipeline.attends_of_unasked aside.parting_of_aside.unasked_of_parting
  | drives x lease stage writes reads empty attends passing => exact attends
  | ended front later whole attends halted parting closing =>
      rw [whole]
      exact attends.append parting.unasked_of_parting

/-- Behind what ends an exchange the connection is closed, unless that was the end of the
response. -/
theorem halting (h : Framed connection p request run) {front later : List Action} {mark : Action}
    (whole : run.2 = front ++ mark :: later) (final : mark.isPassing p = false) :
    Closing connection.id later run.1.stage ∧ (calls later = [] → mark = .responseEnd) := by
  have unmarked (passing : Only (Action.isPassing p) run.2) : False := by
    rw [passing mark (by simp [whole])] at final
    cases final
  cases h with
  | uncalled idle aside => exact (unmarked aside.parting_of_aside.passing_of_parting).elim
  | drives x lease stage writes reads empty attends passing => exact (unmarked passing).elim
  | ended before behind split attends halted parting closing =>
      obtain ⟨rfl, asked⟩ := halted.split parting (split.symm.trans whole) final
      exact ⟨closing, asked⟩

end Framed

namespace Course

variable {granting : Acquisition σ} {request : Request} {history : List (Stimulus σ)}
  {run : Run σ} {trace : List Action}

/-- The history may grow. -/
theorem concat (h : Course granting request history run) (stimulus : Stimulus σ) :
    Course granting request (history ++ [stimulus]) run := by
  have still {answer : Except LeaseError (Connection σ)}
      (known : granting.answerBy history = some answer) :=
    Acquisition.answerBy_concat known stimulus
  cases h with
  | ahead isWaiting preparing aside => exact .ahead isWaiting preparing aside
  | drives x lease stage given p known framed writes reads empty attends passing =>
      exact .drives x lease stage given p (still known) framed writes reads empty attends passing
  | refused departure body stage error known =>
      exact .refused departure body stage error (still known)
  | left departure body stage aside => exact .left departure body stage aside
  | unframed given cause known unknown parting closing =>
      exact .unframed given cause (still known) unknown parting closing
  | ended given p known framed front later whole attends halted parting closing =>
      exact .ended given p (still known) framed front later whole attends halted parting closing

variable [Transport σ]

/-- A poll of the exchange goes on with it, or ends it and leaves the close to be asked for. -/
theorem pollExchange (e : Execution σ) {x : Exchange} {lease : Lease σ}
    {held given : Connection σ} {p : Pipeline} (leased : lease.connection = some held)
    (known : granting.answerBy history = some (.ok given)) (same : held.receipt = given.receipt)
    (framed : (Pipeline.configure given).1 = .ok p) (writes : x.Writes p request trace)
    (reads : x.Reads request) (empty : x.events = []) (attends : p.Attends request trace)
    (passing : Only (Action.isPassing p) trace) (now : Instant) :
    Course granting request history ((e.pollExchange x lease now).after trace) := by
  obtain ⟨still, still_leased, kept⟩ := x.poll_leased leased e.handler e.completion now
  have same_id : still.id = given.id := congrArg Prod.fst (kept.trans same)
  have goes := Exchange.poll_writes writes lease e.handler e.completion now
  have reading := Exchange.poll_reads reads lease e.handler e.completion now
  have attending := Exchange.poll_attends reads writes attends lease e.handler e.completion now
  have hears := Exchange.poll_hears writes.decodes empty leased e.handler e.completion now
  have halts := Exchange.poll_halts writes.decodes empty leased e.handler e.completion now
  have driven := e.pollExchange_drives x lease now
  generalize e.pollExchange x lease now = run at driven ⊢
  generalize x.poll lease e.handler e.completion now = step at *
  have passes (going : ∀ outcome, step.turn ≠ .ended outcome) :
      Only (Action.isPassing p) (trace ++ step.actions) := by
    cases halts with
    | going _ passed => exact (only_append _ _).mpr ⟨passing, passed⟩
    | completes turn _ _ _ => exact absurd turn (going _)
    | fails outcome _ turn _ _ _ _ _ => exact absurd turn (going outcome)
  cases driven with
  | goesOn turn =>
      exact .drives step.exchange step.resource rfl given p known framed (goes (.inl turn))
        (reading turn) (hears.drained turn) attending (passes (by simp [turn]))
  | breaksOff turn =>
      have aside := dropLease_aside ({ e with completion := step.completion } : Execution σ)
        step.resource .crashed (some step.exchange.frames.body)
      refine .ended given p known framed (trace ++ step.actions) _ ?_ attending
        (.quiet (passes (by simp [turn]))) aside.parting_of_aside
        (.gone .crashed _ (closesOnly_of_uncalled aside.calls_eq_nil))
      simp [Run.after]
  | ends outcome turn =>
      rw [Run.after_after]
      -- Only an exchange that is complete on both sides hands its connection back unclosed.
      by_cases fit : outcome = .complete ∧ step.exchange.writeState = .done
      · obtain ⟨rfl, written⟩ := fit
        rw [endExchange_of_fit _ still_leased written]
        have finished := finish_aside
          (({ e with completion := step.completion } : Execution σ).release still).1 .success
          (some step.exchange.frames.body)
        have concluded := finish_concludes
          (({ e with completion := step.completion } : Execution σ).release still).1 .success
          (some step.exchange.frames.body)
        have aside := (only_cons _ _).mpr
          ⟨(rfl : (Action.release still.id still.isOpen).isAside = true), finished⟩
        obtain ⟨departure, body, gone⟩ := Stage.gone_of_ranToEnd concluded.ended
        refine .ended given p known framed (trace ++ step.actions) _ rfl attending
          (halts.halted passing turn fun _ => rfl) aside.parting_of_aside ?_
        rw [Run.after_fst, Run.after_fst, gone]
        exact .gone departure body (closesOnly_of_uncalled aside.calls_eq_nil)
      · rw [endExchange_of_unfit _ _ still_leased fit]
        obtain ⟨parting, closing, called⟩ := pollClose_begins
          ({ e with completion := step.completion } : Execution σ) still
          (endingOf { e with completion := step.completion } outcome)
          (some step.exchange.frames.body) (rfl : calls [] = [])
        rw [same_id] at closing
        refine .ended given p known framed (trace ++ step.actions) _ rfl attending
          (halts.halted passing turn fun uncalled => ?_) parting closing
        rw [called] at uncalled
        cases uncalled

/-- A task that looks for the pool's answer. -/
theorem pollWaiting (isWaiting : run.1.stage.isWaiting = true)
    (preparing : Only Action.isPreparing run.2) (aside : Only Action.isAside run.2)
    (same : run.1.request = request) (reflects : granting.Reflects history run.1.acquisition)
    (now : Instant) : Course granting request history ((run.1.poll now).after run.2) := by
  have polled := run.1.poll_polls now
  generalize run.1.poll now = next at polled ⊢
  cases polled with
  | waits isWaiting unanswered =>
      refine .ahead rfl ?_ ?_ <;> rwa [Run.after_snd, List.append_nil]
  | refused isWaiting error refused message =>
      rw [refused] at reflects
      have concluded := finish_concludes ({ run.1 with acquisition := .taken } : Execution σ)
        (.failure message (.lease error)) none
      obtain ⟨departure, body, gone⟩ := Stage.gone_of_ranToEnd concluded.ended
      exact .refused departure body gone error reflects
  | unframed isWaiting connection granted cause unknown =>
      rw [granted] at reflects
      obtain ⟨given, known, bare⟩ := reflects
      have same_id : (Pipeline.configure connection).2.id = given.id :=
        congrArg Prod.fst ((Pipeline.configure_receipt connection).trans
          (Connection.receipt_of_bare bare))
      rw [Pipeline.configure_of_bare bare] at unknown
      have before : Only Action.isAside (run.2 ++ [.leased connection.id]) :=
        (only_append _ _).mpr ⟨aside, by simp [Action.isAside]⟩
      rw [Run.after_after]
      obtain ⟨parting, closing, -⟩ := run.1.leased.pollClose_begins
        (Pipeline.configure connection).2 (.failure cause.text cause) none before.calls_eq_nil
      rw [same_id] at closing
      exact .unframed given cause known unknown
        ((only_append _ _).mpr ⟨before.parting_of_aside, parting⟩) closing
  | begins isWaiting connection granted p framed x pipeline writeState frames events idle
      opening only isReading =>
      rw [granted] at reflects
      obtain ⟨given, known, bare⟩ := reflects
      have receipt := (Pipeline.configure_receipt connection).trans
        (Connection.receipt_of_bare bare)
      have before : Only Action.isPreparing (run.2 ++ (.leased connection.id :: opening)) :=
        (only_append _ _).mpr ⟨preparing, (only_cons _ _).mpr ⟨rfl, only.preparing_of_opening⟩⟩
      have passing : Only (Action.isPassing p) (run.2 ++ (.leased connection.id :: opening)) :=
        (only_append _ _).mpr ⟨aside.parting_of_aside.passing_of_parting,
          (only_cons _ _).mpr ⟨rfl, only.passing_of_opening⟩⟩
      have unasked (answer : Arrival) :
          .receive answer ∉ run.2 ++ (.leased connection.id :: opening) := by
        intro member
        cases before _ member
      rw [Pipeline.configure_of_bare bare] at framed
      rw [same] at frames isReading
      rw [Run.after_after]
      have reads : x.Reads request := by
        unfold Exchange.Reads
        rw [isReading, writeState]
        simp
      exact pollExchange run.1.leased rfl known receipt framed
        (Exchange.Writes.ofPreparing pipeline writeState frames before) reads events
        (Pipeline.attends_of_unasked unasked) passing now
  | drives x lease stage =>
      rw [stage] at isWaiting
      cases isWaiting
  | closes connection ending body stage =>
      rw [stage] at isWaiting
      cases isWaiting
  | departed gone =>
      rw [Stage.present_of_waiting isWaiting] at gone
      cases gone

/-- Every stimulus keeps an execution on its course. -/
theorem respond (h : Course granting request history run) {setting : Request × Timeouts × Handler}
    (custody : Custody granting setting history run) (same : run.1.request = request)
    (employs : run.1.stage.Employs granting history) (stimulus : Stimulus σ) :
    Course granting request (history ++ [stimulus]) ((run.1.respond stimulus).after run.2) := by
  refine concat ?_ stimulus
  cases h with
  | ahead isWaiting preparing aside =>
      rcases run.1.respond_waiting isWaiting stimulus with
        ⟨now, rfl⟩ | rfl | ⟨waiting, cancels, _⟩
      · exact pollWaiting isWaiting preparing aside same custody.reflects now
      · obtain ⟨body, gone⟩ :=
          (run.1.drop_dropping (Stage.present_of_waiting isWaiting)).gone
        exact .left .dropped body gone ((only_append _ _).mpr ⟨aside, run.1.drop_aside⟩)
      · exact .ahead waiting ((only_append _ _).mpr ⟨preparing, cancels.preparing_of_cancel⟩)
          ((only_append _ _).mpr ⟨aside, cancels.aside_of_cancel⟩)
  | drives x lease stage given p known framed writes reads empty attends passing =>
      rcases run.1.respond_exchanging stage stimulus with
        ⟨now, rfl⟩ | rfl | ⟨⟨y, moved, stays, _, fed⟩, cancels, _⟩
      · rw [stage] at employs
        obtain ⟨held, other, leased, known_other, same⟩ := employs
        obtain rfl := Acquisition.granted_unique known_other known
        simp only [Execution.respond, Execution.poll, stage]
        exact pollExchange run.1 leased known same framed writes reads empty attends passing now
      · obtain ⟨body, gone⟩ := (run.1.drop_dropping (by rw [stage]; rfl)).gone
        have aside := run.1.drop_aside
        refine .ended given p known framed run.2 run.1.drop.2 rfl attends (.quiet passing)
          aside.parting_of_aside ?_
        change Closing given.id run.1.drop.2 run.1.drop.1.stage
        rw [gone]
        exact .gone .dropped body (closesOnly_of_uncalled aside.calls_eq_nil)
      · have parting := cancels.aside_of_cancel.parting_of_aside
        have kept : y.Writes p request run.2 ∧ y.Reads request ∧ y.events = [] := by
          rcases fed with rfl | ⟨items, close, rfl⟩
          · exact ⟨writes, reads, empty⟩
          · exact ⟨writes.feed items close, reads, empty⟩
        obtain ⟨still_writes, still_reads, still_empty⟩ := kept
        exact .drives y moved stays given p known framed (still_writes.ofCancel cancels)
          still_reads still_empty (attends.append parting.unasked_of_parting)
          ((only_append _ _).mpr ⟨passing, parting.passing_of_parting⟩)
  | refused departure body stage error known =>
      obtain ⟨⟨left, gone⟩, -⟩ := run.1.respond_gone stage stimulus
      exact .refused departure left gone error known
  | left departure body stage aside =>
      obtain ⟨⟨left, gone⟩, cancels, -⟩ := run.1.respond_gone stage stimulus
      exact .left departure left gone ((only_append _ _).mpr ⟨aside, cancels.aside_of_cancel⟩)
  | unframed given cause known unknown parting closing =>
      obtain ⟨more, still⟩ := run.1.respond_closing closing stimulus
      exact .unframed given cause known unknown ((only_append _ _).mpr ⟨parting, more⟩) still
  | ended given p known framed front later whole attends halted parting closing =>
      obtain ⟨more, still⟩ := run.1.respond_closing closing stimulus
      refine .ended given p known framed front (later ++ (run.1.respond stimulus).2) ?_ attends
        (halted.append _) ((only_append _ _).mpr ⟨parting, more⟩) still
      rw [Run.after_snd, whole, List.append_assoc]

omit [Transport σ] in
/-- The connection that was granted, and its framing, are those of the course. -/
theorem framed (h : Course granting request history run) {connection : Connection σ}
    {p : Pipeline} (granted : granting.answerBy history = some (.ok connection))
    (framed : (Pipeline.configure connection).1 = .ok p) : Framed connection p request run := by
  have same {given : Connection σ} {q : Pipeline}
      (known : granting.answerBy history = some (.ok given))
      (configures : (Pipeline.configure given).1 = .ok q) : given = connection ∧ q = p := by
    obtain rfl := Acquisition.granted_unique known granted
    exact ⟨rfl, Except.ok.inj (configures.symm.trans framed)⟩
  cases h with
  | ahead isWaiting preparing aside =>
      refine .uncalled ?_ aside
      cases stage : run.1.stage <;> rw [stage] at isWaiting <;> first | rfl | cases isWaiting
  | left departure body stage aside => exact .uncalled (by rw [stage]; rfl) aside
  | refused departure body stage error known => cases known.symm.trans granted
  | unframed given cause known unknown parting closing =>
      obtain rfl := Acquisition.granted_unique known granted
      cases unknown.symm.trans framed
  | drives x lease stage given q known configures writes reads empty attends passing =>
      obtain ⟨rfl, rfl⟩ := same known configures
      exact .drives x lease stage writes reads empty attends passing
  | ended given q known configures front later whole attends halted parting closing =>
      obtain ⟨rfl, rfl⟩ := same known configures
      exact .ended front later whole attends halted parting closing

omit [Transport σ] in
/-- On a connection on which nothing can be framed nothing is done but to close it. -/
theorem unspoken (h : Course granting request history run) {connection : Connection σ}
    {cause : Failure} (granted : granting.answerBy history = some (.ok connection))
    (unknown : (Pipeline.configure connection).1 = .error cause) :
    ClosesOnly connection.id run.2 ∧ Only Action.isParting run.2 := by
  have silent (aside : Only Action.isAside run.2) :
      ClosesOnly connection.id run.2 ∧ Only Action.isParting run.2 :=
    ⟨closesOnly_of_uncalled aside.calls_eq_nil, aside.parting_of_aside⟩
  cases h with
  | ahead isWaiting preparing aside => exact silent aside
  | left departure body stage aside => exact silent aside
  | refused departure body stage error known =>
      rw [known] at granted
      cases granted
  | drives x lease stage given p known framed _ _ _ _ _ =>
      obtain rfl := Acquisition.granted_unique known granted
      rw [unknown] at framed
      cases framed
  | ended given p known framed _ _ _ _ _ _ _ =>
      obtain rfl := Acquisition.granted_unique known granted
      rw [unknown] at framed
      cases framed
  | unframed given other known _ parting closing =>
      obtain rfl := Acquisition.granted_unique known granted
      exact ⟨closing.closesOnly, parting⟩

end Course

end Execution

end HttpExchange
