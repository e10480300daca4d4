import HttpExchange.Proofs.Custody
import HttpExchange.Proofs.Sent

/-!
What an execution sent, at every moment of its life. The frames that the transport accepted
are a prefix of the reference of the request, whatever the producer goes on to answer, and they
contain the frames of all items that were taken from the producer. What was not taken is still
with the producer.
-/

namespace HttpExchange

open Trace

variable {σ : Type}

/-- How a stage and a trace stand to the framing, the request and the script of an exchange that
has begun. -/
def Stage.Transmits (p : Pipeline) (request : Request) (script : List BodyItem)
    (trace : List Action) : Stage σ → Prop
  | exchanging x _ => Exchange.Sends (.unsent p request script) x trace ∧ refused trace = []
  | closing _ _ (some body) | gone _ (some body) =>
    Sent p request trace ∧ Taken script trace body
  | _ => False

namespace Stage.Transmits

variable {p : Pipeline} {request : Request} {script : List BodyItem} {trace : List Action}
  {stage : Stage σ}

/-- The end of an exchange that has sent what its request demands. -/
theorem ofEnds {body : MeteredBody} (sent : Sent p request trace) (taken : Taken script trace body)
    {run : Execution.Run σ} (ends : Execution.Ends (some body) run) :
    run.1.stage.Transmits p request script (trace ++ run.2) := by
  have both := And.intro (sent.extend ends.offWire) (taken.extend ends.offWire)
  have remains := ends.remains
  cases stage : run.1.stage with
  | closing connection ending body | gone departure body =>
      rw [stage] at remains
      cases remains
      exact both
  | _ => rw [stage] at remains; cases remains

theorem ends (h : stage.Transmits p request script trace) {run : Execution.Run σ}
    (ends : Execution.Ends (stage.body?.map Prod.fst) run) :
    run.1.stage.Transmits p request script (trace ++ run.2) := by
  cases stage with
  | exchanging x lease => exact ofEnds h.1.sent_of_unsent h.1.items ends
  | closing connection ending body | gone departure body =>
      cases body with
      | none => exact h.elim
      | some body => exact ofEnds h.1 h.2 ends
  | created | acquiring => exact h.elim

theorem body?_isSome (h : stage.Transmits p request script trace) : stage.body?.isSome = true := by
  cases stage with
  | exchanging x lease => rfl
  | closing connection ending body | gone departure body =>
      cases body with
      | none => exact h.elim
      | some body => rfl
  | created | acquiring => exact h.elim

theorem sent (h : stage.Transmits p request script trace) : Sent p request trace ∧
    ∃ body isReleased, stage.body? = some (body, isReleased) ∧ Taken script trace body := by
  cases stage with
  | exchanging x lease => exact ⟨h.1.sent_of_unsent, _, _, rfl, h.1.items⟩
  | closing connection ending body | gone departure body =>
      cases body with
      | none => exact h.elim
      | some body => exact ⟨h.1, _, _, rfl, h.2⟩
  | created | acquiring => exact h.elim

theorem extend (h : stage.Transmits p request script trace) {actions : List Action}
    (offWire : Only Action.isOffWire actions) :
    stage.Transmits p request script (trace ++ actions) := by
  cases stage with
  | exchanging x lease =>
      refine ⟨h.1.trans h.2 (.ofOffWire rfl rfl offWire), ?_⟩
      rw [refused_append, h.2, offWire.refused_eq_nil]
      rfl
  | closing connection ending body | gone departure body =>
      cases body with
      | none => exact h.elim
      | some body => exact ⟨h.1.extend offWire, h.2.extend offWire⟩
  | created | acquiring => exact h.elim

theorem mapConnection (h : stage.Transmits p request script trace)
    (f : Connection σ → Connection σ) :
    (stage.mapConnection f).Transmits p request script trace := by
  cases stage with
  | closing connection ending body => cases body <;> exact h
  | _ => exact h

/-- What is added to the producer is added to the script. -/
theorem feed (h : stage.Transmits p request script trace) (items : List BodyItem)
    (close : Bool) :
    (stage.mapBody (·.feed items close)).Transmits p request (script ++ items) trace := by
  cases stage with
  | exchanging x lease => exact ⟨h.1.feed items close, h.2⟩
  | closing connection ending body | gone departure body =>
      cases body with
      | none => exact h.elim
      | some body => exact ⟨h.1, h.2.feed items close⟩
  | created | acquiring => exact h.elim

end Stage.Transmits

namespace Execution

/-- How an execution stands to what it is to send: its exchange has not begun and never may, or
it began on the connection that was granted. -/
inductive Transmission (granting : Acquisition σ) (request : Request) (script : List BodyItem)
    (history : List (Stimulus σ)) (run : Run σ) : Prop where
  | idle (bodiless : run.1.stage.body? = none) (offWire : Only Action.isOffWire run.2)
    (unfed : script = request.content.produce.items)
  | begun (connection : Connection σ) (p : Pipeline)
    (granted : granting.answerBy history = some (.ok connection))
    (framed : (Pipeline.configure connection).1 = .ok p)
    (transmits : run.1.stage.Transmits p request script run.2)

/-- What a stimulus adds to the producer of an execution, once there is one. -/
def fed (e : Execution σ) : Stimulus σ → List BodyItem
  | .feed items _ => if e.stage.body?.isSome then items else []
  | _ => []

/-- What a history adds to the producer of an execution. -/
def fedBy [Transport σ] (e : Execution σ) : List (Stimulus σ) → List BodyItem
  | [] => []
  | stimulus :: rest => e.fed stimulus ++ (e.respond stimulus).1.fedBy rest

theorem fedBy_concat [Transport σ] (e : Execution σ) (past : List (Stimulus σ))
    (stimulus : Stimulus σ) :
    e.fedBy (past ++ [stimulus]) = e.fedBy past ++ (e.play past).1.fed stimulus := by
  induction past generalizing e with
  | nil => simp [fedBy, play]
  | cons first rest ih =>
      simp only [List.cons_append, fedBy, play, Run.after_fst, ih, List.append_assoc]

namespace Transmission

variable {granting : Acquisition σ} {request : Request} {script : List BodyItem}
  {history : List (Stimulus σ)} {run : Run σ}

/-- An execution that does no more than to end, if it does that, has sent what it had to. -/
theorem ends (h : Transmission granting request script history run) (stimulus : Stimulus σ)
    {next : Run σ} (ends : Ends (run.1.stage.body?.map Prod.fst) next) :
    Transmission granting request script (history ++ [stimulus]) (next.after run.2) := by
  cases h with
  | idle bodiless offWire unfed =>
      rw [bodiless] at ends
      exact .idle ends.bodiless ((only_append _ _).mpr ⟨offWire, ends.offWire⟩) unfed
  | begun connection p granted framed transmits =>
      exact .begun connection p (Acquisition.answerBy_concat granted stimulus) framed
        (transmits.ends ends)

/-- What happens off the wire leaves an execution that did not begin as it is. -/
theorem ofIdle (h : Only Action.isOffWire run.2) {next : Run σ}
    (bodiless : next.1.stage.body? = none) (offWire : Only Action.isOffWire next.2)
    (unfed : script = request.content.produce.items) :
    Transmission granting request script history (next.after run.2) :=
  .idle bodiless ((only_append _ _).mpr ⟨h, offWire⟩) unfed

variable [Transport σ]

/-- A poll goes on with sending where the exchange stands. -/
theorem pollExchange {p : Pipeline} {e : Execution σ} {x : Exchange} {trace : List Action}
    (h : Exchange.Sends (.unsent p request script) x trace) (none_refused : refused trace = [])
    (lease : Lease σ) (now : Instant) :
    (e.pollExchange x lease now).1.stage.Transmits p request script
      (trace ++ (e.pollExchange x lease now).2) := by
  obtain ⟨sends, refusal⟩ := x.poll_sends lease e.handler e.completion now
  have sent := h.trans none_refused sends
  rcases e.pollExchange_ends x lease now with ⟨pending, next, stage, polled⟩ | ⟨run, ends, polled⟩
  · have none_now := refusal.resolve_right (by simp [pending])
    rw [polled, Run.after_fst, Run.after_snd, List.append_nil]
    rw [stage]
    refine ⟨sent, ?_⟩
    rw [refused_append, none_refused, none_now]
    rfl
  · rw [polled, Run.after_fst, Run.after_snd, ← List.append_assoc]
    exact .ofEnds sent.sent_of_unsent sent.items ends

/-- An exchange begins with nothing sent. -/
theorem beginExchange {e : Execution σ} {p : Pipeline} {trace : List Action}
    (h : Only Action.isOffWire trace) (same : e.request = request)
    (unfed : script = request.content.produce.items) (connection : Connection σ)
    (now : Instant) :
    (e.beginExchange p connection now).1.stage.Transmits p request script
      (trace ++ (e.beginExchange p connection now).2) := by
  obtain ⟨opening, x, begun, only, pipeline, _, frames, _⟩ :=
    e.beginExchange_opening p connection now
  subst same unfed
  have opened : Only Action.isOffWire (trace ++ opening) :=
    (only_append _ _).mpr ⟨h, only.offWire_of_opening⟩
  rw [begun, Run.after_fst, Run.after_snd, ← List.append_assoc]
  exact pollExchange (.ofOffWire frames pipeline opened) opened.refused_eq_nil _ now

/-- The exchange begins on the connection that was leased. -/
theorem useConnection (h : Only Action.isOffWire run.2) (same : run.1.request = request)
    (unfed : script = request.content.produce.items) {connection given : Connection σ}
    (known : granting.answerBy history = some (.ok given))
    (bare : connection.bare = given.bare) (now : Instant) :
    Transmission granting request script history
      ((run.1.useConnection connection now).after run.2) := by
  have leased : Only Action.isOffWire (run.2 ++ [.leased connection.id]) :=
    (only_append _ _).mpr ⟨h, by simp [Action.isOffWire]⟩
  have framed := Pipeline.configure_of_bare bare
  unfold Execution.useConnection
  dsimp only
  rw [Run.after_after]
  cases configured : (Pipeline.configure connection).1 with
  | error failure =>
      have ends := closeLease_ends { run.1 with
        completion := run.1.completion.attach
        acquisition := .taken } ⟨some (Pipeline.configure connection).2⟩
        (.failure failure.text failure) none
      exact .idle ends.bodiless ((only_append _ _).mpr ⟨leased, ends.offWire⟩) unfed
  | ok p =>
      rw [configured] at framed
      have attached : ({ run.1 with
        completion := run.1.completion.attach
        acquisition := .taken } : Execution σ).request = request := same
      exact .begun given p known framed.symm (beginExchange leased attached unfed _ now)

/-- Looking for the pool's answer begins the exchange, if there is a connection. -/
theorem pollAcquire (h : Only Action.isOffWire run.2) (same : run.1.request = request)
    (unfed : script = request.content.produce.items)
    (reflects : granting.Reflects history run.1.acquisition) (now : Instant) :
    Transmission granting request script history ((run.1.pollAcquire now).after run.2) := by
  cases acquisition : run.1.acquisition with
  | waiting | taken =>
      rw [pollAcquire_of_unanswered (by simp [acquisition])]
      exact ofIdle h rfl only_nil unfed
  | refused error =>
      have ends : Ends none (run.1.pollAcquire now) := by
        unfold Execution.pollAcquire
        rw [acquisition]
        exact (finish_ends { run.1 with acquisition := .taken } (.failure _ (.lease error))
          none).after [.refused error] (by simp [Action.isOffWire])
      exact ofIdle h ends.bodiless ends.offWire unfed
  | granted connection =>
      rw [acquisition] at reflects
      obtain ⟨given, known, bare⟩ := reflects
      rw [pollAcquire_of_granted acquisition]
      exact useConnection h same unfed known bare now

omit [Transport σ] in
/-- Nothing of the sending changes as long as the stage stays and nothing is sent. -/
theorem moved (h : Transmission granting request script history run) (next : Run σ)
    (stage : next.1.stage = run.1.stage) (offWire : Only Action.isOffWire next.2) :
    Transmission granting request script history (next.after run.2) := by
  cases h with
  | idle bodiless before unfed => exact ofIdle before (by rw [stage]; exact bodiless) offWire unfed
  | begun connection p granted framed transmits =>
      refine .begun connection p granted framed ?_
      rw [Run.after_fst, stage]
      exact transmits.extend offWire

omit [Transport σ] in
theorem mapConnections (h : Transmission granting request script history run)
    (f : Connection σ → Connection σ) :
    Transmission granting request script history
      (Run.after (run.1.mapConnections f, []) run.2) := by
  cases h with
  | idle bodiless offWire unfed =>
      refine ofIdle offWire ?_ only_nil unfed
      simp only [Execution.mapConnections, Stage.body?_mapConnection]
      exact bodiless
  | begun connection p granted framed transmits =>
      refine .begun connection p granted framed ?_
      rw [Run.after_snd, List.append_nil]
      exact transmits.mapConnection f

omit [Transport σ] in
theorem feed (h : Transmission granting request script history run) (items : List BodyItem)
    (close : Bool) :
    Transmission granting request (script ++ run.1.fed (.feed items close)) history
      (Run.after ({ run.1 with stage := run.1.stage.mapBody (·.feed items close) }, []) run.2) := by
  cases h with
  | idle bodiless offWire unfed =>
      have nothing_fed : run.1.fed (.feed items close) = [] := by simp [fed, bodiless]
      rw [nothing_fed, List.append_nil]
      have still_bodiless := Stage.body?_mapBody_of_none bodiless (·.feed items close)
      exact ofIdle offWire still_bodiless only_nil unfed
  | begun connection p granted framed transmits =>
      have all_fed : run.1.fed (.feed items close) = items := by
        simp [fed, transmits.body?_isSome]
      rw [all_fed]
      refine .begun connection p granted framed ?_
      rw [Run.after_snd, List.append_nil]
      exact transmits.feed items close

omit [Transport σ] in
/-- The history may grow. -/
theorem concat (h : Transmission granting request script history run) (stimulus : Stimulus σ) :
    Transmission granting request script (history ++ [stimulus]) run := by
  cases h with
  | idle bodiless offWire unfed => exact .idle bodiless offWire unfed
  | begun connection p granted framed transmits =>
      exact .begun connection p (Acquisition.answerBy_concat granted stimulus) framed transmits

theorem poll (h : Transmission granting request script history run)
    (same : run.1.request = request) (reflects : granting.Reflects history run.1.acquisition)
    (now : Instant) :
    Transmission granting request script (history ++ [.poll now])
      ((run.1.poll now).after run.2) := by
  unfold Execution.poll
  cases stage : run.1.stage with
  | created | acquiring =>
      cases h with
      | idle _ offWire unfed => exact (pollAcquire offWire same unfed reflects now).concat _
      | begun connection p granted framed transmits =>
          rw [stage] at transmits
          exact transmits.elim
  | exchanging x lease =>
      cases h with
      | idle bodiless _ _ =>
          rw [stage] at bodiless
          cases bodiless
      | begun connection p granted framed transmits =>
          rw [stage] at transmits
          exact concat (.begun connection p granted framed
            (pollExchange transmits.1 transmits.2 lease now)) _
  | closing connection ending body =>
      refine h.ends _ ?_
      rw [stage, Stage.body?_closing]
      exact run.1.pollClose_ends connection ending body
  | gone departure body => exact (h.moved (run.1, []) rfl only_nil).concat _

omit [Transport σ] in
theorem drop (h : Transmission granting request script history run) :
    Transmission granting request script (history ++ [.drop]) (run.1.drop.after run.2) := by
  cases present : run.1.stage.isGone with
  | true =>
      rw [run.1.drop_of_gone present]
      exact (h.moved (run.1, []) rfl only_nil).concat _
  | false => exact h.ends _ (run.1.drop_ends present)

/-- Every stimulus keeps an execution in step with what it is to send. -/
theorem respond (h : Transmission granting request script history run)
    (same : run.1.request = request) (reflects : granting.Reflects history run.1.acquisition)
    (stimulus : Stimulus σ) :
    Transmission granting request (script ++ run.1.fed stimulus) (history ++ [stimulus])
      ((run.1.respond stimulus).after run.2) := by
  have unfed : script ++ [] = script := List.append_nil script
  cases stimulus with
  | feed items close => exact (h.feed items close).concat _
  | poll now =>
      change Transmission granting request (script ++ []) _ _
      rw [unfed]
      exact h.poll same reflects now
  | drop =>
      change Transmission granting request (script ++ []) _ _
      rw [unfed]
      exact h.drop
  | cancel =>
      change Transmission granting request (script ++ []) _ _
      rw [unfed]
      exact (h.moved run.1.cancel rfl (by simp [cancel, Action.isOffWire])).concat _
  | answer given =>
      change Transmission granting request (script ++ []) _ _
      rw [unfed]
      exact (h.moved (run.1.answer given, []) (run.1.answer_stage given) only_nil).concat _
  | transport id change =>
      change Transmission granting request (script ++ []) _ _
      rw [unfed]
      exact (h.mapConnections _).concat _

end Transmission

/-- The items that were not taken from the producer, or never will be. -/
def untaken (e : Execution σ) : List BodyItem :=
  match e.stage.body? with
  | some (body, _) => body.producer.items
  | none => e.request.content.produce.items

section Life

variable [Transport σ] (id : ExecutionId) (request : Request) (timeouts : Timeouts)
  (handler : Handler) (acquisition : Acquisition σ)

/-- All items that the producer of a request is given over a history. -/
def script (history : List (Stimulus σ)) : List BodyItem :=
  request.content.produce.items ++
    (start id request timeouts handler acquisition).1.fedBy history

theorem life_transmission (history : List (Stimulus σ)) :
    Transmission acquisition request (script id request timeouts handler acquisition history)
      history (life id request timeouts handler acquisition history) := by
  -- the custody is carried along for what it knows of the request and of the pool's answer
  have both : Custody acquisition (request, timeouts, handler) history
      (life id request timeouts handler acquisition history) ∧
      Transmission acquisition request (script id request timeouts handler acquisition history)
        history (life id request timeouts handler acquisition history) := by
    refine life_invariant id request timeouts handler acquisition (fun past run =>
      Custody acquisition (request, timeouts, handler) past run ∧
        Transmission acquisition request (script id request timeouts handler acquisition past)
          past run) ?_ ?_ history
    · refine ⟨start_custody id request timeouts handler acquisition, .idle rfl ?_ ?_⟩
      · simp [start, Action.isOffWire]
      · simp [script, fedBy]
    · intro past stimulus h
      have same := congrArg Prod.fst h.1.setting
      have next := h.2.respond same h.1.reflects stimulus
      rw [script, fedBy_concat, ← List.append_assoc]
      exact ⟨h.1.respond stimulus, next⟩
  exact both.2

/-- At every moment of an execution that was granted a connection of a known protocol, the
frames that the transport accepted are a prefix of the reference of the request, whatever the
producer goes on to answer. As long as no frame was refused they hold the frames of all items
that were taken from the producer. What was taken is the script up to what is left of it, and
no more content was sent than was declared. -/
theorem accepted_isPrefix_reference (history : List (Stimulus σ)) (connection : Connection σ)
    (p : Pipeline) (granted : acquisition.answerBy history = some (.ok connection))
    (framed : (Pipeline.configure connection).1 = .ok p) :
    let run := life id request timeouts handler acquisition history
    let known := heard (answers run.2)
    (∀ later, accepted run.2 <+: p.reference request.head request.room (known ++ later)) ∧
    (refused run.2 = [] → known ≠ [] →
      p.wire (.head request.head :: itemFrames request.room known) <+: accepted run.2) ∧
    known.filterMap BodyAnswer.item? ++ solidItems run.1.untaken =
      solidItems (script id request timeouts handler acquisition history) ∧
    (accepted run.2).flatMap Outbound.payload <+:
      request.room.cut (known.flatMap BodyAnswer.bytes) := by
  intro run known
  have transmission := life_transmission id request timeouts handler acquisition history
  have custody := life_custody id request timeouts handler acquisition history
  have same : run.1.request = request := congrArg Prod.fst custody.setting
  cases transmission with
  | idle bodiless offWire unfed =>
      have none_accepted : accepted run.2 = [] := offWire.accepted_eq_nil
      have none_known : known = [] := congrArg heard offWire.answers_eq_nil
      have all_left : run.1.untaken = script id request timeouts handler acquisition history := by
        rw [untaken, bodiless, unfed, ← same]
      rw [none_accepted, none_known, all_left]
      exact ⟨fun later => List.nil_prefix, fun _ some_known => absurd rfl some_known, rfl,
        List.nil_prefix⟩
  | begun other p' known_granted framed' transmits =>
      obtain rfl : other = connection :=
        Except.ok.inj (Option.some.inj (known_granted.symm.trans granted))
      obtain rfl : p' = p := Except.ok.inj (framed'.symm.trans framed)
      obtain ⟨sent, body, isReleased, stage_body, taken⟩ := transmits.sent
      have some_accepted : accepted run.2 <+: offered run.2 := by
        rw [sent.ordered]
        exact List.prefix_append _ _
      have within (later : List BodyAnswer) :
          accepted run.2 <+: p'.reference request.head request.room (known ++ later) := by
        rw [Pipeline.reference_heard_append]
        exact some_accepted.trans (sent.within later)
      refine ⟨within, ?_, ?_, ?_⟩
      · intro none_refused some_known
        have asked : answers run.2 ≠ [] := by
          intro none_asked
          exact some_known (congrArg heard none_asked)
        have whole := sent.whole asked
        rw [sent.ordered, none_refused, List.append_nil, ← itemFrames_heard] at whole
        exact whole
      · rw [heard_filterMap_item?, untaken, stage_body]
        exact taken
      · have carried := (within []).flatMap Outbound.payload
        rw [List.append_nil] at carried
        exact carried.trans (p'.reference_payload request.head request.room known)

end Life

/-- Two chunks on a multiplexed connection that has room for the head and one frame more. -/
theorem accepted_isPrefix_reference_multiplexed :
    let connection : Connection Bench.Wire :=
      .ofTransport ⟨7⟩ Protocol.http2.text { Bench.Wire.idle with capacity := some 2 }
    let request : Request := { Bench.plainRequest with
      content := .stream (.ofItems [.data [1, 2], .pending, .data [3]]) }
    let run := life 1 request .standard .quiet (.granted connection) [.poll ⟨0⟩, .poll ⟨1⟩]
    heard (answers run.2) = [.data [1, 2]] ∧
      (Pipeline.ofStream ⟨1⟩).wire [.head request.head, .data [1, 2]] <+: accepted run.2 := by
  intro connection request run
  have known : heard (answers run.2) = [.data [1, 2]] := by decide +kernel
  obtain ⟨_, whole, _, _⟩ := accepted_isPrefix_reference 1 request .standard .quiet
    (.granted connection) [.poll ⟨0⟩, .poll ⟨1⟩] connection (.ofStream ⟨1⟩) rfl (by decide +kernel)
  have taken := whole (by decide +kernel) (by rw [known]; exact List.cons_ne_nil _ _)
  rw [known] at taken
  exact ⟨known, taken⟩

end Execution

end HttpExchange
