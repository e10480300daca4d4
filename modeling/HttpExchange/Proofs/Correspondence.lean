import HttpExchange.Proofs.Polling
import HttpExchange.Proofs.Rounds
import HttpExchange.Proofs.Vocabulary

/-!
Two exchanges that go on in the same way. Their transports answer alike, up to the words their
framings use for the frames of the exchange and up to received frames that mean nothing to
either. Each part of a poll has one lemma: what both exchanges do differs in their words only, and
both are left in the same state.
-/

namespace HttpExchange

open Trace

namespace Lockstep

variable {σ τ : Type} [Transport σ] [Transport τ] {L : Lockstep σ τ}

section Steps

variable {ρ ρ' : Type} {Resources : ρ → ρ' → Prop}

structure WriteSteps (L : Lockstep σ τ) (Resources : ρ → ρ' → Prop) (one : WriteStep ρ)
    (other : WriteStep ρ') : Prop where
  exchange : L.Exchanges one.exchange other.exchange
  resource : Resources one.resource other.resource
  actions : L.Traces one.actions other.actions
  turn : one.turn = other.turn

structure Steps (L : Lockstep σ τ) (Resources : ρ → ρ' → Prop) (one : Step ρ)
    (other : Step ρ') : Prop where
  exchange : L.Exchanges one.exchange other.exchange
  resource : Resources one.resource other.resource
  completion : one.completion = other.completion
  actions : L.Traces one.actions other.actions
  turn : one.turn = other.turn

theorem WriteSteps.after {one : WriteStep ρ} {other : WriteStep ρ'}
    (steps : L.WriteSteps Resources one other) {first second : List Action}
    (traces : L.Traces first second) :
    L.WriteSteps Resources (one.after first) (other.after second) :=
  ⟨steps.exchange, steps.resource, traces.append steps.actions, steps.turn⟩

theorem Steps.after {one : Step ρ} {other : Step ρ'} (steps : L.Steps Resources one other)
    {first second : List Action} (traces : L.Traces first second) :
    L.Steps Resources (one.after first) (other.after second) :=
  ⟨steps.exchange, steps.resource, steps.completion, traces.append steps.actions, steps.turn⟩

end Steps

section Exchange

variable {x y : Exchange} {s : σ} {t : τ} {now : Instant}

theorem stall (exchanges : L.Exchanges x y) (matched : L.Matches s t) :
    L.WriteSteps L.Matches (x.stall s now) (y.stall t now) := by
  obtain ⟨q, framed⟩ := exchanges
  exact ⟨.of _ q framed, matched, .wordless (by simp [Exchange.stall, Action.isWordless]), rfl⟩

theorem flushRequest (exchanges : L.Exchanges x y) (matched : L.Matches s t) :
    L.WriteSteps L.Matches (x.flushRequest s now) (y.flushRequest t now) := by
  obtain ⟨same, later⟩ := L.mirrors.flush matched
  unfold Exchange.flushRequest
  dsimp only
  rw [← same]
  refine WriteSteps.after ?_ (.wordless (by simp [Action.isWordless]))
  split
  · exact ⟨exchanges, later, .nil, rfl⟩
  · exact ⟨exchanges, later, .nil, rfl⟩
  · exact stall exchanges later

theorem flushAccepted (exchanges : L.Exchanges x y) (matched : L.Matches s t) :
    L.WriteSteps L.Matches (x.flushAccepted s now) (y.flushAccepted t now) := by
  obtain ⟨same, later⟩ := L.mirrors.flush matched
  unfold Exchange.flushAccepted
  dsimp only
  rw [← same]
  refine WriteSteps.after ?_ (.wordless (by simp [Action.isWordless]))
  split
  · obtain ⟨q, framed⟩ := exchanges
    exact ⟨.of _ q framed, later, .wordless (by simp [Action.isWordless]), rfl⟩
  · exact ⟨exchanges, later, .nil, rfl⟩
  · exact stall exchanges later

theorem askings_wordless (x : Exchange) : Only Action.isWordless x.askings := by
  refine (only_cons _ _).mpr ⟨rfl, ?_⟩
  intro action member
  obtain ⟨answer, _, rfl⟩ := List.mem_map.mp member
  rfl

/-- One round in which the sources yield a frame, with what is known of the rounds behind it. -/
theorem writeFrame {q : Pipeline} {frame : RequestFrame}
    (framed : L.Framed x.frames x.pipeline q)
    (room : (Transport.ready s).1 = .done) (room' : (Transport.ready t).1 = .done)
    (settled : L.Matches (Transport.ready s).2 (Transport.ready t).2)
    (yielded : x.frames.poll.answer = .frame frame)
    (again : ∀ {next image : Exchange} {s' : σ} {t' : τ}, next.frames = x.frames.poll.source →
      L.Exchanges next image → L.Matches s' t' →
      L.WriteSteps L.Matches (next.writeFrames s' now) (image.writeFrames t' now)) :
    L.WriteSteps L.Matches (x.writeFrames s now)
      ({ x with pipeline := q }.writeFrames t now) := by
  have asking : L.Traces x.askings x.askings := .wordless (askings_wordless x)
  obtain ⟨words, framed⟩ := L.frames.encode framed yielded
  generalize encoded : (x.pipeline.encode frame).1 = one,
    image : (q.encode frame).1 = other at words
  cases words with
  | none =>
      rw [Exchange.writeFrames_of_unwritten room yielded encoded,
        Exchange.writeFrames_of_unwritten (x := { x with pipeline := q }) room' yielded image]
      exact (again rfl (.of { x.asked with pipeline := _ } _ framed) settled).after asking
  | @some outbound other sent =>
      obtain ⟨sameAnswer, sentBoth⟩ := L.mirrors.send settled sent
      have offering (refusal : Option NetError) :
          L.Traces (x.askings ++ [.write outbound refusal])
            (x.askings ++ [.write other refusal]) :=
        asking.append (.write sent refusal .nil)
      have touching : L.Traces [.timer .writeProgress] [.timer .writeProgress] :=
        .wordless (by simp [Action.isWordless])
      rcases answer : (Transport.send (Transport.ready s).2 outbound).1 with _ | error
      · have answer' := sameAnswer ▸ answer
        rcases touched : x.idle.writeProgress? now with _ | idle
        · rw [Exchange.writeFrames_of_crashed room yielded encoded answer touched,
            Exchange.writeFrames_of_crashed (x := { x with pipeline := q }) room' yielded image
              answer' touched]
          exact ⟨.of { x.asked with pipeline := _ } _ framed, sentBoth,
            (offering none).append touching, rfl⟩
        · rw [Exchange.writeFrames_of_taken room yielded encoded answer touched,
            Exchange.writeFrames_of_taken (x := { x with pipeline := q }) room' yielded image
              answer' touched]
          exact (again rfl (.of { x.asked with pipeline := _, idle := idle } _ framed)
            sentBoth).after ((offering none).append touching)
      · rw [Exchange.writeFrames_of_refused room yielded encoded answer,
          Exchange.writeFrames_of_refused (x := { x with pipeline := q }) room' yielded image
            (sameAnswer ▸ answer)]
        exact ⟨.of { x.asked with pipeline := _ } _ framed, sentBoth, offering _, rfl⟩

/-- Both loops take the same frames from their sources, so they go the same way in each round. -/
theorem writeFrames (exchanges : L.Exchanges x y) (matched : L.Matches s t) :
    L.WriteSteps L.Matches (x.writeFrames s now) (y.writeFrames t now) := by
  induction steps : x.frames.steps using Nat.strong_induction_on generalizing x y s t with
  | h bound ih =>
    subst steps
    obtain ⟨q, framed⟩ := exchanges
    have asking : L.Traces x.askings x.askings := .wordless (askings_wordless x)
    obtain ⟨sameRoom, settled⟩ := L.mirrors.ready matched
    rcases room : (Transport.ready s).1 with _ | _ | error
    · rw [Exchange.writeFrames_of_full room, Exchange.writeFrames_of_full (sameRoom ▸ room)]
      exact (stall (.of x q framed) settled).after (.wordless (by simp [Action.isWordless]))
    · have room' := sameRoom ▸ room
      rcases answered : x.frames.poll.answer with _ | frame | failure | _
      · rw [Exchange.writeFrames_of_bodyPending room answered,
          Exchange.writeFrames_of_bodyPending (x := { x with pipeline := q }) room' answered]
        have framed := L.frames.poll framed (by simp [answered])
        exact (flushAccepted (.of x.asked q framed) settled).after asking
      · refine writeFrame framed room room' settled answered ?_
        intro next image s' t' source exchanges matched
        exact ih _ (source ▸ FrameSource.poll_steps answered) exchanges matched rfl
      · rw [Exchange.writeFrames_of_bodyFailed room answered,
          Exchange.writeFrames_of_bodyFailed (x := { x with pipeline := q }) room' answered]
        have framed := L.frames.poll framed (by simp [answered])
        exact ⟨.of x.asked q framed, settled, asking, rfl⟩
      · rw [Exchange.writeFrames_of_finished room answered,
          Exchange.writeFrames_of_finished (x := { x with pipeline := q }) room' answered]
        have framed := L.frames.poll framed (by simp [answered])
        exact (flushRequest (.of { x.asked with writeState := .flushing } q framed) settled).after
          asking
    · rw [Exchange.writeFrames_of_failed room, Exchange.writeFrames_of_failed (sameRoom ▸ room)]
      exact ⟨.of x q framed, settled, .wordless (by simp [Action.isWordless]), rfl⟩

theorem call_wordless (h : Handler) (callback : Callback) (c : Completion) :
    Only Action.isWordless (h.call callback c).actions := by
  unfold Handler.call
  dsimp only
  split <;> simp [Action.isWordless]

theorem deliver_wordless (h : Handler) (events : List ResponseEvent) (c : Completion) :
    Only Action.isWordless (h.deliver events c).actions := by
  fun_induction Handler.deliver h events c with
  | case1 => exact only_nil
  | case2 => simp [Action.isWordless]
  | case3 event rest c callback made => exact call_wordless h callback c
  | case4 event rest c callback made called going later ih =>
      exact (only_append _ _).mpr ⟨call_wordless h callback c, ih⟩

theorem progressActions_wordless (x : Exchange) : Only Action.isWordless x.progressActions := by
  unfold Exchange.progressActions
  split <;> simp [Action.isWordless]

theorem noteProgress?_reframed (x : Exchange) (q : Pipeline) (now : Instant) :
    { x with pipeline := q }.noteProgress? now =
      (x.noteProgress? now).map fun next => { next with pipeline := q } := by
  unfold Exchange.noteProgress?
  split
  · rfl
  · simp [Function.comp_def]

variable {h : Handler} {c : Completion}

/-- One round in which both sides receive a frame, with what is known of the rounds behind it. -/
theorem readReceived {q : Pipeline} {frame image : Inbound} (empty : x.events = [])
    (framed : L.Framed x.frames x.pipeline q) (one : (Transport.receive s).1 = .frame frame)
    (other : (Transport.receive t).1 = .frame image) (received : L.Receives frame image)
    (rest : L.Matches (Transport.receive s).2 (Transport.receive t).2)
    (again : ∀ {next image : Exchange} {s' : σ} {t' : τ},
      Transport.backlog s' + Transport.backlog t' < Transport.backlog s + Transport.backlog t →
      L.Exchanges next image → L.Matches s' t' →
      L.Steps L.Matches (next.readFrames s' h c now) (image.readFrames t' h c now)) :
    L.Steps L.Matches (x.readFrames s h c now)
      ({ x with pipeline := q }.readFrames t h c now) := by
  have shorter := Transport.receive_backlog s _ one
  have shorter' := Transport.receive_backlog t _ other
  have same := L.frames.decode framed received []
  have progress :
      L.Traces
        (.receive (.frame frame) ::
          { x with events := (x.pipeline.decode frame []).1 }.progressActions)
        (.receive (.frame image) ::
          { x with events := (x.pipeline.decode frame []).1 }.progressActions) :=
    .receive received (.wordless (progressActions_wordless _))
  -- both sides put the same events into their queues
  have noting := noteProgress?_reframed { x with events := (x.pipeline.decode frame []).1 } q now
  rcases decoded : (x.pipeline.decode frame []).2 with _ | failure
  · rcases noted : { x with events := (x.pipeline.decode frame []).1 }.noteProgress? now
      with _ | next
    · rw [noted] at noting
      rw [Exchange.readFrames_of_late empty one decoded noted,
        Exchange.readFrames_of_late (x := { x with pipeline := q }) empty other
          (same ▸ decoded) (same ▸ noting)]
      simp only [← same]
      exact ⟨.of { x with events := _ } q framed, rest, rfl, progress, rfl⟩
    · rw [noted] at noting
      rw [Exchange.readFrames_of_decoded empty one decoded noted,
        Exchange.readFrames_of_decoded (x := { x with pipeline := q }) empty other
          (same ▸ decoded) (same ▸ noting)]
      simp only [← same]
      obtain ⟨frames, pipeline, -, -⟩ := Exchange.noteProgress?_frame noted
      have framed : L.Framed next.frames next.pipeline q := by
        rw [frames, pipeline]
        exact framed
      exact (again (by omega) (.of next q framed) rest).after progress
  · rw [Exchange.readFrames_of_undecoded empty one decoded,
      Exchange.readFrames_of_undecoded (x := { x with pipeline := q }) empty other
        (same ▸ decoded)]
    simp only [← same]
    exact ⟨.of { x with events := _ } q framed, rest, rfl, .receive received .nil, rfl⟩

/-- One round with nothing left to deliver, with what is known of the rounds behind it. -/
theorem readFrame {q : Pipeline} (empty : x.events = [])
    (framed : L.Framed x.frames x.pipeline q) (matched : L.Matches s t)
    (again : ∀ {next image : Exchange} {s' : σ} {t' : τ},
      Transport.backlog s' + Transport.backlog t' < Transport.backlog s + Transport.backlog t →
      L.Exchanges next image → L.Matches s' t' →
      L.Steps L.Matches (next.readFrames s' h c now) (image.readFrames t' h c now)) :
    L.Steps L.Matches (x.readFrames s h c now)
      ({ x with pipeline := q }.readFrames t h c now) := by
  have exchanges : L.Exchanges x { x with pipeline := q } := .of x q framed
  cases L.mirrors.receive matched with
  | first received ignored rest =>
      have shorter := Transport.receive_backlog s _ received
      have passed := (L.frames.pass framed ignored []).1
      rw [Exchange.readFrames_of_passed empty received (empty ▸ passed)]
      exact (again (by omega) exchanges rest).after (.first ignored .nil)
  | second received ignored rest =>
      have shorter := Transport.receive_backlog t _ received
      rw [Exchange.readFrames_of_passed (x := { x with pipeline := q }) empty received
        (empty ▸ (L.frames.pass framed ignored []).2)]
      exact (again (by omega) exchanges rest).after (.second ignored .nil)
  | together arrives rest =>
      generalize one : (Transport.receive s).1 = arrival,
        other : (Transport.receive t).1 = arrival' at arrives
      cases arrives with
      | pending =>
          rw [Exchange.readFrames_of_pending empty one,
            Exchange.readFrames_of_pending (x := { x with pipeline := q }) empty other]
          exact ⟨exchanges, rest, rfl, .wordless (by simp [Action.isWordless]), rfl⟩
      | failed error =>
          rw [Exchange.readFrames_of_failed empty one,
            Exchange.readFrames_of_failed (x := { x with pipeline := q }) empty other]
          exact ⟨exchanges, rest, rfl, .wordless (by simp [Action.isWordless]), rfl⟩
      | closed =>
          rw [Exchange.readFrames_of_closed empty one,
            Exchange.readFrames_of_closed (x := { x with pipeline := q }) empty other]
          exact ⟨exchanges, rest, rfl, .wordless (by simp [Action.isWordless]), rfl⟩
      | frame received => exact readReceived empty framed one other received rest again

/-- Both loops deliver the same events and receive frames for the same new ones. -/
theorem readFrames (exchanges : L.Exchanges x y) (matched : L.Matches s t) (h : Handler)
    (c : Completion) (now : Instant) :
    L.Steps L.Matches (x.readFrames s h c now) (y.readFrames t h c now) := by
  induction backlog : Transport.backlog s + Transport.backlog t using Nat.strong_induction_on
    generalizing x y s t c with
  | h bound ih =>
    subst backlog
    obtain ⟨q, framed⟩ := exchanges
    have told : L.Traces (h.deliver x.events c).actions (h.deliver x.events c).actions :=
      .wordless (deliver_wordless h x.events c)
    rcases turn : (h.deliver x.events c).turn with _ | _ | _
    · rw [Exchange.readFrames_of_drained turn,
        Exchange.readFrames_of_drained (x := { x with pipeline := q }) turn]
      refine Steps.after ?_ told
      refine readFrame (x := { x with events := [] }) rfl framed matched ?_
      intro next image s' t' shorter exchanges matched
      exact ih _ shorter exchanges matched _ rfl
    · rw [Exchange.readFrames_of_ended turn,
        Exchange.readFrames_of_ended (x := { x with pipeline := q }) turn]
      exact ⟨.of { x with events := _ } q framed, matched, rfl, told, rfl⟩
    · rw [Exchange.readFrames_of_brokeOff turn,
        Exchange.readFrames_of_brokeOff (x := { x with pipeline := q }) turn]
      exact ⟨.of { x with events := _ } q framed, matched, rfl, told, rfl⟩

end Exchange

/-- Two connections that differ in their transports and in what was negotiated on them. -/
structure Joins (L : Lockstep σ τ) (c : Connection σ) (d : Connection τ) : Prop where
  receipt : c.receipt = d.receipt
  transport : L.Matches c.transport d.transport

theorem Joins.id {c : Connection σ} {d : Connection τ} (joins : L.Joins c d) : c.id = d.id :=
  congrArg Prod.fst joins.receipt

/-- Both connections are closed. -/
theorem Joins.shut {c : Connection σ} {d : Connection τ} (joins : L.Joins c d) {s : σ} {t : τ}
    (matched : L.Matches s t) :
    L.Joins { c with transport := s, isOpen := false }
      { d with transport := t, isOpen := false } :=
  ⟨congrArg (·, false) joins.id, matched⟩

def Leases (L : Lockstep σ τ) (one : Lease σ) (other : Lease τ) : Prop :=
  Option.Rel L.Joins one.connection other.connection

section Poll

variable {x y : Exchange} {one : Lease σ} {other : Lease τ} {now : Instant} {h : Handler}
  {c : Completion}

theorem continueWrite {s : σ} {t : τ} (exchanges : L.Exchanges x y) (matched : L.Matches s t)
    (now : Instant) :
    L.WriteSteps L.Matches (x.continueWrite s now) (y.continueWrite t now) := by
  obtain ⟨q, framed⟩ := exchanges
  unfold Exchange.continueWrite
  dsimp only
  split
  · exact writeFrames (.of x q framed) matched
  · exact flushRequest (.of x q framed) matched
  · exact ⟨.of x q framed, matched, .nil, rfl⟩

theorem writeOn (exchanges : L.Exchanges x y) (leases : L.Leases one other) (now : Instant) :
    L.WriteSteps L.Leases (x.writeOn one now) (y.writeOn other now) := by
  obtain ⟨connection⟩ := one
  obtain ⟨connection'⟩ := other
  cases leases with
  | none => exact ⟨exchanges, .none, .nil, rfl⟩
  | some joins =>
      have steps := continueWrite exchanges joins.transport now
      exact ⟨steps.exchange, .some ⟨joins.receipt, steps.resource⟩, steps.actions, steps.turn⟩

theorem requestWritten (exchanges : L.Exchanges x y) (now : Instant) :
    L.Exchanges (x.requestWritten now).1 (y.requestWritten now).1 ∧
      L.Traces (x.requestWritten now).2 (y.requestWritten now).2 := by
  obtain ⟨q, framed⟩ := exchanges
  unfold Exchange.requestWritten
  dsimp only
  split
  · exact ⟨.of { x with writeState := _, idle := _ } q framed,
      .wordless (by simp [Action.isWordless])⟩
  · exact ⟨.of { x with writeState := _, idle := _, isReading := _ } q framed,
      .wordless (by simp [Action.isWordless])⟩

theorem pollWrite (exchanges : L.Exchanges x y) (leases : L.Leases one other) (now : Instant) :
    L.WriteSteps L.Leases (x.pollWrite one now) (y.pollWrite other now) := by
  have steps := writeOn exchanges leases now
  unfold Exchange.pollWrite
  rw [exchanges.writeState]
  split
  · exact ⟨exchanges, leases, .nil, rfl⟩
  · dsimp only
    rw [← steps.turn]
    split
    · obtain ⟨written, touched⟩ := requestWritten steps.exchange now
      exact ⟨written, steps.resource, steps.actions.append touched, rfl⟩
    · exact steps

theorem readOn (exchanges : L.Exchanges x y) (leases : L.Leases one other) :
    L.Steps L.Leases (x.readOn one h c now) (y.readOn other h c now) := by
  obtain ⟨connection⟩ := one
  obtain ⟨connection'⟩ := other
  cases leases with
  | none =>
      obtain ⟨q, framed⟩ := exchanges
      exact ⟨.of { x with events := _ } q framed, .none, rfl,
        .wordless (deliver_wordless h x.events c), rfl⟩
  | some joins =>
      have steps := readFrames exchanges joins.transport h c now
      exact ⟨steps.exchange, .some ⟨joins.receipt, steps.resource⟩, steps.completion,
        steps.actions, steps.turn⟩

theorem pollRead (exchanges : L.Exchanges x y) (leases : L.Leases one other) (h : Handler)
    (c : Completion) (now : Instant) :
    L.Steps L.Leases (x.pollRead one h c now) (y.pollRead other h c now) := by
  unfold Exchange.pollRead
  rw [exchanges.isReading]
  split
  · exact readOn exchanges leases
  · exact ⟨exchanges, leases, rfl, .nil, rfl⟩

theorem pollTimers (exchanges : L.Exchanges x y) (leases : L.Leases one other) :
    L.Steps L.Leases (x.pollTimers one c now) (y.pollTimers other c now) := by
  obtain ⟨q, framed⟩ := exchanges
  exact ⟨.of { x with idle := _ } q framed, leases, rfl,
    .wordless (by simp [Exchange.pollTimers, Action.isWordless]), rfl⟩

theorem pollAfterWrite (exchanges : L.Exchanges x y) (leases : L.Leases one other) :
    L.Steps L.Leases (x.pollAfterWrite one h c now) (y.pollAfterWrite other h c now) := by
  have read := pollRead exchanges leases h c now
  unfold Exchange.pollAfterWrite
  dsimp only
  rw [← read.turn]
  split
  · rw [← read.completion]
    exact (pollTimers read.exchange read.resource).after read.actions
  · exact read

theorem pollParts (exchanges : L.Exchanges x y) (leases : L.Leases one other) :
    L.Steps L.Leases (x.pollParts one h c now) (y.pollParts other h c now) := by
  have write := pollWrite exchanges leases now
  unfold Exchange.pollParts
  dsimp only
  rw [← write.turn]
  split
  · exact ⟨write.exchange, write.resource, rfl, write.actions, rfl⟩
  · exact ⟨write.exchange, write.resource, rfl, write.actions, rfl⟩
  all_goals exact (pollAfterWrite write.exchange write.resource).after write.actions

theorem poll (exchanges : L.Exchanges x y) (leases : L.Leases one other) :
    L.Steps L.Leases (x.poll one h c now) (y.poll other h c now) := by
  unfold Exchange.poll
  dsimp only
  split
  · exact ⟨exchanges, leases, rfl, .wordless (by simp [Action.isWordless]), rfl⟩
  · exact (pollParts exchanges leases).after (.wordless (by simp [Action.isWordless]))

end Poll

end Lockstep

end HttpExchange
