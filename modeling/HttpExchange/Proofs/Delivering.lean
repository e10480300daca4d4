import HttpExchange.Proofs.Flushing
import HttpExchange.Proofs.Polling

/-!
The end of a response in a poll. It is found last, if it is found, and the response is delivered if
the whole request was accepted and flushed before.
-/

namespace HttpExchange

open Trace

namespace Trace

/-- The end of the response is found in a trace exactly if `ended`, and nothing is done behind
it. -/
inductive FindsEnd (ended : Prop) : List Action → Prop where
  | going {trace : List Action} (unmarked : .responseEnd ∉ trace) (going : ¬ended) :
      FindsEnd ended trace
  | found {trace : List Action} (unmarked : .responseEnd ∉ trace) (found : ended) :
      FindsEnd ended (trace ++ [.responseEnd])

variable {ended other : Prop} {first trace : List Action}

theorem FindsEnd.prepend (h : FindsEnd ended trace) (unmarked : .responseEnd ∉ first) :
    FindsEnd ended (first ++ trace) := by
  have joined {rest : List Action} (rest_unmarked : .responseEnd ∉ rest) :
      .responseEnd ∉ first ++ rest := by
    simp [unmarked, rest_unmarked]
  cases h with
  | going unmarked going => exact .going (joined unmarked) going
  | found unmarked found =>
      rw [← List.append_assoc]
      exact .found (joined unmarked) found

theorem FindsEnd.congr (h : FindsEnd ended trace) (same : ended ↔ other) :
    FindsEnd other trace := by
  rwa [propext same] at h

theorem FindsEnd.unmarked (h : FindsEnd ended trace) (going : ¬ended) : .responseEnd ∉ trace := by
  cases h with
  | going unmarked _ => exact unmarked
  | found _ found => exact absurd found going

end Trace

namespace Pipeline

variable {p : Pipeline} {request : Request} {trace more : List Action}

/-- The end of the response was found after the whole request was with the transport. -/
def Delivered (p : Pipeline) (request : Request) (trace : List Action) : Prop :=
  ∃ before, before ++ [.responseEnd] <+: trace ∧ p.Flushed request before

theorem Delivered.append (h : p.Delivered request trace) (more : List Action) :
    p.Delivered request (trace ++ more) := by
  obtain ⟨before, found, flushed⟩ := h
  exact ⟨before, found.trans (List.prefix_append _ _), flushed⟩

theorem delivered_append (unmarked : .responseEnd ∉ more) :
    p.Delivered request (trace ++ more) ↔ p.Delivered request trace := by
  constructor
  · rintro ⟨before, found, flushed⟩
    exact ⟨before, (mark_isPrefix_append unmarked _ _).mp found, flushed⟩
  · intro h
    exact h.append more

theorem not_delivered (unmarked : .responseEnd ∉ trace) : ¬p.Delivered request trace := by
  rintro ⟨before, found, _⟩
  exact unmarked (found.subset (by simp))

/-- The first end of the response that is found decides. -/
theorem delivered_concat (unmarked : .responseEnd ∉ trace) :
    p.Delivered request (trace ++ [.responseEnd]) ↔ p.Flushed request trace := by
  constructor
  · rintro ⟨before, found, flushed⟩
    rcases (mark_isPrefix_concat _ _).mp found with rfl | within
    · exact flushed
    · exact absurd ⟨before, within, flushed⟩ (not_delivered unmarked)
  · intro flushed
    exact ⟨trace, List.prefix_rfl, flushed⟩

end Pipeline

theorem Handler.deliver_findsEnd (h : Handler) (events : List ResponseEvent) (c : Completion) :
    FindsEnd ((h.deliver events c).turn = .ended) (h.deliver events c).actions := by
  have called (callback : Callback) (c : Completion) :
      .responseEnd ∉ (h.call callback c).actions := by
    unfold call
    dsimp only
    split <;> simp
  fun_induction deliver h events c with
  | case1 => exact .going (by simp) (by simp)
  | case2 =>
      change FindsEnd _ ([] ++ [.responseEnd])
      exact .found List.not_mem_nil rfl
  | case3 => exact .going (called _ _) (by simp)
  | case4 =>
      rename_i ih
      exact ih.prepend (called _ _)

namespace Exchange

variable {σ : Type} [Transport σ]

theorem readFrames_findsEnd (x : Exchange) (s : σ) (h : Handler) (c : Completion)
    (now : Instant) : FindsEnd ((x.readFrames s h c now).turn = .ended .complete)
      (x.readFrames s h c now).actions := by
  have delivered {turn : DeliveryTurn} {x : Exchange} {c : Completion}
      (delivers : (h.deliver x.events c).turn = turn) (going : turn ≠ .ended) :
      .responseEnd ∉ (h.deliver x.events c).actions :=
    (h.deliver_findsEnd x.events c).unmarked (delivers ▸ going)
  have received {x : Exchange} {c : Completion}
      (drained : (h.deliver x.events c).turn = .drained) (arrival : Arrival) :
      .responseEnd ∉ (h.deliver x.events c).actions ++ [.receive arrival] := by
    simp [delivered drained (by simp)]
  have progressed {x : Exchange} {c : Completion}
      (drained : (h.deliver x.events c).turn = .drained) (arrival : Arrival) (queued : Exchange) :
      .responseEnd ∉ (h.deliver x.events c).actions ++ [.receive arrival] ++
        queued.progressActions := by
    have quiet : .responseEnd ∉ queued.progressActions := by
      unfold progressActions
      split <;> simp
    simp [delivered drained (by simp), quiet]
  fun_induction readFrames x s h c now with
  | case1 =>
      rename_i ended
      exact (h.deliver_findsEnd _ _).congr (iff_of_true ended rfl)
  | case2 =>
      rename_i crashed
      exact .going (delivered crashed (by simp)) (by simp)
  | case3 | case4 | case5 | case6 => exact .going (received ‹_› _) (by simp)
  | case7 => exact .going (progressed ‹_› _ _) (by simp)
  | case8 =>
      rename_i ih
      exact ih.prepend (progressed ‹_› _ _)

theorem pollRead_findsEnd (x : Exchange) (lease : Lease σ) (h : Handler) (c : Completion)
    (now : Instant) : FindsEnd ((x.pollRead lease h c now).turn = .ended .complete)
      (x.pollRead lease h c now).actions := by
  unfold pollRead
  split
  · unfold readOn
    split
    · refine (h.deliver_findsEnd x.events c).congr ?_
      dsimp only
      split <;> simp_all
    · exact x.readFrames_findsEnd _ h c now
  · exact .going List.not_mem_nil (by simp)

theorem pollAfterWrite_findsEnd (x : Exchange) (lease : Lease σ) (h : Handler) (c : Completion)
    (now : Instant) : FindsEnd ((x.pollAfterWrite lease h c now).turn = .ended .complete)
      (x.pollAfterWrite lease h c now).actions := by
  have read := x.pollRead_findsEnd lease h c now
  unfold pollAfterWrite
  dsimp only
  split
  · rename_i pending
    have unmarked := read.unmarked (by simp [pending])
    refine .going (by simp [Step.after, pollTimers, unmarked]) ?_
    simp only [Step.after, pollTimers]
    split
    · simp
    · rename_i failure _
      cases failure <;> simp [outcomeOfTimer]
  · exact read

theorem pollParts_findsEnd (x : Exchange) (lease : Lease σ) (h : Handler) (c : Completion)
    (now : Instant) : FindsEnd ((x.pollParts lease h c now).turn = .ended .complete)
      (x.pollParts lease h c now).actions := by
  have writing : .responseEnd ∉ (x.pollWrite lease now).actions := by
    intro member
    cases x.pollWrite_writing lease now _ member
  unfold pollParts
  dsimp only
  split
  · exact .going writing (by simp)
  · exact .going writing (by simp)
  all_goals exact (pollAfterWrite_findsEnd _ _ h c now).prepend writing

/-- One poll finds the end of the response if it ends with the response, and then last. -/
theorem poll_findsEnd (x : Exchange) (lease : Lease σ) (h : Handler) (c : Completion)
    (now : Instant) : FindsEnd ((x.poll lease h c now).turn = .ended .complete)
      (x.poll lease h c now).actions := by
  unfold poll
  dsimp only
  split
  · exact .going (by simp) (by simp)
  · exact (pollParts_findsEnd x lease h _ now).prepend (by simp)

section Poll

variable {p : Pipeline} {request : Request} {x : Exchange} {trace : List Action}

/-- Reading leaves the request where it is. -/
theorem pollAfterWrite_writes (written : x.Writes p request trace) (lease : Lease σ) (h : Handler)
    (c : Completion) (now : Instant) :
    (x.pollAfterWrite lease h c now).exchange.Writes p request
      (trace ++ (x.pollAfterWrite lease h c now).actions) := by
  have frame := x.pollAfterWrite_frame lease h c now
  have reading := x.pollAfterWrite_reading lease h c now
  refine written.offWire frame.frames frame.pipeline frame.writeState reading.offWire_of_reading ?_
  intro member
  cases reading _ member

theorem pollParts_writes (written : x.Writes p request trace) (lease : Lease σ) (h : Handler)
    (c : Completion) (now : Instant)
    (sound : (x.pollParts lease h c now).turn = .pending ∨
      (x.pollParts lease h c now).turn = .ended .complete) :
    (x.pollParts lease h c now).exchange.Writes p request
      (trace ++ (x.pollParts lease h c now).actions) := by
  unfold pollParts at sound ⊢
  dsimp only at sound ⊢
  cases turn : (x.pollWrite lease now).turn with
  | failed _ | crashed => simp [turn] at sound
  | pending | written =>
      have writes := pollWrite_writes written lease now (by simp [turn])
      dsimp only [Step.after]
      rw [← List.append_assoc]
      exact pollAfterWrite_writes writes _ h c now

/-- As long as nothing goes wrong, a poll leaves the request where it ought to be. -/
theorem poll_writes (written : x.Writes p request trace) (lease : Lease σ) (h : Handler)
    (c : Completion) (now : Instant)
    (sound : (x.poll lease h c now).turn = .pending ∨
      (x.poll lease h c now).turn = .ended .complete) :
    (x.poll lease h c now).exchange.Writes p request
      (trace ++ (x.poll lease h c now).actions) := by
  have looked : x.Writes p request (trace ++ [.control none]) :=
    written.offWire rfl rfl rfl (by simp [Action.isOffWire]) (by simp)
  unfold poll at sound ⊢
  dsimp only at sound ⊢
  cases aborted : c.takeAbort.1 with
  | some abort => simp [aborted] at sound
  | none =>
      rw [aborted] at sound
      dsimp only [Step.after] at sound ⊢
      rw [← List.append_assoc]
      exact pollParts_writes looked lease h _ now sound

/-- A poll brings the response after the whole request was flushed exactly if it ends with the
response and the request is written by then. -/
theorem poll_delivered (written : x.Writes p request trace) (unended : .responseEnd ∉ trace)
    (lease : Lease σ) (h : Handler) (c : Completion) (now : Instant) :
    p.Delivered request (trace ++ (x.poll lease h c now).actions) ↔
      (x.poll lease h c now).turn = .ended .complete ∧
        (x.poll lease h c now).exchange.writeState = .done := by
  have finds := x.poll_findsEnd lease h c now
  have writes := poll_writes written lease h c now
  generalize x.poll lease h c now = step at finds writes ⊢
  obtain ⟨next, resource, completion, actions, turn⟩ := step
  dsimp only at finds writes ⊢
  cases finds with
  | going unmarked going =>
      refine iff_of_false (Pipeline.not_delivered ?_) fun delivered => going delivered.1
      simp [unended, unmarked]
  | found unmarked found =>
      have flushed := (writes (.inr found)).flushed
      rw [← List.append_assoc] at flushed ⊢
      rw [Pipeline.flushed_append (by simp)] at flushed
      rw [Pipeline.delivered_concat (by simp [unended, unmarked]), ← flushed]
      exact ⟨fun done => ⟨found, done⟩, And.right⟩

end Poll

end Exchange

end HttpExchange
