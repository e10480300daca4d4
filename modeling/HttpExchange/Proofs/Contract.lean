import HttpExchange.Proofs.Course

/-!
What an execution asks of its transport, over its whole life. While the exchange is in progress the
order of the calls is that of its polls. What ends the exchange is found last; behind it the
transport is asked for nothing but to close, at every poll until it has answered. A connection on
which nothing can be framed is asked for nothing else at all.
-/

namespace HttpExchange

open Trace

variable {σ : Type}

namespace Execution

section Life

variable [Transport σ]

theorem pollExchange_ordered (e : Execution σ) (x : Exchange) (lease : Lease σ) (now : Instant) :
    Ordered (e.pollExchange x lease now).2 := by
  have polled := x.poll_ordered lease e.handler e.completion now
  have driven := e.pollExchange_drives x lease now
  generalize e.pollExchange x lease now = run at driven ⊢
  cases driven with
  | goesOn turn => exact polled
  | ends outcome turn => exact polled.append (endExchange_ends _ _ _ outcome).offWire.ordered
  | breaksOff turn =>
      rw [Run.after_snd, List.append_assoc]
      exact polled.append
        (dropLease_aside _ _ .crashed _).parting_of_aside.offWire_of_parting.ordered

/-- Whatever needs room is done behind the question for it, at every stimulus. -/
theorem respond_ordered (e : Execution σ) (stimulus : Stimulus σ) :
    Ordered (e.respond stimulus).2 := by
  have quiet {trace : List Action} (aside : Only Action.isAside trace) : Ordered trace :=
    aside.parting_of_aside.offWire_of_parting.ordered
  cases stimulus with
  | poll now =>
      have polled := e.poll_polls now
      rw [respond]
      generalize e.poll now = next at polled ⊢
      cases polled with
      | waits isWaiting unanswered => exact Only.ordered only_nil
      | refused isWaiting error refused message =>
          exact Ordered.append (Only.ordered (by simp [Action.isOffWire]))
            (quiet (finish_aside _ _ _))
      | unframed isWaiting connection granted cause unknown =>
          exact Ordered.append (Only.ordered (by simp [Action.isOffWire]))
            (pollClose_ends _ _ _ none).offWire.ordered
      | begins isWaiting connection granted p framed x pipeline writeState frames events idle
          opening only =>
          refine Ordered.append (Only.ordered ?_) (pollExchange_ordered _ _ _ now)
          exact (only_cons _ _).mpr ⟨rfl, only.preparing_of_opening.offWire_of_preparing⟩
      | drives x lease stage => exact e.pollExchange_ordered x lease now
      | closes connection ending body stage =>
          exact (pollClose_ends e connection ending body).offWire.ordered
      | departed gone => exact Only.ordered only_nil
  | drop => exact quiet e.drop_aside
  | cancel => exact quiet (by simp [respond, cancel, Action.isAside])
  | answer _ | transport _ _ | feed _ _ => exact Only.ordered only_nil

variable (id : ExecutionId) (request : Request) (timeouts : Timeouts) (handler : Handler)
  (acquisition : Acquisition σ)

theorem life_ordered (history : List (Stimulus σ)) :
    Ordered (life id request timeouts handler acquisition history).2 :=
  life_invariant id request timeouts handler acquisition (fun _ run => Ordered run.2)
    (Only.ordered (by simp [start, Action.isOffWire]))
    (fun _ stimulus ordered => ordered.append (respond_ordered _ stimulus)) history

theorem life_course (history : List (Stimulus σ)) :
    Course acquisition request history (life id request timeouts handler acquisition history) := by
  refine life_invariant id request timeouts handler acquisition (Course acquisition request) ?_ ?_
    history
  · exact .ahead rfl (by simp [start, Action.isPreparing]) (by simp [start, Action.isAside])
  · intro past stimulus h
    have custody := life_custody id request timeouts handler acquisition past
    have employs := life_employs id request timeouts handler acquisition past
    exact h.respond custody (congrArg Prod.fst custody.setting) employs stimulus

/-- The order in which a connection that was granted is called. A frame is handed over, and the
producer is asked for more, only when the last call asked for room and was told that there is
some. Nothing is received unless the exchange is full-duplex or its request was flushed with its
end. Once a call failed, the inbound side ended or could not be decoded, the end of the response
was found, a timer fired or an abort was taken, the connection is asked for nothing but to close,
until it answers; it is asked that at once, unless the response came to its end. And where nothing
can be framed, it is asked for nothing else from the start, and no body is produced. -/
theorem transport_contract (history : List (Stimulus σ)) (connection : Connection σ)
    (granted : acquisition.answerBy history = some (.ok connection)) :
    let run := life id request timeouts handler acquisition history
    (∀ front action, front ++ [action] <+: run.2 → action.needsRoom = true →
      (calls front).getLast? = some (.ready .done)) ∧
    (∀ p, (Pipeline.configure connection).1 = .ok p →
      (∀ front answer, front ++ [.receive answer] <+: run.2 →
        request.isFullDuplex = true ∨ p.Flushed request front) ∧
      ∀ front mark later, run.2 = front ++ mark :: later → mark.isPassing p = false →
        ClosesOnly connection.id later ∧ (calls later = [] → mark = .responseEnd) ∧
        (run.1.stage.isGone = false → ∀ now, ∃ answer,
          calls (run.1.poll now).2 = [.close connection.id answer])) ∧
    (connection.negotiated ≠ Protocol.http11.text → connection.negotiated ≠ Protocol.http2.text →
      ClosesOnly connection.id run.2 ∧ .produce ∉ run.2) := by
  intro run
  have course := life_course id request timeouts handler acquisition history
  refine ⟨life_ordered id request timeouts handler acquisition history, ?_, ?_⟩
  · intro p framed
    have onFrame := course.framed granted framed
    refine ⟨onFrame.attending, fun front mark later whole final => ?_⟩
    obtain ⟨closing, asked⟩ := onFrame.halting whole final
    exact ⟨closing.closesOnly, asked, closing.poll⟩
  · intro not_http11 not_http2
    have unknown : (Pipeline.configure connection).1 =
        .error (.unknownProtocol connection.negotiated) := by
      unfold Pipeline.configure Protocol.ofNegotiated?
      rw [if_neg not_http11, if_neg not_http2]
    obtain ⟨closes, parting⟩ := course.unspoken granted unknown
    refine ⟨closes, fun member => ?_⟩
    cases parting _ member

end Life

/-- The server hangs up behind the request, and the connection is asked to close at two polls, in
vain. -/
theorem transport_contract_hung_up :
    let connection : Connection Bench.Wire :=
      .ofTransport ⟨7⟩ Protocol.http11.text
        { Bench.Wire.idle with holdsClose := true, inbound := [.closed] }
    let run := life 1 Bench.plainRequest .standard .quiet (.granted connection)
      [.poll ⟨0⟩, .poll ⟨1⟩]
    ∃ front later, run.2 = front ++ .receive .closed :: later ∧ ClosesOnly ⟨7⟩ later ∧
      calls later = [.close ⟨7⟩ .pending, .close ⟨7⟩ .pending] := by
  intro connection run
  have whole : run.2 = run.2.take 15 ++ .receive .closed :: run.2.drop 16 := by decide +kernel
  obtain ⟨-, contract, -⟩ := transport_contract 1 Bench.plainRequest .standard .quiet
    (.granted connection) [.poll ⟨0⟩, .poll ⟨1⟩] connection rfl
  obtain ⟨closes, -⟩ := (contract .single rfl).2 _ _ _ whole rfl
  exact ⟨_, _, whole, closes, by decide +kernel⟩

end Execution

end HttpExchange
