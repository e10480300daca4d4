import HttpExchange.Proofs.Halting
import HttpExchange.Proofs.Sparing

/-!
What a poll of an exchange fails with: an abort that waited for it, a timer, or what it met on the
wire or in the body. So it finds its socket unconnected only if the transport says so, and it never
fails with the abandonment of its task.
-/

namespace HttpExchange

open Trace

variable {σ : Type}

/-- A frame that cannot be decoded is no unconnected socket. -/
theorem Pipeline.decode_connected (p : Pipeline) (frame : Inbound) (queue : List ResponseEvent) :
    (p.decode frame queue).2 ≠ some (.net .socketNotConnected) := by
  have reset (code : UInt32) : NetError.ofStreamReset code ≠ .socketNotConnected := by
    unfold NetError.ofStreamReset
    split <;> decide
  have own (frame : StreamFrame) :
      StreamReader.ownEvents frame ≠ .error (.net .socketNotConnected) := by
    unfold StreamReader.ownEvents
    split
    case h_6 => simpa using reset _
    all_goals
      intro same
      cases same
  intro met
  cases p with
  | single => cases frame <;> cases met
  | multiplexed writer reader =>
      cases frame with
      | single event => cases met
      | multiplexed frame =>
          simp only [decode, StreamReader.decode, StreamReader.events] at met
          split at met
          · cases met
          · rename_i failure failed
            cases met
            split at failed
            · exact own frame failed
            · cases failed

theorem IdleWatch.poll_isIdle {w : IdleWatch} {now : Instant} {failure : Failure}
    (due : (w.poll now).1 = some failure) : failure.isIdle = true := by
  have of_timer (timer : IdleTimer) : timer.failure.isIdle = true := by
    unfold IdleTimer.failure
    split <;> rfl
  unfold poll at due
  split at due
  · cases due
    exact of_timer _
  · split at due
    · cases due
      exact of_timer _
    · cases due

namespace Action

/-- The error with which the transport answered. -/
def netError? : Action → Option NetError
  | ready (.failed error) | flush (.failed error) | write _ (some error)
  | receive (.failed error) => some error
  | _ => none

/-- No timer brings the failure of anything else. -/
def isTimely : Action → Bool
  | timerCheck (some failure) => failure.isIdle
  | _ => true

end Action

/-- The exchange ended because some socket was not connected. -/
def Outcome.isDisconnected : Outcome → Bool
  | .writeFailed (.writeFailed .socketNotConnected) | .failed (.net .socketNotConnected) => true
  | _ => false

namespace Exchange

variable [Transport σ]

theorem poll_timely (x : Exchange) (lease : Lease σ) (h : Handler) (c : Completion)
    (now : Instant) : Only Action.isTimely (x.poll lease h c now).actions := by
  have writes : Only Action.isTimely (x.pollWrite lease now).actions :=
    (x.pollWrite_writing lease now).mono fun action writing => by
      cases action <;> first | rfl | cases writing
  have reads (x : Exchange) (lease : Lease σ) (c : Completion) :
      Only Action.isTimely (x.pollAfterWrite lease h c now).actions := by
    have receives : Only Action.isTimely (x.pollRead lease h c now).actions :=
      (x.pollRead_receiving lease h c now).mono fun action receiving => by
        cases action <;> first | rfl | cases receiving
    unfold pollAfterWrite
    dsimp only
    split
    · refine (only_append _ _).mpr ⟨receives, (only_cons _ _).mpr ⟨?_, only_nil⟩⟩
      cases due : ((x.pollRead lease h c now).exchange.idle.poll now).1 with
      | none => rfl
      | some failure => exact IdleWatch.poll_isIdle due
    · exact receives
  unfold poll
  dsimp only
  split
  · exact (only_cons _ _).mpr ⟨rfl, only_nil⟩
  · refine (only_append [.control none] _).mpr ⟨(only_cons _ _).mpr ⟨rfl, only_nil⟩, ?_⟩
    unfold pollParts
    dsimp only
    split
    · exact writes
    · exact writes
    · exact (only_append _ _).mpr ⟨writes, reads _ _ _⟩
    · exact (only_append _ _).mpr ⟨writes, reads _ _ _⟩

/-- A poll fails with an abort that waited, or with a timer, or with what it met elsewhere. -/
theorem poll_failed (x : Exchange) {lease : Lease σ} {connection : Connection σ}
    (held : lease.connection = some connection) (h : Handler) (c : Completion) (now : Instant)
    {failure : Failure} (failed : (x.poll lease h c now).turn.failure? = some failure) :
    (failure ∈ c.queue ∧ (x.poll lease h c now).turn = .ended (.aborted failure)) ∨
      failure.isIdle = true ∨
      ∃ mark ∈ (x.poll lease h c now).actions, mark.failure? (.ok x.pipeline) = some failure ∧
        mark ≠ .control (some failure) ∧ mark ≠ .timerCheck (some failure) := by
  obtain ⟨front, mark, whole, met⟩ := poll_endsIn (p := x.pipeline) rfl held h c now failed
  have timely := x.poll_timely lease h c now
  have member : mark ∈ (x.poll lease h c now).actions := by simp [whole]
  rcases x.poll_abort lease h c now with ⟨abort, waited, turn, -⟩ | ⟨-, none_taken⟩
  · rw [turn] at failed
    obtain rfl : abort = failure := Option.some.inj failed
    exact .inl ⟨waited, turn⟩
  · refine .inr ?_
    by_cases idle : failure.isIdle = true
    · exact .inl idle
    · refine .inr ⟨mark, member, met, ?_, ?_⟩
      · rintro rfl
        have taken : failure ∈ aborts (x.poll lease h c now).actions :=
          List.mem_filterMap.mpr ⟨_, member, rfl⟩
        simp [none_taken] at taken
      · rintro rfl
        exact idle (timely _ member)

/-- An exchange that has its connection finds a socket unconnected only if the transport says
so. -/
theorem poll_disconnected (x : Exchange) {lease : Lease σ} {connection : Connection σ}
    (held : lease.connection = some connection) (h : Handler) (c : Completion) (now : Instant)
    {outcome : Outcome} (turn : (x.poll lease h c now).turn = .ended outcome)
    (disconnected : outcome.isDisconnected = true) :
    ∃ action ∈ (x.poll lease h c now).actions,
      action.netError? = some .socketNotConnected := by
  obtain ⟨failure, failed, cause⟩ : ∃ failure, outcome.failure? = some failure ∧
      (failure = .writeFailed .socketNotConnected ∨ failure = .net .socketNotConnected) := by
    unfold Outcome.isDisconnected at disconnected
    split at disconnected
    · exact ⟨_, rfl, .inl rfl⟩
    · exact ⟨_, rfl, .inr rfl⟩
    · cases disconnected
  have ended : (x.poll lease h c now).turn.failure? = some failure := by
    rw [turn]
    exact failed
  rcases x.poll_failed held h c now ended with ⟨-, aborted⟩ | idle | ⟨mark, member, met, other⟩
  · rw [turn] at aborted
    cases aborted
    cases disconnected
  · rcases cause with rfl | rfl <;> cases idle
  -- What the poll ended in told the failure, and of all that only the transport's own answers
  -- name an error of a socket.
  · refine ⟨mark, member, ?_⟩
    cases mark with
    | control abort => exact absurd (congrArg _ met) other.1
    | timerCheck fired => exact absurd (congrArg _ met) other.2
    | produced answer =>
        rcases cause with rfl | rfl <;> cases answer <;> cases met
    | ready answer | flush answer =>
        rcases cause with rfl | rfl <;> cases answer <;> cases met
        rfl
    | write frame refusal =>
        rcases cause with rfl | rfl <;> cases refusal <;> cases met
        rfl
    | receive answer =>
        cases answer with
        | frame frame =>
            rcases cause with rfl | rfl
            · obtain ⟨error, net⟩ := Pipeline.decode_failed met
              cases net
            · exact absurd met (x.pipeline.decode_connected frame [])
        | _ => rcases cause with rfl | rfl <;> cases met <;> rfl
    | _ => rcases cause with rfl | rfl <;> cases met

/-- No poll fails with the abandonment of its task. -/
theorem poll_unabandoned (x : Exchange) {lease : Lease σ} {connection : Connection σ}
    (held : lease.connection = some connection) (h : Handler) {c : Completion}
    (own : ∀ abort ∈ c.queue, abort ≠ .abandoned) (now : Instant) :
    (x.poll lease h c now).turn.failure? ≠ some .abandoned := by
  intro failed
  rcases x.poll_failed held h c now failed with ⟨waited, -⟩ | idle | ⟨mark, -, met, other⟩
  · exact own _ waited rfl
  · cases idle
  · cases mark with
    | control abort => exact other.1 (congrArg _ met)
    | timerCheck fired => exact other.2 (congrArg _ met)
    | receive answer =>
        cases answer with
        | frame frame =>
            obtain ⟨error, net⟩ := Pipeline.decode_failed met
            cases net
        | _ => cases met
    | produced answer | ready answer | flush answer => cases answer <;> cases met
    | write frame refusal => cases refusal <;> cases met
    | _ => cases met

end Exchange

end HttpExchange
