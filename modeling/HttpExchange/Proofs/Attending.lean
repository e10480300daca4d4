import HttpExchange.Proofs.Calling
import HttpExchange.Proofs.Waiting

/-!
When an exchange reads. Nothing is received before reads are on: from the start if the request is
full-duplex, and otherwise once it is written.
-/

namespace HttpExchange

open Trace

namespace Pipeline

/-- Nothing is received before the exchange may read: from the start if it is full-duplex, and
otherwise from the flush of the whole request on. -/
def Attends (p : Pipeline) (request : Request) (trace : List Action) : Prop :=
  ∀ front answer, front ++ [.receive answer] <+: trace →
    request.isFullDuplex = true ∨ p.Flushed request front

variable {p : Pipeline} {request : Request} {trace more : List Action}

theorem Attends.append (h : p.Attends request trace)
    (unasked : ∀ answer, .receive answer ∉ more) : p.Attends request (trace ++ more) := by
  intro front answer here
  rcases concat_isPrefix_append.mp here with within | ⟨later, rfl, beyond⟩
  · exact h front answer within
  · exact absurd (beyond.subset (by simp)) (unasked answer)

/-- Once the exchange may read, anything may be received. -/
theorem Attends.open (h : p.Attends request trace)
    (ready : request.isFullDuplex = true ∨ p.Flushed request trace) (more : List Action) :
    p.Attends request (trace ++ more) := by
  intro front answer here
  rcases concat_isPrefix_append.mp here with within | ⟨later, rfl, -⟩
  · exact h front answer within
  · exact ready.imp id fun flushed => flushed.append later

theorem attends_of_unasked (unasked : ∀ answer, .receive answer ∉ trace) :
    p.Attends request trace :=
  fun _ answer here => absurd (here.subset (by simp)) (unasked answer)

end Pipeline

namespace Exchange

/-- Reads are on in a full-duplex exchange, and in any other once the request is written. -/
def Reads (request : Request) (x : Exchange) : Prop :=
  x.isReading = true ↔ request.isFullDuplex = true ∨ x.writeState = .done

/-- Up to the end of the request, writing leaves the reading as it is. -/
structure WriteFrame (before after : Exchange) : Prop where
  isReading : after.isReading = before.isReading
  read : after.idle.read = before.idle.read

theorem WriteFrame.trans {first second third : Exchange} (h : WriteFrame first second)
    (later : WriteFrame second third) : WriteFrame first third :=
  ⟨later.isReading.trans h.isReading, later.read.trans h.read⟩

theorem armWrite_frame (x : Exchange) (now : Instant) :
    WriteFrame x { x with idle := x.idle.armWrite now } := by
  refine ⟨rfl, ?_⟩
  unfold IdleWatch.armWrite
  split <;> rfl

section Writing

variable {σ : Type} [Transport σ]

theorem flushRequest_frame (x : Exchange) (s : σ) (now : Instant) :
    WriteFrame x (x.flushRequest s now).exchange := by
  simp only [flushRequest, WriteStep.after]
  split
  · exact ⟨rfl, rfl⟩
  · exact ⟨rfl, rfl⟩
  · exact x.armWrite_frame now

theorem flushAccepted_frame (x : Exchange) (s : σ) (now : Instant) :
    WriteFrame x (x.flushAccepted s now).exchange := by
  simp only [flushAccepted, WriteStep.after]
  split
  · exact ⟨rfl, rfl⟩
  · exact ⟨rfl, rfl⟩
  · exact x.armWrite_frame now

theorem writeFrames_frame (x : Exchange) (s : σ) (now : Instant) :
    WriteFrame x (x.writeFrames s now).exchange := by
  fun_induction writeFrames x s now with
  | case1 | case3 | case7 | case8 => exact ⟨rfl, rfl⟩
  | case2 x s room full => exact x.armWrite_frame now
  | case4 x s room ready polled taken =>
      obtain ⟨isReading, read⟩ := taken.flushAccepted_frame room.2 now
      exact ⟨isReading, read⟩
  | case5 x s room ready polled taken =>
      obtain ⟨isReading, read⟩ :=
        { taken with writeState := .flushing }.flushRequest_frame room.2 now
      exact ⟨isReading, read⟩
  | case6 =>
      rename_i ih
      exact ⟨ih.isReading, ih.read⟩
  | case9 =>
      rename_i touched ih
      refine ⟨ih.isReading, ih.read.trans ?_⟩
      dsimp only
      rw [IdleWatch.writeProgress?_eq_some touched]

theorem writeOn_frame (x : Exchange) (lease : Lease σ) (now : Instant) :
    WriteFrame x (x.writeOn lease now).exchange := by
  unfold writeOn continueWrite
  split
  · exact ⟨rfl, rfl⟩
  · dsimp only
    split
    · exact x.writeFrames_frame _ now
    · exact x.flushRequest_frame _ now
    · exact ⟨rfl, rfl⟩

omit [Transport σ] in
/-- The end of the request turns reads on, unless they are on. -/
theorem requestWritten_of_reading {x : Exchange} (reads : x.isReading = true) (now : Instant) :
    WriteFrame x (x.requestWritten now).1 := by
  unfold requestWritten
  rw [if_pos reads]
  exact ⟨rfl, rfl⟩

omit [Transport σ] in
theorem requestWritten_of_silent {x : Exchange} (silent : x.isReading = false) (now : Instant) :
    (x.requestWritten now).1.idle.read =
      IdleWatch.started .read x.idle.periods.read now := by
  unfold requestWritten
  rw [if_neg (by simp [silent])]
  rfl

/-- The write part of a poll leaves the reading as it is, unless it comes to the end of the request
and reads are not on. -/
theorem pollWrite_frame (x : Exchange) (lease : Lease σ) (now : Instant)
    (kept : x.isReading = true ∨ (x.pollWrite lease now).turn ≠ .written) :
    WriteFrame x (x.pollWrite lease now).exchange := by
  have frame := x.writeOn_frame lease now
  unfold pollWrite at kept ⊢
  split
  · exact ⟨rfl, rfl⟩
  · rename_i undone
    rw [if_neg undone] at kept
    dsimp only at kept ⊢
    split
    · rename_i written
      rw [written] at kept
      have reads := kept.resolve_right fun unwritten => unwritten rfl
      exact frame.trans (requestWritten_of_reading (frame.isReading.trans reads) now)
    · exact frame

/-- A poll that comes to the end of the request turns reads on. -/
theorem pollWrite_of_end {x : Exchange} (undone : x.writeState ≠ .done) (lease : Lease σ)
    (now : Instant) (written : (x.pollWrite lease now).turn = .written) :
    (x.pollWrite lease now).exchange = ((x.writeOn lease now).exchange.requestWritten now).1 := by
  unfold pollWrite at written ⊢
  rw [if_neg undone] at written ⊢
  dsimp only at written ⊢
  split at written
  · rfl
  · contradiction

/-- The read timer starts when reads are turned on. -/
theorem pollWrite_read_of_end {x : Exchange} {periods : Timeouts} (serves : x.idle.Serves periods)
    (undone : x.writeState ≠ .done) (silent : x.isReading = false) (lease : Lease σ)
    (now : Instant) (written : (x.pollWrite lease now).turn = .written) :
    (x.pollWrite lease now).exchange.idle.read = IdleWatch.started .read periods.read now := by
  have frame := x.writeOn_frame lease now
  have served := (writeOn_times undone lease now).serves serves
  rw [pollWrite_of_end undone lease now written, ← served.configured]
  exact requestWritten_of_silent (frame.isReading.trans silent) now

theorem Pauses.undone {y : Exchange} {actions : List Action} (h : y.Pauses actions) :
    y.writeState ≠ .done := by
  cases h with
  | full _ writing | unfed _ _ writing _ _ _ _ _ => simp [writing]
  | unflushed _ flushing => simp [flushing]

theorem pollWrite_of_done {x : Exchange} (done : x.writeState = .done) (lease : Lease σ)
    (now : Instant) : x.pollWrite lease now = ⟨x, lease, [], .written⟩ := by
  unfold pollWrite
  exact if_pos done

/-- Writing turns reads on when it ought to. -/
theorem pollWrite_reads {x : Exchange} {request : Request} (reads : x.Reads request)
    (lease : Lease σ) (now : Instant)
    (goes : (x.pollWrite lease now).turn = .pending ∨ (x.pollWrite lease now).turn = .written) :
    (x.pollWrite lease now).exchange.Reads request := by
  by_cases done : x.writeState = .done
  · rw [pollWrite_of_done done]
    exact reads
  · rcases goes with waits | written
    · have undone := (x.pollWrite_pauses lease now waits).undone
      have frame := x.pollWrite_frame lease now (.inr (by simp [waits]))
      simp only [Reads, frame.isReading, undone, or_false]
      simpa only [Reads, done, or_false] using reads
    · have is_done := x.pollWrite_of_written lease now written
      refine iff_of_true ?_ (.inr is_done)
      rw [pollWrite_of_end done lease now written]
      exact (requestWritten_done _ now).2

variable {x : Exchange} {p : Pipeline} {request : Request} {trace : List Action}

theorem pollAfterWrite_attends (reads : x.Reads request) (writes : x.Writes p request trace)
    (attends : p.Attends request trace) (lease : Lease σ) (h : Handler) (c : Completion)
    (now : Instant) :
    p.Attends request (trace ++ (x.pollAfterWrite lease h c now).actions) := by
  cases on : x.isReading with
  | true => exact attends.open ((reads.mp on).imp id writes.flushed.mp) _
  | false =>
      refine attends.append fun answer member => ?_
      unfold pollAfterWrite pollRead at member
      rw [if_neg (by simp [on])] at member
      simp [Step.after, pollTimers] at member

/-- One poll receives nothing before it may. -/
theorem poll_attends (reads : x.Reads request) (writes : x.Writes p request trace)
    (attends : p.Attends request trace) (lease : Lease σ) (h : Handler) (c : Completion)
    (now : Instant) : p.Attends request (trace ++ (x.poll lease h c now).actions) := by
  have writing (answer : Arrival) : .receive answer ∉ (x.pollWrite lease now).actions := by
    intro member
    cases x.pollWrite_writing lease now _ member
  have looked (abort : Option Failure) : p.Attends request (trace ++ [.control abort]) :=
    attends.append (by simp)
  have written : p.Attends request (trace ++ [.control none] ++ (x.pollWrite lease now).actions) :=
    (looked none).append writing
  have writes_on : x.Writes p request (trace ++ [.control none]) :=
    writes.offWire rfl rfl rfl (by simp [Action.isOffWire]) (by simp)
  unfold poll
  dsimp only
  split
  · exact looked _
  · unfold pollParts
    dsimp only [Step.after]
    rw [← List.append_assoc]
    cases turn : (x.pollWrite lease now).turn with
    | failed failure => exact written
    | crashed => exact written
    | pending | written =>
        have goes : (x.pollWrite lease now).turn = .pending ∨
            (x.pollWrite lease now).turn = .written := by simp [turn]
        dsimp only
        rw [← List.append_assoc]
        exact pollAfterWrite_attends (pollWrite_reads reads lease now goes)
          (pollWrite_writes writes_on lease now goes) written _ h _ now

/-- A poll that leaves the exchange in progress turned reads on when it ought to. -/
theorem poll_reads (reads : x.Reads request) (lease : Lease σ) (h : Handler) (c : Completion)
    (now : Instant) (turn : (x.poll lease h c now).turn = .pending) :
    (x.poll lease h c now).exchange.Reads request := by
  have completes := (x.poll_completes lease h c now).resolve_right fun ended => ended.1 turn
  have written := pollWrite_reads reads lease now completes.wrote
  have frame : ReadFrame (x.pollWrite lease now).exchange (x.reading lease h c now).exchange :=
    pollRead_frame _ _ h _ now
  rw [completes.poll_eq]
  unfold Reads at written ⊢
  rw [← frame.isReading, ← frame.writeState] at written
  exact written

end Writing

end Exchange

end HttpExchange
