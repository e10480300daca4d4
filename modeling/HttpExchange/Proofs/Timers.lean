import HttpExchange.Proofs.Trace

/-!
The idle timers by themselves. Each is a timer of its own direction with the period that was
configured, and there is none for a period of zero. Only recording progress can be lost, at a time
from which the clock cannot show a whole period.
-/

namespace HttpExchange

open Trace

/-- The connection had no room for a frame, or did not flush. -/
def Action.isStall : Action → Bool
  | ready .pending | flush .pending => true
  | _ => false

namespace Trace

/-- The connection held the request back. -/
def stalled (trace : List Action) : Bool := trace.any Action.isStall

/-- The connection took a frame. -/
def progressed (trace : List Action) : Bool := (accepted trace).any fun _ => true

@[simp]
theorem stalled_append (first second : List Action) :
    stalled (first ++ second) = (stalled first || stalled second) :=
  List.any_append

@[simp]
theorem progressed_append (first second : List Action) :
    progressed (first ++ second) = (progressed first || progressed second) := by
  simp only [progressed, accepted_append, List.any_append]

/-- Neither held back nor sent on. -/
def Idle (trace : List Action) : Prop := stalled trace = false ∧ progressed trace = false

theorem Only.idle_of_reading {trace : List Action} (only : Only Action.isReading trace) :
    Idle trace := by
  refine ⟨List.any_eq_false.mpr fun action member => ?_, ?_⟩
  · have reading := only action member
    cases action <;> first | simp [Action.isStall]; done | cases reading
  · simp [progressed, only.offWire_of_reading.accepted_eq_nil]

theorem Only.idle_of_opening {trace : List Action} (only : Only Action.isOpening trace) :
    Idle trace := by
  refine ⟨List.any_eq_false.mpr fun action member => ?_, ?_⟩
  · have opening := only action member
    cases action <;> first | simp [Action.isStall]; done | cases opening
  · simp [progressed, only.offWire_of_opening.accepted_eq_nil]

theorem idle_asking {room : Readiness} (ready : room = .done) (asked : List BodyAnswer) :
    Idle (.ready room :: asked.map .produced) := by
  subst ready
  constructor
  · have quiet : (asked.map Action.produced).any Action.isStall = false := by
      simp [Action.isStall]
    exact quiet
  · simp [progressed]

end Trace

namespace IdleWatch

/-- The timers are those of the configured periods. -/
structure Serves (periods : Timeouts) (w : IdleWatch) : Prop where
  configured : w.periods = periods
  write : ∀ timer ∈ w.write, timer.phase = .write ∧ timer.period = periods.write ∧
    periods.write.isZero = false
  read : ∀ timer ∈ w.read, timer.phase = .read ∧ timer.period = periods.read ∧
    periods.read.isZero = false

/-- The write timer of a poll that was held back, with whether the connection took anything. -/
def heldBack (w : IdleWatch) (progress : Bool) (now : Instant) : Option IdleTimer :=
  match w.write with
  | none => started .write w.periods.write now
  | some timer =>
    some (if progress then { timer with deadline := now.advance timer.period } else timer)

variable {w next : IdleWatch} {periods : Timeouts} {now : Instant}

theorem ofTimeouts_serves (periods : Timeouts) : (ofTimeouts periods).Serves periods :=
  ⟨rfl, nofun, nofun⟩

theorem started_mem {phase : Phase} {period : Duration} {timer : IdleTimer}
    (member : timer ∈ started phase period now) :
    timer.phase = phase ∧ timer.period = period ∧ period.isZero = false := by
  unfold started at member
  split at member
  · cases member
  · cases member
    exact ⟨rfl, rfl, eq_false_of_ne_true ‹_›⟩

theorem armWrite_eq_heldBack (w : IdleWatch) (now : Instant) :
    w.armWrite now = { w with write := w.heldBack false now } := by
  obtain ⟨periods, write, read⟩ := w
  cases write <;> rfl

theorem Serves.armWrite (serves : w.Serves periods) (now : Instant) :
    (w.armWrite now).Serves periods := by
  unfold IdleWatch.armWrite
  split
  · exact serves
  · refine ⟨serves.configured, fun timer member => ?_, serves.read⟩
    obtain ⟨phase, period, nonzero⟩ := started_mem member
    rw [serves.configured] at period nonzero
    exact ⟨phase, period, nonzero⟩

theorem Serves.removeWrite (serves : w.Serves periods) : w.removeWrite.Serves periods :=
  ⟨serves.configured, nofun, serves.read⟩

theorem Serves.installRead (serves : w.Serves periods) (now : Instant) :
    (w.installRead now).Serves periods := by
  refine ⟨serves.configured, serves.write, fun timer member => ?_⟩
  obtain ⟨phase, period, nonzero⟩ := started_mem member
  rw [serves.configured] at period nonzero
  exact ⟨phase, period, nonzero⟩

theorem Serves.removeRead (serves : w.Serves periods) : w.removeRead.Serves periods :=
  ⟨serves.configured, serves.write, nofun⟩

theorem Serves.poll (serves : w.Serves periods) (now : Instant) :
    (w.poll now).2.Serves periods := by
  unfold IdleWatch.poll
  split
  · exact serves.removeWrite
  · split
    · exact serves.removeRead
    · exact serves

/-- What recording progress does to a running timer. -/
theorem touch?_eq_some {timer touched : IdleTimer} (done : timer.touch? now = some touched) :
    touched = { timer with deadline := now.advance timer.period } := by
  unfold IdleTimer.touch? Instant.after? at done
  dsimp only at done
  split at done
  · cases done
    rfl
  · cases done

/-- Progress on a timer that may not be there is lost exactly if it is, and the clock cannot show a
whole period from now. -/
theorem touched_eq_none_iff {timer? : Option IdleTimer} {period : Duration}
    (own : ∀ timer ∈ timer?, timer.period = period) (update : IdleTimer → IdleWatch) :
    (match timer? with
      | none => some w
      | some timer => (timer.touch? now).map update) = none ↔
      timer?.isSome = true ∧ now.after? period = none := by
  cases timer? with
  | none => simp
  | some timer =>
      rw [← own timer rfl]
      simp [IdleTimer.touch?]

/-- Progress puts off the write timer, if it runs. -/
theorem writeProgress?_eq_some (touched : w.writeProgress? now = some next) :
    next = { w with
      write := w.write.map fun timer => { timer with deadline := now.advance timer.period } } := by
  obtain ⟨configured, write, read⟩ := w
  cases write with
  | none =>
      cases touched
      rfl
  | some timer =>
      obtain ⟨timer', done, rfl⟩ := Option.map_eq_some_iff.mp touched
      rw [touch?_eq_some done]
      rfl

theorem readProgress?_eq_some (touched : w.readProgress? now = some next) :
    next = { w with
      read := w.read.map fun timer => { timer with deadline := now.advance timer.period } } := by
  obtain ⟨configured, write, read⟩ := w
  cases read with
  | none =>
      cases touched
      rfl
  | some timer =>
      obtain ⟨timer', done, rfl⟩ := Option.map_eq_some_iff.mp touched
      rw [touch?_eq_some done]
      rfl

theorem Serves.writeProgress (serves : w.Serves periods)
    (touched : w.writeProgress? now = some next) : next.Serves periods := by
  rw [writeProgress?_eq_some touched]
  refine ⟨serves.configured, fun timer member => ?_, serves.read⟩
  obtain ⟨before, running, rfl⟩ := Option.map_eq_some_iff.mp member
  exact serves.write before running

theorem Serves.readProgress (serves : w.Serves periods)
    (touched : w.readProgress? now = some next) : next.Serves periods := by
  rw [readProgress?_eq_some touched]
  refine ⟨serves.configured, serves.write, fun timer member => ?_⟩
  obtain ⟨before, running, rfl⟩ := Option.map_eq_some_iff.mp member
  exact serves.read before running

/-- Recording progress is lost only if the clock cannot show a whole period from now. -/
theorem Serves.writeProgress_lost (serves : w.Serves periods)
    (lost : w.writeProgress? now = none) : now.after? periods.write = none :=
  ((touched_eq_none_iff (fun timer running => (serves.write timer running).2.1) _).mp lost).2

theorem Serves.readProgress_lost (serves : w.Serves periods)
    (lost : w.readProgress? now = none) : now.after? periods.read = none :=
  ((touched_eq_none_iff (fun timer running => (serves.read timer running).2.1) _).mp lost).2

/-- Once a poll has made progress, more of it at the same time changes nothing. -/
theorem heldBack_of_progress (touched : w.writeProgress? now = some next) (progress : Bool) :
    next.heldBack progress now = w.heldBack true now := by
  rw [writeProgress?_eq_some touched]
  obtain ⟨configured, write, read⟩ := w
  cases write with
  | none => rfl
  | some timer => cases progress <;> rfl

end IdleWatch

end HttpExchange
