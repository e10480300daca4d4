import HttpExchange.Proofs.Deadlines
import HttpExchange.Proofs.Saving

/-!
What the periods of the timers mean for them, at both ends. A period of zero switches its timer
off, and one of less than a millisecond does so once it was saved and loaded. A period may also be
longer than what the clock can show. Such a timer can be started, for no fresh timer waits longer
than thirty years, but there is no deadline to put it off to. The first progress on it then crashes,
and nothing else does.
-/

namespace HttpExchange

/-- The period of a phase. -/
def Timeouts.period (t : Timeouts) : Phase → Duration
  | .write => t.write
  | .read => t.read

/-- Progress in a phase. -/
def TimerCall.progress : Phase → TimerCall
  | .write => .writeProgress
  | .read => .readProgress

namespace IdleWatch

/-- The timer of a phase. -/
def timer (w : IdleWatch) : Phase → Option IdleTimer
  | .write => w.write
  | .read => w.read

/-- Asks for the timer of a phase. -/
def request (w : IdleWatch) (now : Instant) : Phase → IdleWatch
  | .write => w.armWrite now
  | .read => w.installRead now

theorem timer_request (periods : Timeouts) (now : Instant) (phase : Phase) :
    ((ofTimeouts periods).request now phase).timer phase =
      started phase (periods.period phase) now := by
  cases phase <;> rfl

theorem started_eq_none_iff {phase : Phase} {period : Duration} {now : Instant} :
    started phase period now = none ↔ period.nanoseconds = 0 := by
  unfold started
  cases zero : period.isZero with
  | true => exact iff_of_true rfl (beq_iff_eq.mp zero)
  | false => exact iff_of_false nofun (beq_eq_false_iff_ne.mp zero)

end IdleWatch

namespace Timeouts

theorem period_saved (t : Timeouts) (phase : Phase) :
    t.saved.period phase = (t.period phase).saved := by
  cases phase <;> rfl

/-- Timeouts that were saved are loaded again, and no timer that was off is then on. One that was on
is off exactly if its period is less than a millisecond. -/
theorem reload_keeps_timer_iff (t : Timeouts) :
    ∃ loaded, ofJson t.toJson = .ok loaded ∧ ∀ phase now later,
      let before := ((IdleWatch.ofTimeouts t).request now phase).timer phase
      let after := ((IdleWatch.ofTimeouts loaded).request later phase).timer phase
      (before = none → after = none) ∧
        ((after = none ↔ before = none) ↔ (t.period phase).nanoseconds = 0 ∨
          Duration.perMillisecond ≤ (t.period phase).nanoseconds) := by
  refine ⟨t.saved, ofJson_toJson t, ?_⟩
  intro phase now later before after
  have off_before : before = none ↔ (t.period phase).nanoseconds = 0 := by
    rw [← IdleWatch.started_eq_none_iff, ← IdleWatch.timer_request]
  have off_after : after = none ↔ (t.period phase).nanoseconds < Duration.perMillisecond := by
    rw [← Duration.nanoseconds_saved_eq_zero_iff, ← period_saved, ← IdleWatch.started_eq_none_iff,
      ← IdleWatch.timer_request]
  have short : 0 < Duration.perMillisecond := by decide
  rw [off_before, off_after]
  omega

end Timeouts

namespace Bench

/-- A write timer of half a millisecond is off once its period was saved and loaded. -/
theorem half_millisecond_switched_off :
    let t : Timeouts := ⟨⟨500000⟩, .ofSeconds 30⟩
    ∃ loaded, Timeouts.ofJson t.toJson = .ok loaded ∧
      ((IdleWatch.ofTimeouts t).armWrite .start).write =
        some ⟨.write, ⟨500000⟩, ⟨500000⟩⟩ ∧
      ((IdleWatch.ofTimeouts loaded).armWrite .start).write = none := by
  intro t
  exact ⟨t.saved, Timeouts.ofJson_toJson t, by decide, by decide⟩

end Bench

namespace IdleWatch

variable {w : IdleWatch} {periods : Timeouts} {now : Instant}

theorem Serves.progress_eq_none_iff (serves : w.Serves periods) (phase : Phase) :
    w.call? (.progress phase) now = none ↔ (w.timer phase).isSome = true ∧
      now.after? (periods.period phase) = none := by
  cases phase with
  | write => exact touched_eq_none_iff (fun timer running => (serves.write timer running).2.1) _
  | read => exact touched_eq_none_iff (fun timer running => (serves.read timer running).2.1) _

/-- Only progress on a running timer can crash. -/
theorem Serves.call?_eq_none_iff (serves : w.Serves periods) {call : TimerCall} :
    w.call? call now = none ↔
      ∃ phase, call = .progress phase ∧ (w.timer phase).isSome = true ∧
        now.after? (periods.period phase) = none := by
  constructor
  · intro lost
    cases call with
    | armWrite | removeWrite | installRead | removeRead => cases lost
    | writeProgress => exact ⟨.write, rfl, (serves.progress_eq_none_iff .write).mp lost⟩
    | readProgress => exact ⟨.read, rfl, (serves.progress_eq_none_iff .read).mp lost⟩
  · rintro ⟨phase, rfl, running, beyond⟩
    exact (serves.progress_eq_none_iff phase).mpr ⟨running, beyond⟩

end IdleWatch

namespace TimerRun

/-- Progress is recorded on a timer that runs, at a time from which the clock cannot show a whole
period. -/
structure Overruns (periods : Timeouts) (run : TimerRun) (now : Instant) (use : TimerUse)
    (phase : Phase) : Prop where
  progress : use = .call (.progress phase)
  nonzero : (periods.period phase).isZero = false
  started : ∃ entry ∈ run.record.since phase, entry.2.starts phase = true
  beyond : now.after? (periods.period phase) = none

variable {periods : Timeouts} {run : TimerRun}

theorem Follows.isSome_timer (follows : Follows periods run) (phase : Phase) :
    (run.timers.timer phase).isSome = true ↔ (periods.period phase).isZero = false ∧
      ∃ entry ∈ run.record.since phase, entry.2.starts phase = true := by
  cases phase with
  | write => exact follows.write.runs
  | read => exact follows.read.runs

theorem Follows.use?_eq_none_iff (follows : Follows periods run) {now : Instant}
    {use : TimerUse} : run.use? now use = none ↔ ∃ phase, Overruns periods run now use phase := by
  cases use with
  | poll =>
      refine iff_of_false nofun ?_
      rintro ⟨phase, overruns⟩
      cases overruns.progress
  | call call =>
      rw [use?, Option.map_eq_none_iff, follows.serves.call?_eq_none_iff]
      constructor
      · rintro ⟨phase, rfl, running, beyond⟩
        obtain ⟨nonzero, started⟩ := (follows.isSome_timer phase).mp running
        exact ⟨phase, rfl, nonzero, started, beyond⟩
      · rintro ⟨phase, progress, nonzero, started, beyond⟩
        have running := (follows.isSome_timer phase).mpr ⟨nonzero, started⟩
        exact ⟨phase, TimerUse.call.inj progress, running, beyond⟩

/-- If uses cannot all be made, there is a first one that cannot. -/
theorem ofUses?_eq_none_iff (periods : Timeouts) (uses : List (Instant × TimerUse)) :
    ofUses? periods uses = none ↔
      ∃ before now use later run, uses = before ++ (now, use) :: later ∧
        ofUses? periods before = some run ∧ run.use? now use = none := by
  constructor
  · intro lost
    induction uses using List.reverseRecOn with
    | nil => cases lost
    | append_singleton earlier last ih =>
        cases began : ofUses? periods earlier with
        | none =>
            obtain ⟨before, now, use, later, run, rfl, made, fails⟩ := ih began
            exact ⟨before, now, use, later ++ [last], run, by simp, made, fails⟩
        | some run =>
            rw [ofUses?_concat, began] at lost
            exact ⟨earlier, last.1, last.2, [], run, rfl, began, lost⟩
  · rintro ⟨before, now, use, later, run, rfl, made, fails⟩
    rw [ofUses?, List.foldlM_append, ← ofUses?, made]
    change (run.use? now use).bind _ = none
    rw [fails]
    rfl

/-- Uses of the timers crash exactly if progress is recorded at some point on a timer that runs, and
the clock cannot show a whole period from then on. -/
theorem timers_crash_iff_overrun (periods : Timeouts) (uses : List (Instant × TimerUse)) :
    ofUses? periods uses = none ↔
      ∃ before now use later run phase, uses = before ++ (now, use) :: later ∧
        ofUses? periods before = some run ∧ Overruns periods run now use phase := by
  rw [ofUses?_eq_none_iff]
  constructor
  · rintro ⟨before, now, use, later, run, split, made, fails⟩
    have follows := ofUses?_follows periods before run made
    obtain ⟨phase, overruns⟩ := follows.use?_eq_none_iff.mp fails
    exact ⟨before, now, use, later, run, phase, split, made, overruns⟩
  · rintro ⟨before, now, use, later, run, phase, split, made, overruns⟩
    have follows := ofUses?_follows periods before run made
    exact ⟨before, now, use, later, run, split, made,
      follows.use?_eq_none_iff.mpr ⟨phase, overruns⟩⟩

end TimerRun

namespace Bench

/-- The longest period that can be configured starts a write timer, and the first frame that is then
taken crashes. -/
theorem longest_period_crashes :
    let longest : Duration := .ofParts 18446744073709551615 999999999
    let periods : Timeouts := ⟨longest, .ofSeconds 30⟩
    ((IdleWatch.ofTimeouts periods).armWrite .start).write =
        some ⟨.write, longest, Instant.start.advance Instant.farAway⟩ ∧
      TimerRun.ofUses? periods
        [(.start, .call .armWrite), (.start, .call .writeProgress)] = none := by
  decide +kernel

end Bench

end HttpExchange
