import HttpExchange.Proofs.Timers
import Mathlib.Data.List.DropRight

/-!
The two timers, told from the record of all that was done with them. A timer runs if it was
started since it was last removed or reported. The write timer counts from the first start since
then, the read timer from the last, and progress puts either off by a whole period. A poll reports
the write timer if it is due, and otherwise the read timer, and touches nothing but the timer that
it reports.
-/

namespace HttpExchange

/-- What is done with the timers. -/
inductive TimerUse where
  | call (call : TimerCall)
  | poll
  deriving DecidableEq, Repr

/-- What was done with the timers, a poll with its answer. -/
inductive TimerEvent where
  | called (call : TimerCall)
  | polled (fired : Option Failure)
  deriving DecidableEq, Repr

namespace TimerEvent

/-- The timer of a phase is removed, or reported and thereby removed. -/
def removes : Phase → TimerEvent → Bool
  | .write, called .removeWrite | .write, polled (some (.writeIdle _)) => true
  | .read, called .removeRead | .read, polled (some (.readIdle _)) => true
  | _, _ => false

def starts : Phase → TimerEvent → Bool
  | .write, called .armWrite | .read, called .installRead => true
  | _, _ => false

def progresses : Phase → TimerEvent → Bool
  | .write, called .writeProgress | .read, called .readProgress => true
  | _, _ => false

/-- What was done, without the answer. -/
def use : TimerEvent → TimerUse
  | called call => .call call
  | polled _ => .poll

end TimerEvent

/-- What was done with the timers, and when. -/
abbrev TimerRecord := List (Instant × TimerEvent)

namespace TimerRecord

/-- What was done since the timer of a phase was last removed or reported. -/
def since (phase : Phase) (record : TimerRecord) : TimerRecord :=
  record.rtakeWhile fun entry => !entry.2.removes phase

/-- The start that a running timer counts from, with what was done behind it. Starting the write
timer again changes nothing, starting the read timer again begins anew. -/
def Counts (phase : Phase) (kept : TimerRecord) (start : Instant × TimerEvent)
    (later : TimerRecord) : Prop :=
  ∃ before, kept = before ++ start :: later ∧ start.2.starts phase = true ∧
    match phase with
    | .write => ∀ entry ∈ before, entry.2.starts .write = false
    | .read => ∀ entry ∈ later, entry.2.starts .read = false

/-- When a timer is due: one period after the last progress since its start, and as it was started
if there was none. -/
def dueFrom (phase : Phase) (period : Duration) (start : Instant) (later : TimerRecord) :
    Instant :=
  match (later.filter fun entry => entry.2.progresses phase).getLast? with
  | some entry => entry.1.advance period
  | none => start.sleepUntil period

variable {phase : Phase} {period : Duration} {record kept later : TimerRecord} {start : Instant}
  {entry : Instant × TimerEvent}

theorem since_concat_of_removes (removes : entry.2.removes phase = true) :
    since phase (record ++ [entry]) = [] :=
  List.rtakeWhile_concat_neg _ _ _ (by simp [removes])

theorem since_concat (keeps : entry.2.removes phase = false) :
    since phase (record ++ [entry]) = since phase record ++ [entry] :=
  List.rtakeWhile_concat_pos _ _ _ (by simp [keeps])

theorem exists_starts_concat_of_exists (keeps : entry.2.removes phase = false)
    (started : ∃ earlier ∈ since phase record, earlier.2.starts phase = true) :
    ∃ earlier ∈ since phase (record ++ [entry]), earlier.2.starts phase = true := by
  obtain ⟨earlier, member, starts⟩ := started
  rw [since_concat keeps]
  exact ⟨earlier, List.mem_append_left _ member, starts⟩

/-- What starts nothing does not change whether the timer was started. -/
theorem exists_starts_concat (keeps : entry.2.removes phase = false)
    (unstarted : entry.2.starts phase = false) :
    (∃ earlier ∈ since phase (record ++ [entry]), earlier.2.starts phase = true) ↔
      ∃ earlier ∈ since phase record, earlier.2.starts phase = true := by
  rw [since_concat keeps]
  simp [or_and_right, exists_or, unstarted]

theorem dueFrom_concat_of_progress (progress : entry.2.progresses phase = true) :
    dueFrom phase period start (later ++ [entry]) = entry.1.advance period := by
  simp [dueFrom, List.filter_append, progress]

theorem dueFrom_concat (idle : entry.2.progresses phase = false) :
    dueFrom phase period start (later ++ [entry]) = dueFrom phase period start later := by
  simp [dueFrom, List.filter_append, idle]

/-- What is done behind a start leaves it the one that counts, unless it is a start of the read
timer. -/
theorem Counts.concat {begun : Instant × TimerEvent} (counts : Counts phase kept begun later)
    (same : phase = .write ∨ entry.2.starts phase = false) :
    Counts phase (kept ++ [entry]) begun (later ++ [entry]) := by
  obtain ⟨before, rfl, starts, only⟩ := counts
  refine ⟨before, by simp, starts, ?_⟩
  cases phase with
  | write => exact only
  | read =>
      rcases same with other | unstarted
      · cases other
      · intro other member
        rcases List.mem_append.mp member with earlier | last
        · exact only other earlier
        · obtain rfl := List.mem_singleton.mp last
          exact unstarted

/-- A timer of a phase is as the record says. -/
structure Tracks (phase : Phase) (period : Duration) (record : TimerRecord)
    (timer? : Option IdleTimer) : Prop where
  runs : timer?.isSome = true ↔ period.isZero = false ∧
    ∃ entry ∈ since phase record, entry.2.starts phase = true
  due : ∀ timer ∈ timer?, timer.period = period ∧ ∃ begun later,
    Counts phase (since phase record) begun later ∧
      timer.deadline = dueFrom phase period begun.1 later

namespace Tracks

variable {timer? : Option IdleTimer}

theorem unstarted (phase : Phase) (period : Duration) : Tracks phase period [] none :=
  ⟨by simp [since], nofun⟩

theorem removed (removes : entry.2.removes phase = true) :
    Tracks phase period (record ++ [entry]) none :=
  ⟨by simp [since_concat_of_removes removes], nofun⟩

/-- What neither removes a timer nor puts it off leaves it as it is, unless it starts it. -/
theorem passed (tracks : Tracks phase period record timer?)
    (keeps : entry.2.removes phase = false)
    (same : (phase = .write ∧ timer?.isSome = true) ∨ entry.2.starts phase = false)
    (idle : entry.2.progresses phase = false) :
    Tracks phase period (record ++ [entry]) timer? where
  runs := by
    rcases same with ⟨-, running⟩ | unstarted
    · obtain ⟨nonzero, started⟩ := tracks.runs.mp running
      exact iff_of_true running ⟨nonzero, exists_starts_concat_of_exists keeps started⟩
    · rw [exists_starts_concat keeps unstarted]
      exact tracks.runs
  due := by
    intro timer running
    obtain ⟨own, begun, later, counts, deadline⟩ := tracks.due timer running
    rw [since_concat keeps]
    refine ⟨own, begun, later ++ [entry], counts.concat (same.imp_left And.left), ?_⟩
    rw [dueFrom_concat idle]
    exact deadline

/-- Progress puts a running timer off by a whole period. -/
theorem progressed (tracks : Tracks phase period record timer?)
    (keeps : entry.2.removes phase = false) (unstarted : entry.2.starts phase = false)
    (progress : entry.2.progresses phase = true) :
    Tracks phase period (record ++ [entry]) (timer?.map fun timer =>
      { timer with deadline := entry.1.advance timer.period }) where
  runs := by
    rw [Option.isSome_map, exists_starts_concat keeps unstarted]
    exact tracks.runs
  due := by
    intro timer touched
    obtain ⟨before, running, rfl⟩ := Option.map_eq_some_iff.mp touched
    obtain ⟨own, begun, later, counts, -⟩ := tracks.due before running
    rw [since_concat keeps]
    refine ⟨own, begun, later ++ [entry], counts.concat (.inr unstarted), ?_⟩
    rw [dueFrom_concat_of_progress progress, ← own]

/-- A timer that is started counts from now. For the write timer no earlier start may be left. -/
theorem restarted {now : Instant} {event : TimerEvent} (keeps : event.removes phase = false)
    (starts : event.starts phase = true)
    (first : period.isZero = false → phase = .write →
      ∀ earlier ∈ since phase record, earlier.2.starts phase = false) :
    Tracks phase period (record ++ [(now, event)]) (IdleWatch.started phase period now) where
  runs := by
    rw [since_concat keeps]
    unfold IdleWatch.started
    cases period.isZero <;> simp [starts]
  due := by
    intro timer begins
    obtain ⟨-, same, nonzero⟩ := IdleWatch.started_mem begins
    have deadline : timer.deadline = now.sleepUntil period := by
      unfold IdleWatch.started at begins
      rw [nonzero] at begins
      cases begins
      rfl
    rw [since_concat keeps]
    refine ⟨same, (now, event), [], ⟨since phase record, rfl, starts, ?_⟩, deadline⟩
    cases phase with
    | write => exact first nonzero rfl
    | read => exact nofun

/-- Arming the write timer starts it, unless it runs. -/
theorem armed (tracks : Tracks .write period record timer?) (now : Instant) :
    Tracks .write period (record ++ [(now, .called .armWrite)])
      (timer?.or (IdleWatch.started .write period now)) := by
  cases running : timer? with
  | none =>
      refine restarted rfl rfl ?_
      intro nonzero _ earlier member
      rw [running] at tracks
      by_contra starts
      cases tracks.runs.mpr ⟨nonzero, earlier, member, eq_true_of_ne_false starts⟩
  | some timer =>
      rw [running] at tracks
      exact tracks.passed rfl (.inl ⟨rfl, rfl⟩) rfl

end Tracks

end TimerRecord

namespace IdleWatch

variable {w : IdleWatch} {periods : Timeouts}

theorem armWrite_eq (w : IdleWatch) (now : Instant) :
    w.armWrite now = { w with write := w.write.or (started .write w.periods.write now) } := by
  obtain ⟨periods, write, read⟩ := w
  cases write <;> rfl

theorem any_isDue {timer? : Option IdleTimer} {now : Instant} :
    timer?.any (·.isDue now) = (timer?.filter (·.isDue now)).isSome := by
  cases timer? with
  | none => rfl
  | some timer => cases due : timer.isDue now <;> simp [Option.filter, due]

/-- A poll reports the first of the two timers that is due. -/
theorem Serves.poll_eq (serves : w.Serves periods) (now : Instant) :
    w.poll now =
      if w.write.any (·.isDue now) then (some (.writeIdle periods.write), { w with write := none })
      else if w.read.any (·.isDue now) then
        (some (.readIdle periods.read), { w with read := none })
      else (none, w) := by
  unfold IdleWatch.poll
  rw [any_isDue, any_isDue]
  cases write : w.write.filter (·.isDue now) with
  | some timer =>
      obtain ⟨phase, period, -⟩ := serves.write timer (Option.filter_eq_some_iff.mp write).1
      have failure : timer.failure = .writeIdle periods.write := by
        rw [IdleTimer.failure, phase, period]
      rw [Option.isSome_some, if_pos rfl, ← failure]
      rfl
  | none =>
      cases read : w.read.filter (·.isDue now) with
      | some timer =>
          obtain ⟨phase, period, -⟩ := serves.read timer (Option.filter_eq_some_iff.mp read).1
          have failure : timer.failure = .readIdle periods.read := by
            rw [IdleTimer.failure, phase, period]
          rw [Option.isSome_none, if_neg Bool.false_ne_true, Option.isSome_some, if_pos rfl,
            ← failure]
          rfl
      | none => rfl

end IdleWatch

/-- The timers, with the record of what was done with them. -/
structure TimerRun where
  record : TimerRecord
  timers : IdleWatch
  deriving DecidableEq, Repr

namespace TimerRun

/-- The timers after a use of them, if the new deadline exists. -/
def use? (run : TimerRun) (now : Instant) : TimerUse → Option TimerRun
  | .call call => (run.timers.call? call now).map fun timers =>
    ⟨run.record ++ [(now, .called call)], timers⟩
  | .poll => some ⟨run.record ++ [(now, .polled (run.timers.poll now).1)],
    (run.timers.poll now).2⟩

/-- The timers after uses of them, one after the other. -/
def ofUses? (periods : Timeouts) (uses : List (Instant × TimerUse)) : Option TimerRun :=
  uses.foldlM (fun run use => run.use? use.1 use.2) ⟨[], .ofTimeouts periods⟩

/-- Both timers are as the record says. -/
structure Follows (periods : Timeouts) (run : TimerRun) : Prop where
  serves : run.timers.Serves periods
  write : run.record.Tracks .write periods.write run.timers.write
  read : run.record.Tracks .read periods.read run.timers.read

variable {periods : Timeouts} {run next : TimerRun}

theorem Follows.polled (follows : Follows periods run) (now : Instant) :
    Follows periods ⟨run.record ++ [(now, .polled (run.timers.poll now).1)],
      (run.timers.poll now).2⟩ := by
  have serves := follows.serves.poll now
  rw [follows.serves.poll_eq now] at serves ⊢
  by_cases write : run.timers.write.any (·.isDue now) = true
  · rw [if_pos write] at serves ⊢
    exact ⟨serves, .removed rfl, follows.read.passed rfl (.inr rfl) rfl⟩
  · rw [if_neg write] at serves ⊢
    by_cases read : run.timers.read.any (·.isDue now) = true
    · rw [if_pos read] at serves ⊢
      exact ⟨serves, follows.write.passed rfl (.inr rfl) rfl, .removed rfl⟩
    · rw [if_neg read] at serves ⊢
      exact ⟨serves, follows.write.passed rfl (.inr rfl) rfl,
        follows.read.passed rfl (.inr rfl) rfl⟩

theorem Follows.called (follows : Follows periods run) {call : TimerCall} {now : Instant}
    {timers : IdleWatch} (done : run.timers.call? call now = some timers) :
    Follows periods ⟨run.record ++ [(now, .called call)], timers⟩ := by
  have serves := follows.serves
  cases call with
  | armWrite =>
      cases done
      refine ⟨serves.armWrite now, ?_, ?_⟩
      · rw [IdleWatch.armWrite_eq, serves.configured]
        exact follows.write.armed now
      · rw [IdleWatch.armWrite_eq]
        exact follows.read.passed rfl (.inr rfl) rfl
  | removeWrite =>
      cases done
      exact ⟨serves.removeWrite, .removed rfl, follows.read.passed rfl (.inr rfl) rfl⟩
  | installRead =>
      cases done
      refine ⟨serves.installRead now, follows.write.passed rfl (.inr rfl) rfl, ?_⟩
      rw [IdleWatch.installRead, serves.configured]
      exact .restarted rfl rfl nofun
  | removeRead =>
      cases done
      exact ⟨serves.removeRead, follows.write.passed rfl (.inr rfl) rfl, .removed rfl⟩
  | writeProgress =>
      have moved := IdleWatch.writeProgress?_eq_some done
      subst moved
      exact ⟨serves.writeProgress done, follows.write.progressed rfl rfl rfl,
        follows.read.passed rfl (.inr rfl) rfl⟩
  | readProgress =>
      have moved := IdleWatch.readProgress?_eq_some done
      subst moved
      exact ⟨serves.readProgress done, follows.write.passed rfl (.inr rfl) rfl,
        follows.read.progressed rfl rfl rfl⟩

/-- Every use of the timers that can be made keeps them as the record says. -/
theorem Follows.use (follows : Follows periods run) {now : Instant} {use : TimerUse}
    (made : run.use? now use = some next) : Follows periods next := by
  cases use with
  | call call =>
      obtain ⟨timers, done, rfl⟩ := Option.map_eq_some_iff.mp made
      exact follows.called done
  | poll =>
      cases made
      exact follows.polled now

/-- A use can be made if the clock can show a whole period from now on. -/
theorem Follows.use_isSome (follows : Follows periods run) {now : Instant}
    (write : now.after? periods.write ≠ none) (read : now.after? periods.read ≠ none)
    (use : TimerUse) : (run.use? now use).isSome = true := by
  cases use with
  | poll => rfl
  | call call =>
      rw [use?, Option.isSome_map, Option.isSome_iff_ne_none]
      intro lost
      cases call with
      | armWrite | removeWrite | installRead | removeRead => cases lost
      | writeProgress => exact write (follows.serves.writeProgress_lost lost)
      | readProgress => exact read (follows.serves.readProgress_lost lost)

theorem ofUses?_concat (periods : Timeouts) (before : List (Instant × TimerUse))
    (last : Instant × TimerUse) : ofUses? periods (before ++ [last]) =
      (ofUses? periods before).bind fun run => run.use? last.1 last.2 := by
  simp [ofUses?, List.foldlM_append]

theorem ofUses?_follows (periods : Timeouts) (uses : List (Instant × TimerUse)) :
    ∀ run, ofUses? periods uses = some run → Follows periods run := by
  induction uses using List.reverseRecOn with
  | nil =>
      rintro _ ⟨⟩
      exact ⟨IdleWatch.ofTimeouts_serves periods, .unstarted _ _, .unstarted _ _⟩
  | append_singleton before last ih =>
      intro run made
      rw [ofUses?_concat] at made
      obtain ⟨earlier, began, used⟩ := Option.bind_eq_some_iff.mp made
      exact (ih earlier began).use used

theorem ofUses?_record (periods : Timeouts) (uses : List (Instant × TimerUse)) :
    ∀ run, ofUses? periods uses = some run →
      (run.record.map fun entry => (entry.1, entry.2.use)) = uses := by
  induction uses using List.reverseRecOn with
  | nil =>
      rintro _ ⟨⟩
      rfl
  | append_singleton before last ih =>
      intro run made
      rw [ofUses?_concat] at made
      obtain ⟨earlier, began, used⟩ := Option.bind_eq_some_iff.mp made
      obtain ⟨event, recorded, same⟩ : ∃ event,
          run.record = earlier.record ++ [(last.1, event)] ∧ event.use = last.2 := by
        obtain ⟨now, use⟩ := last
        cases use with
        | call call =>
            obtain ⟨timers, -, rfl⟩ := Option.map_eq_some_iff.mp used
            exact ⟨_, rfl, rfl⟩
        | poll =>
            cases used
            exact ⟨_, rfl, rfl⟩
      rw [recorded, List.map_append, ih earlier began, List.map_singleton, same]

theorem ofUses?_exists {periods : Timeouts} {uses : List (Instant × TimerUse)}
    (shown : ∀ use ∈ uses, use.1.after? periods.write ≠ none ∧ use.1.after? periods.read ≠ none) :
    ∃ run, ofUses? periods uses = some run := by
  induction uses using List.reverseRecOn with
  | nil => exact ⟨_, rfl⟩
  | append_singleton before last ih =>
      obtain ⟨earlier, began⟩ := ih fun use member => shown use (List.mem_append_left _ member)
      obtain ⟨write, read⟩ := shown last (by simp)
      have follows := ofUses?_follows periods before earlier began
      rw [ofUses?_concat, began]
      exact Option.isSome_iff_exists.mp (follows.use_isSome write read last.2)

/-- After any uses of the timers, at whatever times, they are as the record says: a timer runs if
its period is not zero and it was started since it was last removed or reported, and it is due one
period after the last progress since the start that counts, or without any as it was started. A
poll reports the write timer if it is due, else the read timer if that one is due, and leaves the
other as it is. There is an outcome of all the uses if the clock could show a whole period at each
of them. -/
theorem timers_follow_record (periods : Timeouts) (uses : List (Instant × TimerUse)) :
    ((∀ use ∈ uses, use.1.after? periods.write ≠ none ∧ use.1.after? periods.read ≠ none) →
      ∃ run, ofUses? periods uses = some run) ∧
    ∀ run, ofUses? periods uses = some run →
      (run.record.map fun entry => (entry.1, entry.2.use)) = uses ∧
      run.record.Tracks .write periods.write run.timers.write ∧
      run.record.Tracks .read periods.read run.timers.read ∧
      ∀ now, run.timers.poll now =
        if run.timers.write.any (·.isDue now) then
          (some (.writeIdle periods.write), { run.timers with write := none })
        else if run.timers.read.any (·.isDue now) then
          (some (.readIdle periods.read), { run.timers with read := none })
        else (none, run.timers) := by
  constructor
  · intro shown
    exact ofUses?_exists shown
  · intro run made
    have follows := ofUses?_follows periods uses run made
    refine ⟨ofUses?_record periods uses run made, follows.write, follows.read, ?_⟩
    intro now
    exact follows.serves.poll_eq now

end TimerRun

namespace Bench

/-- Progress puts the write timer off by five seconds, so that both timers are due at once. The
write timer is reported first, and the read timer stays due. -/
theorem timers_follow_record_together :
    let second (n : Nat) : Instant := Instant.start.advance (.ofSeconds n)
    let uses : List (Instant × TimerUse) := [(second 0, .call .armWrite),
      (second 5, .call .writeProgress), (second 5, .call .installRead),
      (second 7, .call .armWrite), (second 35, .poll)]
    ∃ run, TimerRun.ofUses? .standard uses = some run ∧
      run.record.getLast? = some (second 35, .polled (some (.writeIdle (.ofSeconds 30)))) ∧
      run.record.Tracks .write (.ofSeconds 30) none ∧
      run.record.Tracks .read (.ofSeconds 30) (some ⟨.read, .ofSeconds 30, second 35⟩) ∧
      (run.timers.poll (second 35)).1 = some (.readIdle (.ofSeconds 30)) := by
  intro second uses
  let record : TimerRecord := [(second 0, .called .armWrite), (second 5, .called .writeProgress),
    (second 5, .called .installRead), (second 7, .called .armWrite),
    (second 35, .polled (some (.writeIdle (.ofSeconds 30))))]
  let left : IdleTimer := ⟨.read, .ofSeconds 30, second 35⟩
  obtain ⟨outcome, laws⟩ := TimerRun.timers_follow_record .standard uses
  obtain ⟨run, made⟩ := outcome (by decide)
  have reached : TimerRun.ofUses? .standard uses = some ⟨record, .standard, none, some left⟩ := by
    decide +kernel
  obtain rfl := Option.some.inj (made.symm.trans reached)
  obtain ⟨-, write, read, polls⟩ := laws _ made
  have due : (some left).any (·.isDue (second 35)) = true := by decide
  have reported := congrArg Prod.fst (polls (second 35))
  simp only [Option.any_none, due, if_true, Bool.false_eq_true, if_false] at reported
  exact ⟨_, made, rfl, write, read, reported⟩

/-- A read timer of more than thirty years is reported after thirty years already, though it made
no progress only for so long. -/
theorem read_timer_reported_early :
    let period : Duration := .ofMilliseconds 946080000001
    let now : Instant := Instant.start.advance (.ofMilliseconds 946080000000)
    ∃ run, TimerRun.ofUses? ⟨.ofMilliseconds 0, period⟩
        [(Instant.start, .call .installRead)] = some run ∧
      (∃ timer ∈ run.timers.read, timer.deadline ≠ Instant.start.advance period) ∧
      (Instant.start.advance period).isDue now = false ∧
      (run.timers.poll now).1 = some (.readIdle period) := by
  intro period now
  let timer : IdleTimer := .start .read period Instant.start
  let periods : Timeouts := ⟨.ofMilliseconds 0, period⟩
  refine ⟨⟨[(Instant.start, .called .installRead)], ⟨periods, none, some timer⟩⟩,
    ?_, ⟨timer, rfl, ?_⟩, ?_, ?_⟩
  · decide +kernel
  · decide
  · decide
  · decide

end Bench

end HttpExchange
