import HttpExchange.Proofs.Closing
import HttpExchange.Proofs.Timing

/-!
When a poll listened, and when it learned something: it asked for a received frame, or one of those
that it received stood for an event. The polls so far say when the read timer is due, one period
after the last that learned something, or after the first that listened.
-/

namespace HttpExchange

open Trace

variable {σ : Type}

/-- The connection is asked for a received frame. -/
def Action.isReceive : Action → Bool
  | receive _ => true
  | _ => false

namespace Trace

/-- The exchange read. -/
def listened (trace : List Action) : Bool := trace.any Action.isReceive

/-- A received frame stood for an event of the response. -/
def learned (p : Pipeline) (trace : List Action) : Bool :=
  (received trace).any fun frame => !(p.decode frame []).1.isEmpty

/-- When the read timer is due after polls: one period after the last in which the response was
heard of. Without such a poll the timer is as it was started in the first that read. -/
def readDueAfter (p : Pipeline) (period : Duration) (polls : List (Instant × List Action)) :
    Option Instant :=
  ((polls.reverse.find? fun poll => learned p poll.2).map fun poll => poll.1.advance period).or
    ((polls.find? fun poll => listened poll.2).map fun poll => poll.1.sleepUntil period)

/-- Nothing was received in any of the polls, and nothing was asked for. -/
def Unasked (polls : List (Instant × List Action)) : Prop :=
  ∀ poll ∈ polls, listened poll.2 = false

variable {p q : Pipeline} {period : Duration} {polls : List (Instant × List Action)}
  {now : Instant} {actions first second : List Action}

@[simp]
theorem listened_append (first second : List Action) :
    listened (first ++ second) = (listened first || listened second) :=
  List.any_append

@[simp]
theorem learned_append (p : Pipeline) (first second : List Action) :
    learned p (first ++ second) = (learned p first || learned p second) := by
  simp only [learned, received_append, List.any_append]

theorem learned_congr (same : q.decode = p.decode) : learned q = learned p := by
  funext trace
  unfold learned
  rw [same]

/-- Who does not ask hears nothing. -/
theorem learned_of_unlistened (p : Pipeline) (unlistened : listened actions = false) :
    learned p actions = false := by
  have nothing : received actions = [] := by
    refine List.filterMap_eq_nil_iff.mpr fun action member => ?_
    have unasked := List.any_eq_false.mp unlistened action member
    cases action <;> first | rfl | exact absurd rfl unasked
  unfold learned
  rw [nothing]
  rfl

theorem Only.unlistened {kind : Action → Bool} (only : Only kind actions)
    (silent : ∀ answer, kind (.receive answer) = false) : listened actions = false := by
  refine List.any_eq_false.mpr fun action member asked => ?_
  cases action with
  | receive answer =>
      have allowed := only _ member
      rw [silent answer] at allowed
      cases allowed
  | _ => cases asked

theorem Unasked.concat (h : Unasked polls) (unlistened : listened actions = false) :
    Unasked (polls ++ [(now, actions)]) := by
  intro poll member
  rcases List.mem_append.mp member with before | last
  · exact h poll before
  · obtain rfl := List.mem_singleton.mp last
    exact unlistened

theorem readDueAfter_of_unasked (p : Pipeline) (period : Duration) (h : Unasked polls) :
    readDueAfter p period polls = none := by
  have unheard : polls.reverse.find? (fun poll => learned p poll.2) = none := by
    refine List.find?_eq_none.mpr fun poll member => ?_
    simp [learned_of_unlistened p (h poll (List.mem_reverse.mp member))]
  have unlistened : polls.find? (fun poll => listened poll.2) = none :=
    List.find?_eq_none.mpr fun poll member => by simp [h poll member]
  unfold readDueAfter
  rw [unheard, unlistened]
  rfl

theorem readDueAfter_isSome (p : Pipeline) (period : Duration) (asked : ¬Unasked polls) :
    (readDueAfter p period polls).isSome = true := by
  unfold Unasked at asked
  unfold readDueAfter
  have found : (polls.find? fun poll => listened poll.2).isSome = true := by
    rw [List.find?_isSome]
    simpa using asked
  simp [Option.isSome_or, found]

/-- A further poll that reads puts the timer off if it heard of the response, and starts it if
there was none before. -/
theorem readDueAfter_concat (p : Pipeline) (asked : listened actions = true) :
    readDueAfter p period (polls ++ [(now, actions)]) =
      if learned p actions then some (now.advance period)
      else (readDueAfter p period polls).or (some (now.sleepUntil period)) := by
  unfold readDueAfter
  rw [List.reverse_append, List.find?_append, List.reverse_singleton, List.find?_append]
  cases learns : learned p actions with
  | true => simp [learns]
  | false => cases polls.find? fun poll => listened poll.2 <;> simp [learns, asked]

end Trace

/-- What is no part of a poll of an exchange, before it or behind it. -/
def Action.isBeside : Action → Bool
  | control _ | ready _ | produced _ | write _ _ | flush _ | receive _ | responseEnd | timerCheck _
  | refused _ => false
  | _ => true

namespace Trace

variable {before behind actions : List Action}

theorem Only.beside_of_opening (only : Only Action.isOpening actions) :
    Only Action.isBeside actions :=
  only.mono fun action h => by cases action <;> first | rfl | cases h

theorem Only.beside_of_parting (only : Only Action.isParting actions) :
    Only Action.isBeside actions :=
  only.mono fun action h => by cases action <;> first | rfl | cases h

theorem Only.idle_of_beside (only : Only Action.isBeside actions) : Idle actions := by
  constructor
  · refine List.any_eq_false.mpr fun action member => ?_
    have beside := only action member
    cases action <;> first | simp [Action.isStall]; done | cases beside
  · have unsent : accepted actions = [] :=
      only.filterMap_eq_nil fun action h => by cases action <;> first | rfl | cases h
    simp [progressed, unsent]

theorem Only.failures_of_beside (only : Only Action.isBeside actions) (p : Pipeline) :
    failures (.ok p) actions = [] :=
  only.filterMap_eq_nil fun action h => by cases action <;> first | rfl | cases h

/-- Polls that count alike for the timers. -/
structure Alike (trace other : List Action) : Prop where
  listened : Trace.listened trace = Trace.listened other
  learned : ∀ p, Trace.learned p trace = Trace.learned p other
  stalled : Trace.stalled trace = Trace.stalled other
  progressed : Trace.progressed trace = Trace.progressed other

/-- What is done beside a poll does not count. -/
theorem alike_beside (first : Only Action.isBeside before) (last : Only Action.isBeside behind)
    (actions : List Action) : Alike (before ++ (actions ++ behind)) actions := by
  have early := first.unlistened fun _ => rfl
  have late := last.unlistened fun _ => rfl
  refine ⟨?_, fun p => ?_, ?_, ?_⟩
  · simp [early, late]
  · simp [learned_of_unlistened p early, learned_of_unlistened p late]
  · simp [first.idle_of_beside.1, last.idle_of_beside.1]
  · simp [first.idle_of_beside.2, last.idle_of_beside.2]

end Trace

/-- When the read timer is due after polls, if there is one. -/
def Timeouts.readDue (timeouts : Timeouts) (p : Pipeline)
    (polls : List (Instant × List Action)) : Option Instant :=
  if timeouts.read.isZero then none else readDueAfter p timeouts.read polls

theorem Timeouts.readDue_congr (timeouts : Timeouts) {p q : Pipeline}
    (same : q.decode = p.decode) : timeouts.readDue q = timeouts.readDue p := by
  funext polls
  unfold readDue readDueAfter
  rw [learned_congr same]

theorem Timeouts.readDue_isSome (timeouts : Timeouts) (p : Pipeline)
    (polls : List (Instant × List Action)) :
    (timeouts.readDue p polls).isSome = true ↔ timeouts.read.isZero = false ∧ ¬Unasked polls := by
  unfold readDue
  cases timeouts.read.isZero with
  | true => simp
  | false =>
      by_cases unasked : Unasked polls
      · simp [readDueAfter_of_unasked p timeouts.read unasked, unasked]
      · simp [readDueAfter_isSome p timeouts.read unasked, unasked]

namespace IdleWatch

/-- The read timer of a poll, with whether the response was heard of. -/
def heardFrom (w : IdleWatch) (progress : Bool) (now : Instant) : Option IdleTimer :=
  if progress then w.read.map fun timer => { timer with deadline := now.advance timer.period }
  else w.read

/-- To hear of the response twice at the same time is to hear of it once. -/
theorem heardFrom_again {w next : IdleWatch} {now : Instant} {before : Bool}
    (read : next.read = w.heardFrom before now) (later : Bool) :
    next.heardFrom later now = w.heardFrom (before || later) now := by
  unfold heardFrom at *
  rw [read]
  cases before <;> cases later <;> simp [Function.comp_def]

/-- A timer that is due as it was before the poll, or was started in it, is due as the polls say
behind what was heard in it. -/
theorem Serves.readDue {w : IdleWatch} {periods : Timeouts} (serves : w.Serves periods)
    {p : Pipeline} {polls : List (Instant × List Action)} {now : Instant}
    (due : w.read.map IdleTimer.deadline = (periods.readDue p polls).or
      ((started .read periods.read now).map IdleTimer.deadline))
    {actions : List Action} (asked : listened actions = true) :
    (w.heardFrom (learned p actions) now).map IdleTimer.deadline =
      periods.readDue p (polls ++ [(now, actions)]) := by
  unfold heardFrom
  unfold started Timeouts.readDue at *
  cases zero : periods.read.isZero with
  | true =>
      have none_runs : w.read = none := by
        rw [zero] at due
        exact Option.map_eq_none_iff.mp due
      rw [none_runs, if_pos rfl]
      split <;> rfl
  | false =>
      rw [zero] at due
      simp only [Bool.false_eq_true, ↓reduceIte, Option.map_some] at due ⊢
      rw [readDueAfter_concat p asked]
      split
      · cases running : w.read with
        | none =>
            rw [running] at due
            cases earlier : readDueAfter p periods.read polls <;> rw [earlier] at due <;> cases due
        | some timer =>
            rw [← (serves.read timer running).2.1]
            rfl
      · exact due

/-- A read timer that fires is due, and the write timer is not. -/
theorem Serves.poll_readIdle {w : IdleWatch} {periods : Timeouts} (serves : w.Serves periods)
    {now : Instant} {period : Duration} (fired : (w.poll now).1 = some (.readIdle period)) :
    period = periods.read ∧ (∃ timer ∈ w.read, timer.isDue now = true) ∧
      ∀ timer ∈ w.write, timer.isDue now = false := by
  unfold IdleWatch.poll at fired
  split at fired
  · rename_i timer due
    have running : timer ∈ w.write := (Option.filter_eq_some_iff.mp due).1
    have failure := Option.some.inj fired
    unfold IdleTimer.failure at failure
    rw [(serves.write timer running).1] at failure
    cases failure
  · rename_i unfired
    split at fired
    · rename_i timer due
      obtain ⟨running, isDue⟩ := Option.filter_eq_some_iff.mp due
      have failure := Option.some.inj fired
      unfold IdleTimer.failure at failure
      obtain ⟨phase, same, -⟩ := serves.read timer running
      rw [phase, same] at failure
      cases failure
      refine ⟨rfl, ⟨timer, running, isDue⟩, fun other writes => ?_⟩
      simpa using Option.filter_eq_none_iff.mp unfired other writes
    · cases fired

end IdleWatch

end HttpExchange
