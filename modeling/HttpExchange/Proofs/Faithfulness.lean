import HttpExchange.Proofs.Hearing

/-!
What a handler is told of a response: the events that the received frames stand for, each once and
in order, and nothing else. What neither calls the handler nor receives anything is of no
consequence, and a poll that hears on tells on.
-/

namespace HttpExchange

open Trace

variable {σ : Type}

namespace Action

/-- The message of an error that is logged. -/
@[simp]
def error? : Action → Option String
  | log ⟨.error, message⟩ => some message
  | _ => none

/-- The result with which the task settles the future, if it is still open. -/
@[simp]
def settlement? : Action → Option Result
  | settle result _ => some result
  | _ => none

/-- What neither calls the handler nor receives anything nor is an error. -/
def isUnheard : Action → Bool
  | callback _ | receive _ => false
  | log line => line.level = .warn
  | _ => true

/-- What is of no consequence for what the handler and the future are told. -/
def isSilent : Action → Bool
  | acquire | produce | timer _ | cancel _ | close _ _ | release _ _ => true
  | log line => line.level = .warn
  | _ => false

/-- What is left to do once the handler has heard the end. -/
def isAftermath : Action → Bool
  | settle _ _ | cancel _ => true
  | log line => line.level = .warn
  | _ => false

end Action

namespace Trace

abbrev errors (trace : List Action) : List String := trace.filterMap Action.error?

abbrev settlements (trace : List Action) : List Result := trace.filterMap Action.settlement?

theorem errors_append (first second : List Action) :
    errors (first ++ second) = errors first ++ errors second :=
  List.filterMap_append

theorem settlements_append (first second : List Action) :
    settlements (first ++ second) = settlements first ++ settlements second :=
  List.filterMap_append

theorem Only.unheard_of_silent {trace : List Action} (only : Only Action.isSilent trace) :
    Only Action.isUnheard trace :=
  only.mono fun action h => by cases action <;> first | rfl | exact h

theorem Only.unheard_of_aftermath {trace : List Action} (only : Only Action.isAftermath trace) :
    Only Action.isUnheard trace :=
  only.mono fun action h => by cases action <;> first | rfl | exact h

theorem Only.silent_of_opening {trace : List Action} (only : Only Action.isOpening trace) :
    Only Action.isSilent trace :=
  only.mono fun action h => by cases action <;> first | rfl | exact h

theorem Only.silent_of_cancel {trace : List Action} (only : Only Action.isCancel trace) :
    Only Action.isSilent trace :=
  only.mono fun action h => by cases action <;> first | rfl | cases h

theorem Only.aftermath_of_cancel {trace : List Action} (only : Only Action.isCancel trace) :
    Only Action.isAftermath trace :=
  only.mono fun action h => by cases action <;> first | rfl | cases h

theorem Only.unheard {trace : List Action} (only : Only Action.isUnheard trace) :
    callbacks trace = [] ∧ received trace = [] ∧ errors trace = [] := by
  refine ⟨only.filterMap_eq_nil ?_, only.filterMap_eq_nil ?_, only.filterMap_eq_nil ?_⟩
  · intro action h
    cases action <;> first | rfl | cases h
  · intro action h
    cases action <;> first | rfl | cases h
  · intro action h
    cases action with
    | log line =>
        obtain ⟨level, message⟩ := line
        cases level <;> first | rfl | cases h
    | _ => rfl

theorem Only.unfailing {trace : List Action} (only : Only Action.isSilent trace)
    (framing : Except Failure Pipeline) : failures framing trace = [] ∧ settlements trace = [] :=
  ⟨only.filterMap_eq_nil (fun action h => by cases action <;> first | rfl | cases h),
    only.filterMap_eq_nil (fun action h => by cases action <;> first | rfl | cases h)⟩

/-- Driving an exchange logs no error and settles nothing. -/
theorem Only.unsettling {trace : List Action} (only : Only Action.isDriving trace) :
    errors trace = [] ∧ settlements trace = [] :=
  ⟨only.filterMap_eq_nil (fun action h => by cases action <;> first | rfl | cases h),
    only.filterMap_eq_nil (fun action h => by cases action <;> first | rfl | cases h)⟩

theorem Only.aftermath {trace : List Action} (only : Only Action.isAftermath trace)
    (framing : Except Failure Pipeline) :
    failures framing trace = [] ∧ releases trace = [] :=
  ⟨only.filterMap_eq_nil (fun action h => by cases action <;> first | rfl | cases h),
    only.filterMap_eq_nil (fun action h => by cases action <;> first | rfl | cases h)⟩

/-- The last callbacks are callbacks. -/
theorem verdicts_eq_filter (trace : List Action) :
    verdicts trace = (callbacks trace).filter Callback.isVerdict := by
  induction trace with
  | nil => rfl
  | cons action rest ih =>
      cases action with
      | callback made =>
          cases last : made.isVerdict <;> simp [verdicts, callbacks, last, ih]
      | _ => exact ih

end Trace

/-- The events that received frames stand for, on a connection that is framed so. -/
def Pipeline.eventsOn (framing : Except Failure Pipeline) (frames : List Inbound) :
    List ResponseEvent :=
  match framing with
  | .ok p => p.events frames
  | .error _ => []

/-- A poll broke off. -/
def Stage.isCrashed : Stage σ → Bool
  | gone .crashed _ => true
  | _ => false

/-- How the connection that the pool granted is framed. There is nothing to frame without one. -/
def Acquisition.framingBy (acquisition : Acquisition σ) (history : List (Stimulus σ)) :
    Except Failure Pipeline :=
  match acquisition.answerBy history with
  | some (.ok connection) => (Pipeline.configure connection).1
  | _ => .ok .single

theorem Pipeline.eventsOn_append (framing : Except Failure Pipeline) (first second : List Inbound) :
    eventsOn framing (first ++ second) = eventsOn framing first ++ eventsOn framing second := by
  cases framing with
  | error failure => rfl
  | ok p => exact p.events_append first second

/-- The end of a response is no event that is delivered, so the events are no last callback. -/
theorem Callback.ofEvents_filter (events : List ResponseEvent) :
    (ofEvents events).filter isVerdict = [] := by
  rw [List.filter_eq_nil_iff]
  intro callback member
  obtain ⟨event, -, made⟩ := List.mem_filterMap.mp member
  simp [Handler.ofEvent?_passing made]

namespace Ending

/-- What is logged of an ending. -/
def lines : Ending → List Action
  | .success => []
  | .failure message _ => [.log ⟨.error, message⟩]

/-- The end of the response was received, or else this failure was met and no other. -/
def Fits (framing : Except Failure Pipeline) (trace : List Action) : Ending → Prop
  | .success => .finish ∈ Pipeline.eventsOn framing (received trace)
  | .failure _ cause => .finish ∉ Pipeline.eventsOn framing (received trace) ∧
      failures framing trace = [cause]

variable {framing : Except Failure Pipeline} {trace more : List Action} {ending : Ending}

theorem Fits.silent (h : ending.Fits framing trace) (silent : Only Action.isSilent more) :
    ending.Fits framing (trace ++ more) := by
  obtain ⟨-, unreceived, -⟩ := silent.unheard_of_silent.unheard
  have same : received (trace ++ more) = received trace := by
    rw [received_append, unreceived, List.append_nil]
  cases ending with
  | success =>
      rw [Fits, same]
      exact h
  | failure message cause =>
      rw [Fits, same, failures_append, (silent.unfailing framing).1, List.append_nil]
      exact h

end Ending

/-- The handler was told the events that were received, and nothing else, and no error was
logged. -/
structure Faithful (framing : Except Failure Pipeline) (trace : List Action) : Prop where
  callbacks : Trace.callbacks trace = Callback.ofEvents (Pipeline.eventsOn framing (received trace))
  errors : Trace.errors trace = []

namespace Faithful

variable {framing : Except Failure Pipeline} {trace more : List Action}

theorem ofUnheard (framing : Except Failure Pipeline) (unheard : Only Action.isUnheard trace) :
    Faithful framing trace := by
  obtain ⟨uncalled, unreceived, unlogged⟩ := unheard.unheard
  refine ⟨?_, unlogged⟩
  rw [uncalled, unreceived]
  cases framing <;> rfl

theorem unheard (h : Faithful framing trace) (unheard : Only Action.isUnheard more) :
    Faithful framing (trace ++ more) := by
  obtain ⟨uncalled, unreceived, unlogged⟩ := unheard.unheard
  refine ⟨?_, ?_⟩
  · rw [callbacks_append, uncalled, received_append, unreceived, List.append_nil, List.append_nil]
    exact h.callbacks
  · rw [errors_append, h.errors, unlogged]
    rfl

theorem unsaid (h : Faithful framing trace) : verdicts trace = [] := by
  rw [verdicts_eq_filter, h.callbacks, Callback.ofEvents_filter]

/-- One poll that hears on where the end was not heard. It ends with the end of the response or with
the failure that was met in it. -/
theorem hears (h : Faithful framing trace)
    (unfinished : .finish ∉ Pipeline.eventsOn framing (received trace))
    (unfailed : failures framing trace = []) {p : Pipeline} (framed : framing = .ok p) {ρ : Type}
    {step : Step ρ} (hears : step.Hears p []) (unlogged : Trace.errors step.actions = []) :
    (step.turn ≠ .crashed → Faithful framing (trace ++ step.actions) ∧
      (.finish ∈ Pipeline.eventsOn framing (received (trace ++ step.actions)) ↔
        step.turn = .ended .complete)) ∧
      failures framing (trace ++ step.actions) = step.turn.failure?.toList := by
  have events_eq : Pipeline.eventsOn framing (received (trace ++ step.actions)) =
      Pipeline.eventsOn framing (received trace) ++ p.events (received step.actions) := by
    rw [received_append, Pipeline.eventsOn_append, framed]
    rfl
  refine ⟨fun whole => ⟨⟨?_, ?_⟩, ?_⟩, ?_⟩
  · rw [callbacks_append, h.callbacks, hears.callbacks whole, events_eq,
      Callback.ofEvents_append_of_open unfinished]
    rfl
  · rw [errors_append, h.errors, unlogged]
    rfl
  · rw [events_eq, List.mem_append, or_iff_right unfinished]
    exact hears.finished whole
  · rw [failures_append, unfailed, framed]
    exact hears.failures

end Faithful

end HttpExchange
