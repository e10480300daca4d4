import HttpExchange.Task.Stimulus

/-!
What can be read off a trace: the connections taken from the pool and handed back to it, the
frames offered to the transport and those it took, the answers of the body producer, the
aborts taken, the last callback, and whether a cancellation settled the result.

Most of a trace is made while an exchange is driven, by writing the request or by reading the
response. `Only` says that a trace consists of actions of one kind, and a view that is blind to
the kind finds nothing in it.
-/

namespace HttpExchange

/-- The two callbacks that end an exchange. -/
def Callback.isVerdict : Callback → Bool
  | complete | failed _ => true
  | headers _ | data _ | trailers _ => false

namespace Action

@[simp]
def leased? : Action → Option ConnectionId
  | leased connection => some connection
  | _ => none

/-- The connection handed back, and whether the pool found it open. -/
@[simp]
def released? : Action → Option (ConnectionId × Bool)
  | release connection isOpen => some (connection, isOpen)
  | _ => none

/-- What the transport of a connection answered when it was asked to close. -/
@[simp]
def closing? : Action → Option (ConnectionId × Readiness)
  | close connection answer => some (connection, answer)
  | _ => none

@[simp]
def offered? : Action → Option Outbound
  | write frame _ => some frame
  | _ => none

@[simp]
def accepted? : Action → Option Outbound
  | write frame none => some frame
  | _ => none

@[simp]
def refused? : Action → Option Outbound
  | write frame (some _) => some frame
  | _ => none

@[simp]
def produced? : Action → Option BodyAnswer
  | produced answer => some answer
  | _ => none

/-- The abort found in the control queue. -/
@[simp]
def abort? : Action → Option Failure
  | control abort => abort
  | _ => none

@[simp]
def callback? : Action → Option Callback
  | callback made => some made
  | _ => none

@[simp]
def verdict? : Action → Option Callback
  | callback made => if made.isVerdict then some made else none
  | _ => none

/-- What a task does before its exchange is polled for the first time. It may warn, of a length
that it cannot read. -/
def isOpening : Action → Bool
  | produce | timer _ => true
  | log line => line.level = .warn
  | _ => false

/-- What an execution does until its exchange is polled for the first time. -/
def isPreparing : Action → Bool
  | acquire | leased _ | refused _ | cancel _ => true
  | action => action.isOpening

/-- What writing a request consists of. -/
def isWriting : Action → Bool
  | ready _ | produced _ | write _ _ | flush _ | timer _ => true
  | _ => false

/-- What reading a response consists of. The last callback is not made there. -/
def isReceiving : Action → Bool
  | receive _ | responseEnd | timer _ | cancel _ => true
  | callback made => !made.isVerdict
  | _ => false

/-- What reading a response and checking the timers consists of. -/
def isReading : Action → Bool
  | timerCheck _ => true
  | action => action.isReceiving

/-- What driving an exchange consists of. -/
def isDriving : Action → Bool
  | control _ => true
  | action => action.isWriting || action.isReading

/-- What neither calls the handler, nor cancels, nor takes an abort. -/
def isInert : Action → Bool
  | callback _ | cancel _ | control _ => false
  | _ => true

/-- What is no part of sending the request: no answer of its body and no frame. -/
def isOffWire : Action → Bool
  | produced _ | write _ _ => false
  | _ => true

/-- What can be done before an exchange is over: no connection is closed or handed back, and the
last callback is not made. -/
def isMidway : Action → Bool
  | close _ _ | release _ _ => false
  | callback made => !made.isVerdict
  | _ => true

/-- What an execution that went away still does: it refuses whoever cancels. -/
def isCancel : Action → Bool
  | cancel _ => true
  | _ => false

/-- What is left to an execution that only winds up. Of all it can ask of a transport it asks it
to close, and of all callbacks it makes the last. -/
def isUnwinding : Action → Bool
  | acquire | ready _ | produced _ | write _ _ | flush _ | receive _ | responseEnd
  | timerCheck _ => false
  | callback made => made.isVerdict
  | _ => true

end Action

namespace Trace

abbrev leases (trace : List Action) : List ConnectionId := trace.filterMap Action.leased?

abbrev releases (trace : List Action) : List (ConnectionId × Bool) :=
  trace.filterMap Action.released?

abbrev closes (trace : List Action) : List (ConnectionId × Readiness) :=
  trace.filterMap Action.closing?

/-- All frames handed to the transport, whether it took them or not. -/
abbrev offered (trace : List Action) : List Outbound := trace.filterMap Action.offered?

abbrev accepted (trace : List Action) : List Outbound := trace.filterMap Action.accepted?

abbrev refused (trace : List Action) : List Outbound := trace.filterMap Action.refused?

/-- What the body producer answered, each time it was asked. -/
abbrev answers (trace : List Action) : List BodyAnswer := trace.filterMap Action.produced?

abbrev aborts (trace : List Action) : List Failure := trace.filterMap Action.abort?

abbrev callbacks (trace : List Action) : List Callback := trace.filterMap Action.callback?

abbrev verdicts (trace : List Action) : List Callback := trace.filterMap Action.verdict?

/-- Some cancellation was the one that settled the result. -/
def Cancelled (trace : List Action) : Prop := Action.cancel true ∈ trace

/-- Every action of the trace is of the given kind. -/
def Only (kind : Action → Bool) (trace : List Action) : Prop :=
  ∀ action ∈ trace, kind action = true

theorem leases_append (first second : List Action) :
    leases (first ++ second) = leases first ++ leases second :=
  List.filterMap_append

theorem releases_append (first second : List Action) :
    releases (first ++ second) = releases first ++ releases second :=
  List.filterMap_append

theorem closes_append (first second : List Action) :
    closes (first ++ second) = closes first ++ closes second :=
  List.filterMap_append

theorem offered_append (first second : List Action) :
    offered (first ++ second) = offered first ++ offered second :=
  List.filterMap_append

theorem accepted_append (first second : List Action) :
    accepted (first ++ second) = accepted first ++ accepted second :=
  List.filterMap_append

theorem refused_append (first second : List Action) :
    refused (first ++ second) = refused first ++ refused second :=
  List.filterMap_append

theorem answers_append (first second : List Action) :
    answers (first ++ second) = answers first ++ answers second :=
  List.filterMap_append

theorem aborts_append (first second : List Action) :
    aborts (first ++ second) = aborts first ++ aborts second :=
  List.filterMap_append

theorem callbacks_append (first second : List Action) :
    callbacks (first ++ second) = callbacks first ++ callbacks second :=
  List.filterMap_append

theorem verdicts_append (first second : List Action) :
    verdicts (first ++ second) = verdicts first ++ verdicts second :=
  List.filterMap_append

@[simp]
theorem cancelled_append (first second : List Action) :
    Cancelled (first ++ second) ↔ Cancelled first ∨ Cancelled second :=
  List.mem_append

/-- A trace up to a mark is not made longer by what has no such mark. -/
theorem mark_isPrefix_append {mark : Action} {more : List Action} (unmarked : mark ∉ more)
    (front trace : List Action) :
    front ++ [mark] <+: trace ++ more ↔ front ++ [mark] <+: trace := by
  constructor
  · intro marked
    rcases List.prefix_or_prefix_of_prefix marked (List.prefix_append trace more) with
      within | ⟨rest, whole⟩
    · exact within
    · rcases List.eq_nil_or_concat rest with rfl | ⟨between, last, rfl⟩
      · obtain rfl : trace = front ++ [mark] := (List.append_nil trace).symm.trans whole
        exact List.prefix_rfl
      · rw [List.concat_eq_append, ← List.append_assoc] at whole
        obtain ⟨rfl, same⟩ := List.append_inj' whole rfl
        rw [List.append_assoc] at marked
        have in_more := ((List.prefix_append_right_inj trace).mp marked).subset
          (List.mem_append_right _ List.mem_cons_self)
        exact absurd in_more unmarked
  · intro marked
    exact marked.trans (List.prefix_append _ _)

/-- A mark that is put behind a trace marks the whole of it, and whatever was marked before. -/
theorem mark_isPrefix_concat {mark : Action} (front trace : List Action) :
    front ++ [mark] <+: trace ++ [mark] ↔ front = trace ∨ front ++ [mark] <+: trace := by
  constructor
  · intro marked
    rcases List.prefix_concat_iff.mp marked with whole | within
    · exact .inl (List.append_cancel_right whole)
    · exact .inr within
  · rintro (rfl | marked)
    · exact List.prefix_rfl
    · exact marked.trans (List.prefix_append _ _)

section Only

variable {kind : Action → Bool}

@[simp]
theorem only_nil : Only kind [] := by
  intro action member
  cases member

@[simp]
theorem only_cons (action : Action) (rest : List Action) :
    Only kind (action :: rest) ↔ kind action = true ∧ Only kind rest := by
  simp [Only]

@[simp]
theorem only_append (first second : List Action) :
    Only kind (first ++ second) ↔ Only kind first ∧ Only kind second := by
  simp only [Only, List.mem_append]
  constructor
  · intro h
    exact ⟨fun action member => h action (Or.inl member),
      fun action member => h action (Or.inr member)⟩
  · rintro ⟨hfirst, hsecond⟩ action (member | member)
    · exact hfirst action member
    · exact hsecond action member

theorem Only.mono {wider : Action → Bool} {trace : List Action} (only : Only kind trace)
    (included : ∀ action, kind action = true → wider action = true) : Only wider trace :=
  fun action member => included action (only action member)

/-- A view that is blind to a kind of actions sees nothing of a trace of this kind. -/
theorem Only.filterMap_eq_nil {α : Type} {view : Action → Option α} {trace : List Action}
    (only : Only kind trace) (blind : ∀ action, kind action = true → view action = none) :
    trace.filterMap view = [] := by
  rw [List.filterMap_eq_nil_iff]
  intro action member
  exact blind action (only action member)

theorem only_map_log (logs : ∀ line, kind (.log line) = true) (lines : List LogLine) :
    Only kind (lines.map Action.log) := by
  intro action member
  obtain ⟨line, _, rfl⟩ := List.mem_map.mp member
  exact logs line

end Only

theorem Only.driving_of_writing {trace : List Action} (only : Only Action.isWriting trace) :
    Only Action.isDriving trace :=
  only.mono fun action h => by cases action <;> first | rfl | cases h

theorem Only.reading_of_receiving {trace : List Action} (only : Only Action.isReceiving trace) :
    Only Action.isReading trace := by
  refine only.mono fun action h => ?_
  cases action <;> first | rfl | exact h

theorem Only.driving_of_reading {trace : List Action} (only : Only Action.isReading trace) :
    Only Action.isDriving trace := by
  refine only.mono fun action h => ?_
  cases action <;> first | rfl | exact h

theorem Only.midway_of_driving {trace : List Action} (only : Only Action.isDriving trace) :
    Only Action.isMidway trace := by
  refine only.mono fun action h => ?_
  cases action <;> first | rfl | exact h

theorem Only.midway_of_opening {trace : List Action} (only : Only Action.isOpening trace) :
    Only Action.isMidway trace :=
  only.mono fun action h => by cases action <;> first | rfl | cases h

theorem Only.unwinding_of_opening {trace : List Action} (only : Only Action.isOpening trace) :
    Only Action.isUnwinding trace :=
  only.mono fun action h => by cases action <;> first | rfl | cases h

theorem Only.midway_of_preparing {trace : List Action} (only : Only Action.isPreparing trace) :
    Only Action.isMidway trace :=
  only.mono fun action h => by cases action <;> first | rfl | cases h

theorem Only.midway_of_cancel {trace : List Action} (only : Only Action.isCancel trace) :
    Only Action.isMidway trace :=
  only.mono fun action h => by cases action <;> first | rfl | cases h

theorem Only.unwinding_of_cancel {trace : List Action} (only : Only Action.isCancel trace) :
    Only Action.isUnwinding trace :=
  only.mono fun action h => by cases action <;> first | rfl | cases h

/-- Driving an exchange takes nothing from the pool. -/
theorem Only.leases_eq_nil {trace : List Action} (only : Only Action.isDriving trace) :
    leases trace = [] :=
  only.filterMap_eq_nil fun action h => by cases action <;> first | rfl | cases h

theorem Only.releases_eq_nil {trace : List Action} (only : Only Action.isMidway trace) :
    releases trace = [] :=
  only.filterMap_eq_nil fun action h => by cases action <;> first | rfl | cases h

theorem Only.closes_eq_nil {trace : List Action} (only : Only Action.isMidway trace) :
    closes trace = [] :=
  only.filterMap_eq_nil fun action h => by cases action <;> first | rfl | cases h

theorem Only.verdicts_eq_nil {trace : List Action} (only : Only Action.isMidway trace) :
    verdicts trace = [] := by
  refine only.filterMap_eq_nil fun action h => ?_
  cases action with
  | callback made => cases made <;> first | rfl | cases h
  | _ => rfl

/-! What is off the wire asks the producer nothing and offers the transport nothing. -/

theorem Only.offWire_of_reading {trace : List Action} (only : Only Action.isReading trace) :
    Only Action.isOffWire trace :=
  only.mono fun action h => by cases action <;> first | rfl | cases h

theorem Only.offWire_of_opening {trace : List Action} (only : Only Action.isOpening trace) :
    Only Action.isOffWire trace :=
  only.mono fun action h => by cases action <;> first | rfl | cases h

theorem Only.preparing_of_opening {trace : List Action} (only : Only Action.isOpening trace) :
    Only Action.isPreparing trace :=
  only.mono fun action h => by cases action <;> first | rfl | exact h

theorem Only.preparing_of_cancel {trace : List Action} (only : Only Action.isCancel trace) :
    Only Action.isPreparing trace :=
  only.mono fun action h => by cases action <;> first | rfl | cases h

theorem Only.offWire_of_preparing {trace : List Action} (only : Only Action.isPreparing trace) :
    Only Action.isOffWire trace :=
  only.mono fun action h => by cases action <;> first | rfl | cases h

theorem Only.answers_eq_nil {trace : List Action} (only : Only Action.isOffWire trace) :
    answers trace = [] :=
  only.filterMap_eq_nil fun action h => by cases action <;> first | rfl | cases h

theorem Only.offered_eq_nil {trace : List Action} (only : Only Action.isOffWire trace) :
    offered trace = [] :=
  only.filterMap_eq_nil fun action h => by cases action <;> first | rfl | cases h

theorem Only.accepted_eq_nil {trace : List Action} (only : Only Action.isOffWire trace) :
    accepted trace = [] :=
  only.filterMap_eq_nil fun action h => by cases action <;> first | rfl | cases h

theorem Only.refused_eq_nil {trace : List Action} (only : Only Action.isOffWire trace) :
    refused trace = [] :=
  only.filterMap_eq_nil fun action h => by cases action <;> first | rfl | cases h

/-- Only the look at the control queue finds aborts. -/
theorem Only.aborts_eq_nil_of_reading {trace : List Action} (only : Only Action.isReading trace) :
    aborts trace = [] :=
  only.filterMap_eq_nil fun action h => by cases action <;> first | rfl | cases h

theorem Only.inert_of_writing {trace : List Action} (only : Only Action.isWriting trace) :
    Only Action.isInert trace :=
  only.mono fun action h => by cases action <;> first | rfl | cases h

theorem Only.inert_of_opening {trace : List Action} (only : Only Action.isOpening trace) :
    Only Action.isInert trace :=
  only.mono fun action h => by cases action <;> first | rfl | cases h

theorem Only.not_cancelled {trace : List Action} (only : Only Action.isInert trace) :
    ¬Cancelled trace := by
  intro cancelled
  cases only _ cancelled

theorem Only.aborts_eq_nil {trace : List Action} (only : Only Action.isInert trace) :
    aborts trace = [] :=
  only.filterMap_eq_nil fun action h => by cases action <;> first | rfl | cases h

theorem Only.silent {trace : List Action} (only : Only Action.isInert trace) :
    verdicts trace = [] :=
  only.filterMap_eq_nil fun action h => by cases action <;> first | rfl | cases h

end Trace

end HttpExchange
