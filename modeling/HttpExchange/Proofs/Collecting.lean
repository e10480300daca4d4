import HttpExchange.Collector
import Mathlib.Data.List.DropRight

/-!
A collector, told from the record of all that was done with it: the callbacks that it got, the looks
at what it holds and the attempts to take the response, in whatever order. The bodies of the
responses that were taken and the body that it still holds are together the data that arrived. A
response can be taken if its end was announced and a head arrived since one was last taken, and it
has the latest such head. An attempt that yields nothing changes nothing.
-/

namespace HttpExchange

/-- All that can be seen of a collector. -/
structure Collector.Sight where
  status : Option Nat
  body : Bytes
  trailers : Option Headers
  isComplete : Bool
  hasFailed : Bool
  text : String
  json : Except Json.Problem Json.Value

def Collector.sight (c : Collector) : Collector.Sight :=
  ⟨c.status, c.body, c.trailers, c.isComplete, c.hasFailed, c.text, c.json⟩

/-- What is done with a collector. -/
inductive CollectorUse where
  | receive (callback : Callback)
  | look
  | take
  deriving DecidableEq, Repr

/-- What was done with a collector, with what it gave. -/
inductive CollectorEvent where
  | received (callback : Callback)
  | seen (sight : Collector.Sight)
  | taken (response : Option Response)

namespace CollectorEvent

/-- What was done, without what it gave. -/
def use : CollectorEvent → CollectorUse
  | received callback => .receive callback
  | seen _ => .look
  | taken _ => .take

def data : CollectorEvent → Bytes
  | received (.data bytes) => bytes
  | _ => []

def head? : CollectorEvent → Option ResponseHead
  | received (.headers head) => some head
  | _ => none

/-- The body that was handed out. -/
def handedOut : CollectorEvent → Bytes
  | taken (some response) => response.body
  | _ => []

/-- A response was taken. -/
def succeeds : CollectorEvent → Bool
  | taken (some _) => true
  | _ => false

end CollectorEvent

/-- What was done with a collector, from the first on. -/
abbrev CollectorRecord := List CollectorEvent

namespace CollectorRecord

/-- The data that arrived. -/
def arrived (record : CollectorRecord) : Bytes := record.flatMap CollectorEvent.data

/-- The bodies of the responses that were taken, one after the other. -/
def delivered (record : CollectorRecord) : Bytes := record.flatMap CollectorEvent.handedOut

/-- What was done since a response was last taken. -/
def sinceTaken (record : CollectorRecord) : CollectorRecord :=
  record.rtakeWhile fun event => !event.succeeds

/-- The latest head of those that arrived since a response was last taken. -/
def latestHead (record : CollectorRecord) : Option ResponseHead :=
  (record.sinceTaken.filterMap CollectorEvent.head?).getLast?

variable {record : CollectorRecord} {event : CollectorEvent}

@[simp]
theorem arrived_concat : arrived (record ++ [event]) = record.arrived ++ event.data := by
  simp [arrived]

@[simp]
theorem delivered_concat :
    delivered (record ++ [event]) = record.delivered ++ event.handedOut := by
  simp [delivered]

theorem latestHead_of_succeeds (succeeds : event.succeeds = true) :
    latestHead (record ++ [event]) = none := by
  rw [latestHead, sinceTaken, List.rtakeWhile_concat_neg _ _ _ (by simp [succeeds])]
  rfl

theorem latestHead_concat (fails : event.succeeds = false) :
    latestHead (record ++ [event]) = event.head?.or record.latestHead := by
  rw [latestHead, sinceTaken, List.rtakeWhile_concat_pos _ _ _ (by simp [fails]),
    List.filterMap_append, List.getLast?_append]
  cases arrives : event.head? with
  | none => rw [List.filterMap_cons_none arrives]; rfl
  | some head => rw [List.filterMap_cons_some arrives]; rfl

end CollectorRecord

namespace Collector

variable {c : Collector}

theorem take_eq_some_iff {response : Response} :
    c.take.1 = some response ↔
      c.isComplete = true ∧ c.head = some response.head ∧ response.body = c.body := by
  obtain ⟨head, body⟩ := response
  obtain ⟨head?, held, trailers, isComplete, hasFailed⟩ := c
  cases isComplete <;> cases head? <;> simp [take, eq_comm]

theorem take_of_none (nothing : c.take.1 = none) : c.take.2 = c := by
  obtain ⟨head?, body, trailers, isComplete, hasFailed⟩ := c
  cases isComplete with
  | false => rfl
  | true =>
      cases head? with
      | none => rfl
      | some head => cases nothing

/-- Taking the response leaves neither head nor body behind. -/
theorem take_of_some {response : Response} (taken : c.take.1 = some response) :
    c.take.2 = { c with head := none, body := [] } := by
  obtain ⟨complete, head, -⟩ := take_eq_some_iff.mp taken
  rw [take, if_pos complete, head]

end Collector

/-- A collector, with the record of what was done with it. -/
structure CollectorRun where
  record : CollectorRecord
  collector : Collector

namespace CollectorRun

def use (run : CollectorRun) : CollectorUse → CollectorRun
  | .receive callback =>
    ⟨run.record ++ [.received callback], run.collector.receive callback⟩
  | .look => ⟨run.record ++ [.seen run.collector.sight], run.collector⟩
  | .take => ⟨run.record ++ [.taken run.collector.take.1], run.collector.take.2⟩

/-- A new collector behind these uses of it. -/
def ofUses (uses : List CollectorUse) : CollectorRun := uses.foldl use ⟨[], .empty⟩

/-- A collector holds what the record says. -/
structure Reflects (run : CollectorRun) : Prop where
  body : run.record.delivered ++ run.collector.body = run.record.arrived
  head : run.collector.head = run.record.latestHead
  complete : run.collector.isComplete = true ↔
    CollectorEvent.received .complete ∈ run.record

variable {run : CollectorRun}

theorem Reflects.receive (reflects : Reflects run) (callback : Callback) :
    Reflects (run.use (.receive callback)) := by
  obtain ⟨body, head, complete⟩ := reflects
  refine ⟨?_, ?_, ?_⟩
  · cases callback <;>
      simp [use, Collector.receive, CollectorEvent.data, CollectorEvent.handedOut, ← body]
  · rw [use, CollectorRecord.latestHead_concat rfl, ← head]
    cases callback <;> rfl
  · cases callback <;> simp [use, Collector.receive, complete]

theorem Reflects.look (reflects : Reflects run) : Reflects (run.use .look) where
  body := by
    rw [use, CollectorRecord.delivered_concat, CollectorRecord.arrived_concat]
    simpa [CollectorEvent.data, CollectorEvent.handedOut] using reflects.body
  head := by
    rw [use, CollectorRecord.latestHead_concat rfl]
    exact reflects.head
  complete := by simp [use, reflects.complete]

theorem Reflects.take (reflects : Reflects run) : Reflects (run.use .take) := by
  obtain ⟨body, head, complete⟩ := reflects
  cases taken : run.collector.take.1 with
  | none =>
      rw [use, taken, Collector.take_of_none taken]
      refine ⟨?_, ?_, ?_⟩
      · simpa [CollectorEvent.data, CollectorEvent.handedOut] using body
      · rw [CollectorRecord.latestHead_concat rfl]
        exact head
      · simp [complete]
  | some response =>
      obtain ⟨-, -, whole⟩ := Collector.take_eq_some_iff.mp taken
      rw [use, taken, Collector.take_of_some taken]
      refine ⟨?_, ?_, ?_⟩
      · simpa [CollectorEvent.data, CollectorEvent.handedOut, whole] using body
      · rw [CollectorRecord.latestHead_of_succeeds rfl]
      · simp [complete]

theorem Reflects.use (reflects : Reflects run) (next : CollectorUse) :
    Reflects (run.use next) := by
  cases next with
  | receive callback => exact reflects.receive callback
  | look => exact reflects.look
  | take => exact reflects.take

theorem ofUses_concat (before : List CollectorUse) (last : CollectorUse) :
    ofUses (before ++ [last]) = (ofUses before).use last := by
  simp [ofUses]

theorem ofUses_reflects (uses : List CollectorUse) : Reflects (ofUses uses) := by
  induction uses using List.reverseRecOn with
  | nil => exact ⟨rfl, rfl, by simp [ofUses, Collector.empty]⟩
  | append_singleton before last ih =>
      rw [ofUses_concat]
      exact ih.use last

theorem ofUses_record (uses : List CollectorUse) :
    (ofUses uses).record.map CollectorEvent.use = uses := by
  induction uses using List.reverseRecOn with
  | nil => rfl
  | append_singleton before last ih =>
      rw [ofUses_concat]
      cases last <;> simp [use, CollectorEvent.use, ih]

/-- Whatever is done with a collector and in whatever order, the bodies of the responses taken from
it and the body that it still holds are together the data that arrived, no byte lost and none
delivered twice. A response can be taken exactly if its end was announced and a head arrived since
one was last taken. It then has the latest such head and the body held, and an attempt that yields
nothing leaves the collector as it is. -/
theorem responses_carry_all_data (uses : List CollectorUse) :
    let run := ofUses uses
    run.record.map CollectorEvent.use = uses ∧
      run.record.delivered ++ run.collector.body = run.record.arrived ∧
      (∀ response, run.collector.take.1 = some response ↔
        CollectorEvent.received .complete ∈ run.record ∧
          run.record.latestHead = some response.head ∧ response.body = run.collector.body) ∧
      (run.collector.take.1 = none → run.collector.take.2 = run.collector) := by
  intro run
  have reflects : Reflects run := ofUses_reflects uses
  refine ⟨ofUses_record uses, reflects.body, ?_, ?_⟩
  · intro response
    rw [Collector.take_eq_some_iff, reflects.complete, reflects.head]
  · intro nothing
    exact Collector.take_of_none nothing

/-- What arrives after a response was taken waits for the next head. -/
example (head : ResponseHead) :
    let run := ofUses [.receive (.headers head), .receive (.data [1]), .take, .receive .complete,
      .take, .receive (.data [2]), .take]
    run.record.delivered = [1] ∧ run.collector.body = [2] ∧ run.collector.take.1 = none :=
  ⟨rfl, rfl, rfl⟩

end CollectorRun

end HttpExchange
