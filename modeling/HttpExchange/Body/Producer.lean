import HttpExchange.Failure.LeaseError
import HttpExchange.Headers

/-!
A body producer is a queue of items that is taken from one poll at a time. While it
is open, more items may still come, and an empty queue only means that nothing is
there yet. A `pending` item is one poll that finds nothing although the queue goes
on. An error does not end the queue by itself.
-/

namespace HttpExchange

inductive BodyItem where
  | data (bytes : Bytes)
  | trailers (fields : Headers)
  | failed (error : ForeignError)
  | pending
  deriving DecidableEq, Repr

/-- What a body answers to a poll. -/
inductive BodyAnswer where
  | pending
  | data (bytes : Bytes)
  | trailers (fields : Headers)
  | failed (error : ForeignError)
  | finished
  deriving DecidableEq, Repr

/-- Bounds on the bytes still to come. -/
structure SizeHint where
  lower : Nat
  upper : Option Nat
  deriving DecidableEq, Repr

def SizeHint.exactly (n : Nat) : SizeHint := ⟨n, some n⟩

/-- What a producer says about its size: always the same, or the exact bytes unread. -/
inductive SizeRule where
  | fixed (hint : SizeHint)
  | unread
  deriving DecidableEq, Repr

structure Producer where
  items : List BodyItem
  isOpen : Bool
  sizeRule : SizeRule
  deriving DecidableEq, Repr

namespace BodyItem

def answer : BodyItem → BodyAnswer
  | data bytes => .data bytes
  | trailers fields => .trailers fields
  | failed error => .failed error
  | pending => .pending

/-- The content bytes of an item. -/
def bytes : BodyItem → Bytes
  | data bytes => bytes
  | _ => []

end BodyItem

namespace Producer

/-- A producer of exactly these items that says nothing about its size. -/
def ofItems (items : List BodyItem) : Producer := ⟨items, false, .fixed ⟨0, none⟩⟩

def poll (p : Producer) : BodyAnswer × Producer :=
  match p.items with
  | [] => (if p.isOpen then .pending else .finished, p)
  | item :: rest => (item.answer, { p with items := rest })

/-- Adds items behind those that are left. -/
def feed (p : Producer) (items : List BodyItem) : Producer :=
  { p with items := p.items ++ items }

def close (p : Producer) : Producer := { p with isOpen := false }

def unreadBytes (p : Producer) : Bytes := p.items.flatMap BodyItem.bytes

def sizeHint (p : Producer) : SizeHint :=
  match p.sizeRule with
  | .fixed hint => hint
  | .unread => .exactly p.unreadBytes.length

/-- Whether the next poll finds the end. -/
def isFinished (p : Producer) : Bool := p.items.isEmpty && !p.isOpen

theorem poll_shorter {p : Producer} (h : p.items ≠ []) :
    p.poll.2.items.length < p.items.length := by
  unfold poll
  split <;> simp_all

/-- Only a queue that holds an item answers with more than "nothing yet" or the end. -/
theorem items_ne_nil_of_poll {p : Producer} (busy : p.poll.1 ≠ .pending)
    (going : p.poll.1 ≠ .finished) : p.items ≠ [] := by
  intro empty
  cases isOpen : p.isOpen <;> simp_all [poll]

end Producer

end HttpExchange
