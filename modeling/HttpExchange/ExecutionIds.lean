import HttpExchange.Failure.Basic

/-!
The source of execution numbers. The first number is one, and every number is one
more than that before it.
-/

namespace HttpExchange

structure ExecutionIds where
  issued : Nat
  deriving DecidableEq, Repr

namespace ExecutionIds

def fresh : ExecutionIds := ⟨0⟩

def next (ids : ExecutionIds) : ExecutionId × ExecutionIds :=
  (ids.issued + 1, ⟨ids.issued + 1⟩)

/-- The next `count` numbers in order. -/
def take (ids : ExecutionIds) : Nat → List ExecutionId
  | 0 => []
  | count + 1 => ids.next.1 :: ids.next.2.take count

end ExecutionIds

end HttpExchange
