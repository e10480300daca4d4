import HttpExchange.Failure.LeaseError

/-!
A failure is what ended an execution, as it was observed. Lease errors and network
errors stand for themselves: such a failure has their text and their sources. All
other failures have a text of their own, over the text of what they carry.
-/

namespace HttpExchange

/-- The number of an execution, counted from one. -/
abbrev ExecutionId := Nat

inductive Failure where
  | lease (error : LeaseError)
  | writeIdle (period : Duration)
  | readIdle (period : Duration)
  | unknownProtocol (negotiated : String)
  | writeFailed (error : NetError)
  | net (error : NetError)
  | body (error : ForeignError)
  | cancelled (execution : ExecutionId)
  | abandoned
  deriving DecidableEq, Repr

namespace Failure

def text : Failure → String
  | lease error => error.text
  | writeIdle period => "write made no progress for " ++ period.text
  | readIdle period => "no response data read for " ++ period.text
  | unknownProtocol negotiated => "Unknown protocol: " ++ negotiated
  | writeFailed error => "write failed: " ++ error.text
  | net error => error.text
  | body error => "request body producer failed: " ++ error.message
  | cancelled execution => "execution " ++ toString execution ++ " was cancelled"
  | abandoned => "execution ended without a result"

/-- The texts of the errors under a failure, outermost first. -/
def sources : Failure → List String
  | lease error => error.sources
  | writeFailed error => [error.text]
  | body error => error.texts
  | _ => []

/-- The text of a failure followed by those of its sources. -/
def chain (f : Failure) : List String := f.text :: f.sources

end Failure

end HttpExchange
