import HttpExchange.Failure.NetError
import HttpExchange.Time

/-!
Why a pool could not lease a connection. A lease error has a kind, a message and
possibly the error underneath; the texts of the latter, outermost first, are its
`sources`.
-/

namespace HttpExchange

/-- An error of a collaborator, known by its text and the texts of the errors
underneath it. -/
structure ForeignError where
  message : String
  causes : List String
  deriving DecidableEq, Repr

/-- The texts of an error and of all underneath it. -/
def ForeignError.texts (e : ForeignError) : List String := e.message :: e.causes

inductive LeaseErrorKind where
  | acquireTimeout
  | tooManyPending
  | timeout
  | illegalState
  | closed
  | connect
  | other
  deriving DecidableEq, Repr

def LeaseErrorKind.text : LeaseErrorKind → String
  | acquireTimeout => "acquire timeout"
  | tooManyPending => "too many pending acquires"
  | timeout => "timeout"
  | illegalState => "illegal state"
  | closed => "closed"
  | connect => "connect"
  | other => "other"

/-- What lies under a lease error. -/
inductive LeaseErrorSource where
  | net (error : NetError)
  | foreign (error : ForeignError)
  deriving DecidableEq, Repr

def LeaseErrorSource.texts : LeaseErrorSource → List String
  | net error => [error.text]
  | foreign error => error.texts

structure LeaseError where
  kind : LeaseErrorKind
  message : String
  source : Option LeaseErrorSource
  deriving DecidableEq, Repr

namespace LeaseError

def ofMessage (kind : LeaseErrorKind) (message : String) : LeaseError :=
  ⟨kind, message, none⟩

/-- No connection came free while the pool allowed the request to wait. -/
def acquireTimeout (waited : Duration) : LeaseError :=
  ofMessage .acquireTimeout
    ("Acquire operation took longer than " ++ toString waited.milliseconds ++ " milliseconds.")

/-- The pool would not let another request wait. -/
def tooManyPending (most : Nat) : LeaseError :=
  ofMessage .tooManyPending
    ("Too many outstanding acquire operations (max " ++ toString most ++ ")")

/-- A fresh connection could not be established. -/
def connect (error : NetError) : LeaseError :=
  ⟨.connect, "Failed to connect: " ++ error.text, some (.net error)⟩

/-- The same error with another source. -/
def withSource (e : LeaseError) (source : LeaseErrorSource) : LeaseError :=
  { e with source := some source }

def text (e : LeaseError) : String := e.message

def sources (e : LeaseError) : List String :=
  match e.source with
  | none => []
  | some source => source.texts

end LeaseError

end HttpExchange
