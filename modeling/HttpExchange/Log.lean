/-!
Log lines. Only what an operator acts upon is logged here: errors and warnings.
-/

namespace HttpExchange

inductive LogLevel where
  | error
  | warn
  deriving DecidableEq, Repr

structure LogLine where
  level : LogLevel
  message : String
  deriving DecidableEq, Repr

end HttpExchange
