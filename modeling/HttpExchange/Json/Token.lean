import HttpExchange.Json.Decimal

/-!
The tokens of a JSON text and what can be wrong with it. A text is split into tokens
as far as it can be; the last token may be a broken one.

A token can be of good shape and still have no value: a string with a lone surrogate,
or a number too large for a double. This matters only where the value is read, and
not where it is passed over.
-/

namespace HttpExchange.Json

/-- What is wrong with a text: it ends too early, it is not JSON, or it is JSON of the
wrong shape. -/
inductive Problem where
  | ended
  | malformed
  | mismatched
  deriving DecidableEq, Repr

/-- A number: an integer within 64 bits, or a sign and a size. -/
inductive Number where
  | natural (n : Nat)
  | negative (n : Int)
  | real (isNegative : Bool) (size : Decimal)
  deriving DecidableEq, Repr

inductive Word where
  | null
  | false
  | true
  deriving DecidableEq, Repr

inductive Mark where
  | openArray
  | closeArray
  | openObject
  | closeObject
  | comma
  | colon
  deriving DecidableEq, Repr

/-- `broken` is a token that ends the text: whether it began as a string, the problem met
when it is read, and the problem met when it is passed over. -/
inductive Token where
  | mark (mark : Mark)
  | word (word : Word)
  | text (value : Except Problem String)
  | number (value : Except Problem Number)
  | broken (isText : Bool) (read skip : Problem)

def Token.isBroken : Token → Bool
  | .broken _ _ _ => Bool.true
  | _ => Bool.false

end HttpExchange.Json
