import HttpExchange.Bytes
import HttpExchange.Json.Token

/-!
Numbers as tokens: digits with no leading zero, then perhaps a fraction, then perhaps
an exponent. A number without the last two is an integer if 64 bits hold it.
-/

namespace HttpExchange.Json

def isDigit (b : UInt8) : Bool := 0x30 ≤ b && b ≤ 0x39

/-- The values of ASCII digits. -/
def digitValues (digits : Bytes) : List Nat := digits.map fun b => b.toNat - 0x30

/-- No exponent counts as larger than this. Its sign alone then settles whether a number
other than zero is too large, however many digits stand before it. -/
def exponentLimit : Nat := 2147483648

/-- The size of the exponent that ASCII digits write. -/
def exponentOf (digits : Bytes) : Nat :=
  (digitValues digits).foldl (fun n digit => min (n * 10 + digit) exponentLimit) 0

/-- A number that is no 64-bit integer. -/
def realNumber (isNegative : Bool) (d : Decimal) : Except Problem Number :=
  if d.isTooLarge then .error .malformed else .ok (.real isNegative d)

/-- A number without fraction and exponent. It is an integer if 64 bits hold it, with a sign
if it has one; minus zero is no integer. -/
def integerNumber (isNegative : Bool) (d : Decimal) : Except Problem Number :=
  if d.exponent ≠ 0 then realNumber isNegative d
  else if isNegative then
    if 0 < d.significand ∧ d.significand ≤ 9223372036854775808 then
      .ok (.negative (-d.significand))
    else realNumber true d
  else .ok (.natural d.significand)

/-- What a number that stops short of a digit is: cut off, or malformed. -/
def missingDigit (rest : Bytes) : Token × Nat :=
  (.broken false (if rest.isEmpty then .ended else .malformed) .malformed, 0)

/-- The exponent of a number, if there is one. `length` counts the bytes before it. -/
def exponentToken (isNegative : Bool) (whole fraction rest : Bytes) (length : Nat) :
    Token × Nat :=
  let gathered := Decimal.ofWhole (digitValues whole)
  let unscaled := gathered.takeFraction (digitValues fraction)
  let plain :=
    if fraction.isEmpty then integerNumber isNegative gathered
    else realNumber isNegative unscaled
  match rest with
  | e :: behind =>
    if e = 0x65 || e = 0x45 then
      let hasSign := behind.head? = some 0x2B || behind.head? = some 0x2D
      let body := if hasSign then behind.drop 1 else behind
      let digits := body.takeWhile isDigit
      if digits.isEmpty then missingDigit body
      else
        let size : Int := exponentOf digits
        let exponent := if behind.head? = some 0x2D then -size else size
        (.number (realNumber isNegative (unscaled.scale exponent)),
          length + 1 + (if hasSign then 1 else 0) + digits.length)
    else (.number plain, length)
  | [] => (.number plain, length)

/-- A number behind its sign, and how many bytes it takes. -/
def numberToken (isNegative : Bool) (bytes : Bytes) : Token × Nat :=
  let whole := bytes.takeWhile isDigit
  let rest := bytes.drop whole.length
  if whole.isEmpty then missingDigit bytes
  else if whole.head? = some 0x30 && whole.length != 1 then (.broken false .malformed .malformed, 0)
  else
    match rest with
    | point :: behind =>
      if point = 0x2E then
        let fraction := behind.takeWhile isDigit
        if fraction.isEmpty then missingDigit behind
        else
          exponentToken isNegative whole fraction (behind.drop fraction.length)
            (whole.length + 1 + fraction.length)
      else exponentToken isNegative whole [] rest whole.length
    | [] => exponentToken isNegative whole [] rest whole.length

end HttpExchange.Json
