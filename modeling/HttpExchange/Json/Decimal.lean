/-!
Decimal digits gathered into a 64-bit significand and a power of ten, and whether the
result is within the range of a double.

Digits before the point are gathered first. One that no longer fits is dropped, and so
are the whole digits behind it, each of which raises the exponent by one. Digits behind
the point are then gathered in the same way, each lowering the exponent by one, up to
the first that does not fit; it and all behind it do not count.

The size of a number is the product of two doubles, the one nearest to the significand
and the one nearest to the power of ten, so a number just below the bound of the doubles
can come out too large.
-/

namespace HttpExchange.Json

/-- `significand` times a power of ten. -/
structure Decimal where
  significand : Nat
  exponent : Int
  deriving DecidableEq, Repr

namespace Decimal

def zero : Decimal := ⟨0, 0⟩

/-- One more than the largest significand. -/
def significandLimit : Nat := 18446744073709551616

/-- The significand with one more digit, if 64 bits hold it. -/
def append? (significand digit : Nat) : Option Nat :=
  let next := significand * 10 + digit
  if next < significandLimit then some next else none

/-- Takes a digit before the point. The exponent is above zero once a digit was dropped. -/
def takeWhole (d : Decimal) (digit : Nat) : Decimal :=
  if d.exponent = 0 then
    match append? d.significand digit with
    | some significand => { d with significand := significand }
    | none => { d with exponent := 1 }
  else { d with exponent := d.exponent + 1 }

def ofWhole (digits : List Nat) : Decimal := digits.foldl takeWhole zero

/-- Takes the digits behind the point. -/
def takeFraction (d : Decimal) : List Nat → Decimal
  | [] => d
  | digit :: rest =>
    match append? d.significand digit with
    | some significand => takeFraction ⟨significand, d.exponent - 1⟩ rest
    | none => d

def scale (d : Decimal) (exponent : Int) : Decimal :=
  { d with exponent := d.exponent + exponent }

/-- The nearest number of at most 53 significant bits. Of two that are as near, it is the
one whose last bit is zero. -/
def nearestDouble (n : Nat) : Nat :=
  let unit := Nat.pow 2 (n.log2 - 52)
  let below := n / unit
  let rest := 2 * (n % unit)
  if rest < unit || (rest = unit && below % 2 = 0) then below * unit else (below + 1) * unit

/-- The least number that is too large for a double: half a step above the largest one. -/
def doubleBound : Nat := Nat.pow 2 1024 - Nat.pow 2 970

/-- The largest power of ten that is a double. -/
def largestPower : Int := 308

/-- Whether the number is too large for a double. -/
def isTooLarge (d : Decimal) : Bool :=
  if d.significand = 0 || d.exponent < 0 then false
  else
    largestPower < d.exponent ||
      doubleBound ≤
        nearestDouble d.significand * nearestDouble (Nat.pow 10 d.exponent.toNat)

end Decimal

end HttpExchange.Json
