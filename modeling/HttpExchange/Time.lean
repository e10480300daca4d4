/-!
Spans of time and points on a clock, both counted in whole nanoseconds. A span
has one written form, used inside failure texts: the largest unit that leaves a
non-zero whole part, followed by the remaining digits with no trailing zero.

A clock reads only up to `Instant.limit`, so a deadline can fail to exist.
`Instant.after?` is the exact sum; `Instant.sleepUntil` is what a fresh timer
waits for, which is never longer than thirty years.
-/

namespace HttpExchange

/-- A span of time. -/
structure Duration where
  nanoseconds : Nat
  deriving DecidableEq, Repr

namespace Duration

def perSecond : Nat := 1000000000

def perMillisecond : Nat := 1000000

def perMicrosecond : Nat := 1000

def ofMilliseconds (n : Nat) : Duration := ⟨n * perMillisecond⟩

def ofSeconds (n : Nat) : Duration := ⟨n * perSecond⟩

def ofParts (seconds nanoseconds : Nat) : Duration :=
  ⟨seconds * perSecond + nanoseconds⟩

/-- The whole seconds of a span. -/
def seconds (d : Duration) : Nat := d.nanoseconds / perSecond

/-- What is left after the whole seconds, in nanoseconds. -/
def subsecond (d : Duration) : Nat := d.nanoseconds % perSecond

/-- The whole milliseconds of a span; a part of a millisecond is dropped. -/
def milliseconds (d : Duration) : Nat := d.nanoseconds / perMillisecond

def isZero (d : Duration) : Bool := d.nanoseconds == 0

/-- The digits behind the point of `part / 10 ^ width`, without trailing zeros. -/
def fraction (width part : Nat) : List Char :=
  ((Nat.toDigits 10 part).leftpad width '0').reverse.dropWhile (· == '0') |>.reverse

/-- A number of units with its fraction; no point is written before an empty fraction. -/
def decimal (whole width part : Nat) : String :=
  match fraction width part with
  | [] => toString whole
  | digits => toString whole ++ "." ++ String.ofList digits

/-- The written form of a span. -/
def text (d : Duration) : String :=
  let n := d.nanoseconds
  if perSecond ≤ n then decimal (n / perSecond) 9 (n % perSecond) ++ "s"
  else if perMillisecond ≤ n then decimal (n / perMillisecond) 6 (n % perMillisecond) ++ "ms"
  else if perMicrosecond ≤ n then decimal (n / perMicrosecond) 3 (n % perMicrosecond) ++ "µs"
  else toString n ++ "ns"

end Duration

/-- A point on the clock, counted from the clock's start. -/
structure Instant where
  nanoseconds : Nat
  deriving DecidableEq, Repr

namespace Instant

def start : Instant := ⟨0⟩

/-- The clock counts seconds in 63 bits; no instant lies at or beyond its last one. -/
def limit : Nat := 9223372036854775807 * Duration.perSecond

/-- The longest that a fresh timer waits. -/
def farAway : Duration := .ofSeconds (86400 * 365 * 30)

def advance (t : Instant) (d : Duration) : Instant := ⟨t.nanoseconds + d.nanoseconds⟩

/-- The instant `d` after `t`, if the clock can show it. -/
def after? (t : Instant) (d : Duration) : Option Instant :=
  let sum := t.advance d
  if sum.nanoseconds < limit then some sum else none

/-- The deadline of a timer started at `t` for a span of `d`. -/
def sleepUntil (t : Instant) (d : Duration) : Instant :=
  t.advance ⟨min d.nanoseconds farAway.nanoseconds⟩

/-- A deadline is due from the moment the clock shows it. -/
def isDue (deadline now : Instant) : Bool := deadline.nanoseconds ≤ now.nanoseconds

end Instant

end HttpExchange
