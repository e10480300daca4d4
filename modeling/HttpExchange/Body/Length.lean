import HttpExchange.Headers
import HttpExchange.Log

/-!
The length a request declares for its body. It is the first `content-length` value,
read as an unsigned 64-bit decimal number with an optional plus sign and blanks
around it. A value that cannot be read counts as none, with a warning.
-/

namespace HttpExchange

namespace Bytes

/-- One more than the largest length. -/
def lengthLimit : Nat := 18446744073709551616

/-- The number that a list of digits writes, continued from `prior`, if it fits in 64 bits.
A number that has grown too large stays so, whatever follows. -/
def decimal? (prior : Nat) : Bytes → Option Nat
  | [] => some prior
  | b :: rest =>
    match digit? b with
    | some d => if prior * 10 + d < lengthLimit then decimal? (prior * 10 + d) rest else none
    | none => none

/-- The number of a non-empty list of digits. -/
def number? (bytes : Bytes) : Option Nat :=
  if bytes.isEmpty then none else decimal? 0 bytes

/-- A number with an optional plus sign. -/
def signedNumber? : Bytes → Option Nat
  | [] => none
  | b :: rest => if b == 0x2B then number? rest else number? (b :: rest)

/-- A header value read as a length. -/
def length? (value : Bytes) : Option Nat :=
  if value.all isTextual then signedNumber? value.trim else none

theorem decimal?_lt {prior n : Nat} {bytes : Bytes} (small : prior < lengthLimit)
    (read : decimal? prior bytes = some n) : n < lengthLimit := by
  fun_induction decimal? prior bytes with
  | case1 => exact Option.some.inj read ▸ small
  | case2 _ _ _ _ _ fits ih => exact ih fits read
  | case3 | case4 => cases read

theorem number?_lt {n : Nat} {bytes : Bytes} (read : number? bytes = some n) :
    n < lengthLimit := by
  unfold number? at read
  split at read
  · cases read
  · exact decimal?_lt (by decide) read

theorem signedNumber?_lt {n : Nat} {bytes : Bytes} (read : signedNumber? bytes = some n) :
    n < lengthLimit := by
  unfold signedNumber? at read
  split at read
  · cases read
  · split at read <;> exact number?_lt read

/-- A length that could be read fits in 64 bits. -/
theorem length?_lt {n : Nat} {value : Bytes} (read : value.length? = some n) :
    n < lengthLimit := by
  unfold length? at read
  split at read
  · exact signedNumber?_lt read
  · cases read

end Bytes

def unreadableLength : LogLine :=
  ⟨.warn, "Unable to parse 'Content-Length' header. Treating it as non existent."⟩

/-- The declared length of a body and what reading it logged. -/
def Headers.declaredLength (h : Headers) : Option Nat × List LogLine :=
  match h.get? "content-length" with
  | none => (none, [])
  | some value =>
    match value.length? with
    | some n => (some n, [])
    | none => (none, [unreadableLength])

theorem Headers.declaredLength_lt {h : Headers} {n : Nat}
    (declared : h.declaredLength.1 = some n) : n < Bytes.lengthLimit := by
  unfold declaredLength at declared
  split at declared
  · cases declared
  · split at declared
    · cases declared
      exact Bytes.length?_lt ‹_›
    · cases declared

end HttpExchange
