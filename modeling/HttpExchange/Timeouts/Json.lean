import HttpExchange.Json.Lexer
import HttpExchange.Json.Skip
import HttpExchange.Timeouts

/-!
The JSON form of timeouts, in whole milliseconds. A span too long for 64 bits is
written as the longest that fits.

Reading takes an object with the two fields in any order, or an array of them in the
order they are written in. What is left out keeps its standard value, fields of other
names are passed over, and a field given twice does not fit. The first problem met from
left to right is reported.
-/

namespace HttpExchange.Timeouts

open Json

/-- The largest number that is written, the last of 64 bits. -/
def mostMilliseconds : Nat := 18446744073709551615

/-- The milliseconds that are written for a span. -/
def writtenMilliseconds (d : Duration) : Nat := min d.milliseconds mostMilliseconds

def writeKey : String := "write_timeout_ms"

def readKey : String := "read_timeout_ms"

def toJson (t : Timeouts) : String :=
  "\x7b\"" ++ writeKey ++ "\":" ++ toString (writtenMilliseconds t.write) ++
    ",\"" ++ readKey ++ "\":" ++ toString (writtenMilliseconds t.read) ++ "\x7d"

/-- Why a token is no value of the expected kind. -/
def mismatch : Token → Problem
  | .mark .openArray | .mark .openObject | .word _ => .mismatched
  | .mark _ => .malformed
  | .text (.ok _) | .number (.ok _) => .mismatched
  | .text (.error problem) | .number (.error problem) => problem
  | .broken _ read _ => read

/-- A span in whole milliseconds. -/
def readSpan : Token → Except Problem Duration
  | .number (.ok (.natural n)) => .ok (.ofMilliseconds n)
  | token => .error (mismatch token)

/-- Nothing may stand behind the value. -/
def finishText (t : Timeouts) : List Token → Except Problem Timeouts
  | [] => .ok t
  | _ :: _ => .error .malformed

/-- The fields read so far. -/
structure Fields where
  write : Option Duration
  read : Option Duration

def Fields.complete (f : Fields) : Timeouts :=
  ⟨f.write.getD standard.write, f.read.getD standard.read⟩

inductive Key where
  | write
  | read
  | other
  deriving DecidableEq, Repr

def Key.ofText (text : String) : Key :=
  if text = writeKey then .write else if text = readKey then .read else .other

/-- Whether a field of this key was read before. -/
def Fields.has (f : Fields) : Key → Bool
  | .write => f.write.isSome
  | .read => f.read.isSome
  | .other => false

def Fields.put (f : Fields) (span : Duration) : Key → Fields
  | .write => { f with write := some span }
  | .read => { f with read := some span }
  | .other => f

/-- The field that a token names. -/
def readKeyToken (f : Fields) : Token → Except Problem Key
  | .text (.ok text) =>
    let key := Key.ofText text
    if f.has key then .error .mismatched else .ok key
  | .text (.error problem) => .error problem
  | .broken true read _ => .error read
  | _ => .error .malformed

/-- The value of a field, which leaves the fields and the tokens behind it. -/
def readFieldValue (f : Fields) (key : Key) (tokens : List Token) :
    Except Problem (Fields × List Token) :=
  match key with
  | .other => (skipValue tokens [] .value).map fun rest => (f, rest)
  | _ =>
    match tokens with
    | [] => .error .ended
    | token :: rest => (readSpan token).map fun span => (f.put span key, rest)

theorem readFieldValue_length {f f' : Fields} {key : Key} {tokens rest : List Token}
    (h : readFieldValue f key tokens = .ok (f', rest)) : rest.length ≤ tokens.length := by
  unfold readFieldValue at h
  split at h
  · cases skipped : skipValue tokens [] .value with
    | error problem => simp [skipped, Except.map] at h
    | ok tail =>
      simp only [skipped, Except.map, Except.ok.injEq, Prod.mk.injEq] at h
      exact h.2 ▸ skipValue_length skipped
  · split at h
    · cases h
    · rename_i token tail
      cases read : readSpan token with
      | error problem => simp [read, Except.map] at h
      | ok span =>
        simp only [read, Except.map, Except.ok.injEq, Prod.mk.injEq] at h
        simp [← h.2]

/-- Reads the fields of an object from a key on. -/
def readFields (f : Fields) : List Token → Except Problem Timeouts
  | [] => .error .ended
  | token :: rest =>
    match readKeyToken f token with
    | .error problem => .error problem
    | .ok key =>
      match rest with
      | [] => .error .ended
      | .mark .colon :: rest =>
        match _ : readFieldValue f key rest with
        | .error problem => .error problem
        | .ok (_, []) => .error .ended
        | .ok (f, .mark .comma :: rest) => readFields f rest
        | .ok (f, .mark .closeObject :: rest) => finishText f.complete rest
        | .ok (_, _ :: _) => .error .malformed
      | _ :: _ => .error .malformed
  termination_by tokens => tokens.length
  decreasing_by
    have shorter := readFieldValue_length ‹_›
    simp only [List.length_cons] at shorter ⊢
    omega

/-- Reads an object behind its opening brace. -/
def readObject : List Token → Except Problem Timeouts
  | .mark .closeObject :: rest => finishText standard rest
  | tokens => readFields ⟨none, none⟩ tokens

/-- Expects the end of an array. -/
def finishArray (t : Timeouts) : List Token → Except Problem Timeouts
  | [] => .error .ended
  | .mark .closeArray :: rest => finishText t rest
  | _ :: _ => .error .malformed

/-- Reads the second item of an array. -/
def readSecondItem (write : Duration) : List Token → Except Problem Timeouts
  | [] => .error .ended
  | .mark .closeArray :: rest => finishText ⟨write, standard.read⟩ rest
  | .mark .comma :: [] => .error .ended
  | .mark .comma :: .mark .closeArray :: _ => .error .malformed
  | .mark .comma :: token :: rest =>
    match readSpan token with
    | .ok read => finishArray ⟨write, read⟩ rest
    | .error problem => .error problem
  | _ :: _ => .error .malformed

/-- Reads an array behind its opening bracket. -/
def readArray : List Token → Except Problem Timeouts
  | [] => .error .ended
  | .mark .closeArray :: rest => finishText standard rest
  | token :: rest =>
    match readSpan token with
    | .ok write => readSecondItem write rest
    | .error problem => .error problem

def ofTokens : List Token → Except Problem Timeouts
  | [] => .error .ended
  | .mark .openObject :: rest => readObject rest
  | .mark .openArray :: rest => readArray rest
  | token :: _ => .error (mismatch token)

def ofJson (text : String) : Except Problem Timeouts := ofTokens (tokens (Bytes.ofText text))

end HttpExchange.Timeouts
