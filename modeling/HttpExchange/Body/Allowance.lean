import HttpExchange.Bytes

/-!
The accounting of one body against its declared length. Chunks are admitted up to
the declared length and cut there. The account closes with the chunk that reaches
the length, with an error or with completion, whichever comes first; from then on
nothing is admitted and nothing changes.
-/

namespace HttpExchange

structure Allowance where
  declared : Option Nat
  written : Nat
  done : Bool
  deriving DecidableEq, Repr

/-- A chunk that may be sent, and whether it is the one that reaches the length. -/
structure Admission where
  chunk : Bytes
  reached : Bool
  deriving DecidableEq, Repr

namespace Allowance

def ofDeclared (declared : Option Nat) : Allowance := ⟨declared, 0, false⟩

/-- What may still be written, if a length was declared. -/
def remaining (a : Allowance) : Option Nat := a.declared.map (· - a.written)

/-- The part of a chunk that the declared length leaves room for. -/
def cut (a : Allowance) (chunk : Bytes) : Bytes :=
  match a.remaining with
  | none => chunk
  | some n => chunk.take n

/-- Whether a total of `written` bytes reaches the declared length. -/
def reaches (a : Allowance) (written : Nat) : Bool := a.declared.any (· ≤ written)

def accept (a : Allowance) (chunk : Bytes) : Option Admission × Allowance :=
  if a.done then (none, a)
  else
    let chunk := a.cut chunk
    let written := a.written + chunk.length
    let reached := a.reaches written
    (some ⟨chunk, reached⟩, { a with written := written, done := reached })

/-- Closes the account; answers whether it was open. -/
def close (a : Allowance) : Bool × Allowance := (!a.done, { a with done := true })

end Allowance

end HttpExchange
