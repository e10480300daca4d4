import HttpExchange.Bytes

/-!
Header fields. Names are compared without regard to ASCII case and kept in lower
case; a name may carry several values, whose order is kept.
-/

namespace HttpExchange

structure Headers where
  entries : List (String × Bytes)
  deriving DecidableEq, Repr

namespace Headers

def empty : Headers := ⟨[]⟩

/-- Adds a value behind those the name already has. -/
def append (h : Headers) (name : String) (value : Bytes) : Headers :=
  ⟨h.entries ++ [(name.toLower, value)]⟩

/-- Gives the name this one value in place of all it had. -/
def set (h : Headers) (name : String) (value : Bytes) : Headers :=
  ⟨h.entries.filter (fun entry => entry.1 != name.toLower) ++ [(name.toLower, value)]⟩

/-- All values of a name, in the order they were added. -/
def values (h : Headers) (name : String) : List Bytes :=
  (h.entries.filter (fun entry => entry.1 == name)).map Prod.snd

/-- The first value of a name. -/
def get? (h : Headers) (name : String) : Option Bytes := (h.values name).head?

/-- Files a value under its name in a list sorted by name. -/
def file (name : String) (value : Bytes) :
    List (String × List Bytes) → List (String × List Bytes)
  | [] => [(name, [value])]
  | (other, values) :: rest =>
    if name = other then (other, values ++ [value]) :: rest
    else if name < other then (name, [value]) :: (other, values) :: rest
    else (other, values) :: file name value rest

/-- The fields sorted by name, each with all its values. -/
def byName (h : Headers) : List (String × List Bytes) :=
  h.entries.foldl (fun fields entry => file entry.1 entry.2 fields) []

end Headers

end HttpExchange
