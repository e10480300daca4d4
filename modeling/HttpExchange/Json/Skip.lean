import HttpExchange.Json.Token

/-!
Passing over a value whose content does not matter. Its tokens must be of good shape
and in an order that makes a value; how deep it nests does not matter.
-/

namespace HttpExchange.Json

/-- What a passed-over value is still enclosed in. -/
inductive Enclosure where
  | array
  | object
  deriving DecidableEq, Repr

inductive SkipState where
  | value
  | firstItem
  | firstKey
  | key
  | colon
  | after
  deriving DecidableEq, Repr

/-- One token where a passed-over value may begin. -/
def skipStart (token : Token) (stack : List Enclosure) :
    Except Problem (List Enclosure × SkipState) :=
  match token with
  | .mark .openArray => .ok (.array :: stack, .firstItem)
  | .mark .openObject => .ok (.object :: stack, .firstKey)
  | .mark _ => .error .malformed
  | .broken _ _ skip => .error skip
  | _ => .ok (stack, .after)

/-- One token where a passed-over key may stand. -/
def skipKey (token : Token) (stack : List Enclosure) :
    Except Problem (List Enclosure × SkipState) :=
  match token with
  | .text _ => .ok (stack, .colon)
  | .broken true _ skip => .error skip
  | _ => .error .malformed

/-- One token of a passed-over value. -/
def skipToken (token : Token) (stack : List Enclosure) :
    SkipState → Except Problem (List Enclosure × SkipState)
  | .value => skipStart token stack
  | .firstItem =>
    match token with
    | .mark .closeArray => .ok (stack.tail, .after)
    | _ => skipStart token stack
  | .firstKey =>
    match token with
    | .mark .closeObject => .ok (stack.tail, .after)
    | _ => skipKey token stack
  | .key => skipKey token stack
  | .colon =>
    match token with
    | .mark .colon => .ok (stack, .value)
    | _ => .error .malformed
  | .after =>
    match stack, token with
    | .array :: _, .mark .comma => .ok (stack, .value)
    | .array :: outer, .mark .closeArray => .ok (outer, .after)
    | .object :: _, .mark .comma => .ok (stack, .key)
    | .object :: outer, .mark .closeObject => .ok (outer, .after)
    | _, _ => .error .malformed

/-- The tokens behind a value that is passed over. -/
def skipValue : List Token → List Enclosure → SkipState → Except Problem (List Token)
  | tokens, [], .after => .ok tokens
  | [], _, _ => .error .ended
  | token :: rest, stack, state =>
    match skipToken token stack state with
    | .ok (stack, state) => skipValue rest stack state
    | .error problem => .error problem

theorem skipValue_length {tokens rest : List Token} {stack : List Enclosure}
    {state : SkipState} (h : skipValue tokens stack state = .ok rest) :
    rest.length ≤ tokens.length := by
  fun_induction skipValue tokens stack state with
  | case1 tokens => cases h; exact Nat.le_refl _
  | case2 stack state notDone => cases h
  | case3 token tail stack state notDone stack' state' skipped ih =>
    exact Nat.le_succ_of_le (ih h)
  | case4 token tail stack state notDone problem skipped => cases h

end HttpExchange.Json
