import HttpExchange.Json.Lexer

/-!
JSON values, and reading one from a text. A text holds exactly one value. Arrays and
objects nest less than `maxDepth` deep. When an object repeats a key the last value
counts.

The reader goes through the tokens once, keeping the arrays and objects that are still
open on a stack. They hold what was read so far, newest first, and are put in order when
they are closed: an array in the order of the text, an object in the order of its keys.
-/

namespace HttpExchange.Json

inductive Value where
  | null
  | bool (value : Bool)
  | number (value : Number)
  | text (value : String)
  | array (items : List Value)
  | object (fields : List (String × Value))

abbrev Field := String × Value

/-- Puts a field in front of others, in place of the first of them if that has its key. -/
def supersede (field : Field) : List Field → List Field
  | [] => [field]
  | next :: rest => if field.1 = next.1 then field :: rest else field :: next :: rest

/-- The array that holds these items, given newest first. -/
def arrayOfNewest (items : List Value) : Value := .array items.reverse

/-- The object that holds these fields, given newest first. Sorting keeps fields of one key
in that order, and of these the first supersedes the others. -/
def objectOfNewest (fields : List Field) : Value :=
  .object ((fields.mergeSort fun a b => decide (a.1 ≤ b.1)).foldr supersede [])

/-- An array or object that is still open, with what it holds so far, newest first; an
object knows the key whose value is being read. -/
inductive Frame where
  | array (items : List Value)
  | object (fields : List Field) (key : String)

/-- What the reader expects next. -/
inductive Expect where
  | value
  | firstItem
  | firstKey
  | key (fields : List Field)
  | colon (fields : List Field) (key : String)
  | after (value : Value)

def maxDepth : Nat := 128

/-- What a value token stands for, as far as it is one. -/
def scalar? : Token → Except Problem (Option Value)
  | .word .null => .ok (some .null)
  | .word .false => .ok (some (.bool Bool.false))
  | .word .true => .ok (some (.bool Bool.true))
  | .text (.ok value) => .ok (some (.text value))
  | .text (.error problem) => .error problem
  | .number (.ok value) => .ok (some (.number value))
  | .number (.error problem) => .error problem
  | .broken _ read _ => .error read
  | .mark _ => .ok none

/-- The key that a token stands for. -/
def keyOf : Token → Except Problem String
  | .text value => value
  | .broken Bool.true read _ => .error read
  | _ => .error .malformed

/-- One token where a value may begin. -/
def startValue (token : Token) (stack : List Frame) : Except Problem (List Frame × Expect) :=
  match token with
  | .mark .openArray =>
    if maxDepth ≤ stack.length + 1 then .error .malformed
    else .ok (.array [] :: stack, .firstItem)
  | .mark .openObject =>
    if maxDepth ≤ stack.length + 1 then .error .malformed
    else .ok (.object [] "" :: stack, .firstKey)
  | _ =>
    match scalar? token with
    | .ok (some value) => .ok (stack, .after value)
    | .ok none => .error .malformed
    | .error problem => .error problem

/-- One token behind a complete value. -/
def afterValue (token : Token) (value : Value) :
    List Frame → Except Problem (List Frame × Expect)
  | .array items :: stack =>
    match token with
    | .mark .comma => .ok (.array (value :: items) :: stack, .value)
    | .mark .closeArray => .ok (stack, .after (arrayOfNewest (value :: items)))
    | _ => .error .malformed
  | .object fields key :: stack =>
    match token with
    | .mark .comma => .ok (stack, .key ((key, value) :: fields))
    | .mark .closeObject => .ok (stack, .after (objectOfNewest ((key, value) :: fields)))
    | _ => .error .malformed
  | [] => .error .malformed

/-- One token, whatever is expected. -/
def advance (token : Token) (stack : List Frame) :
    Expect → Except Problem (List Frame × Expect)
  | .value => startValue token stack
  | .firstItem =>
    match token, stack with
    | .mark .closeArray, .array items :: stack => .ok (stack, .after (arrayOfNewest items))
    | _, _ => startValue token stack
  | .firstKey =>
    match token, stack with
    | .mark .closeObject, .object fields _ :: stack => .ok (stack, .after (objectOfNewest fields))
    | _, .object fields _ :: stack => (keyOf token).map fun key => (stack, .colon fields key)
    | _, _ => .error .malformed
  | .key fields => (keyOf token).map fun key => (stack, .colon fields key)
  | .colon fields key =>
    match token with
    | .mark .colon => .ok (.object fields key :: stack, .value)
    | _ => .error .malformed
  | .after value => afterValue token value stack

/-- Reads the tokens that are left. -/
def readTokens : List Token → List Frame → Expect → Except Problem Value
  | [], [], .after value => .ok value
  | [], _, _ => .error .ended
  | token :: rest, stack, expect =>
    match advance token stack expect with
    | .ok (stack, expect) => readTokens rest stack expect
    | .error problem => .error problem

/-- Reads the one value of a text. -/
def read (bytes : Bytes) : Except Problem Value := readTokens (tokens bytes) [] .value

end HttpExchange.Json
