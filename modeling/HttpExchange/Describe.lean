import HttpExchange.Connection
import HttpExchange.Task.Execution
import HttpExchange.Text.Quoted

/-!
Descriptions of values for people who debug: the name of a record and its fields in
braces, where two dots stand for fields that are not shown.
-/

namespace HttpExchange

/-- A record with its fields in order. -/
def describeRecord (name : String) (fields : List (String × String)) (isComplete : Bool) :
    String :=
  let shown := fields.map fun (field, value) => field ++ ": " ++ value
  let shown := if isComplete then shown else shown ++ [".."]
  name ++ " \x7b " ++ String.intercalate ", " shown ++ " \x7d"

def describeBool (b : Bool) : String := if b then "true" else "false"

def ConnectionId.describe (id : ConnectionId) : String :=
  "ConnectionId(" ++ toString id.value ++ ")"

def Connection.describe {σ : Type} (c : Connection σ) : String :=
  describeRecord "Connection"
    [("id", c.id.describe), ("protocol", Quoted.render c.negotiated),
      ("open", describeBool c.isOpen)] true

def Timeouts.describe (t : Timeouts) : String :=
  describeRecord "ClientConfig"
    [("write_timeout", t.write.text), ("read_timeout", t.read.text)] true

def Request.describe (r : Request) : String :=
  describeRecord "ExecuteRequest"
    [("method", r.head.method), ("uri", r.head.uri),
      ("full_duplex", describeBool r.isFullDuplex)] true

/-- A request together with the timeouts of its execution. -/
def Request.describeWith (r : Request) (t : Timeouts) : String :=
  describeRecord "ExecutionContext" [("request", r.describe), ("config", t.describe)] false

end HttpExchange
