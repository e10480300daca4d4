import HttpExchange.Failure.Basic
import HttpExchange.StreamFrame

/-!
Response events from the frames of one stream. Frames of other streams are passed
over. Trailers always close the response, whatever their flag says; a response head
or data closes it only with the flag set. A reset and a request head end the
exchange with an error.
-/

namespace HttpExchange

structure StreamReader where
  stream : StreamId
  deriving DecidableEq, Repr

namespace StreamReader

/-- The end of the response, if the flag says so. -/
def closing (endStream : Bool) : List ResponseEvent := if endStream then [.finish] else []

/-- The events of a frame of the reader's own stream. -/
def ownEvents : StreamFrame → Except Failure (List ResponseEvent)
  | .headers _ (.response head) endStream => .ok (.head head :: closing endStream)
  | .headers _ (.trailers fields) _ => .ok [.trailers fields, .finish]
  | .headers _ (.request _) _ => .error (.net .http2ProtocolError)
  | .data _ [] endStream => .ok (closing endStream)
  | .data _ bytes endStream => .ok (.data bytes :: closing endStream)
  | .reset _ code => .error (.net (.ofStreamReset code))

def events (r : StreamReader) (frame : StreamFrame) : Except Failure (List ResponseEvent) :=
  if frame.stream = r.stream then ownEvents frame else .ok []

/-- Puts the events of a frame behind those already queued. A frame that fails leaves
the queue as it is. -/
def decode (r : StreamReader) (frame : StreamFrame) (queue : List ResponseEvent) :
    List ResponseEvent × Option Failure :=
  match r.events frame with
  | .ok events => (queue ++ events, none)
  | .error failure => (queue, some failure)

end StreamReader

end HttpExchange
