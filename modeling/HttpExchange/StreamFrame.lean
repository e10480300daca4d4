import HttpExchange.Message

/-!
What a connection carries. A multiplexed connection carries stream frames, each
naming its stream; a single-stream connection carries the frames of
`HttpExchange.Message` as they are.
-/

namespace HttpExchange

/-- The identifier of a stream on a multiplexed connection. -/
structure StreamId where
  value : UInt32
  deriving DecidableEq, Repr

inductive HeaderBlock where
  | request (head : RequestHead)
  | response (head : ResponseHead)
  | trailers (fields : Headers)
  deriving DecidableEq, Repr

inductive StreamFrame where
  | headers (stream : StreamId) (block : HeaderBlock) (endStream : Bool)
  | data (stream : StreamId) (bytes : Bytes) (endStream : Bool)
  | reset (stream : StreamId) (code : UInt32)
  deriving DecidableEq, Repr

namespace StreamFrame

def stream : StreamFrame → StreamId
  | headers stream _ _ => stream
  | data stream _ _ => stream
  | reset stream _ => stream

/-- Whether the frame closes its stream in the sender's direction. -/
def endsStream : StreamFrame → Bool
  | headers _ _ endStream => endStream
  | data _ _ endStream => endStream
  | reset _ _ => false

end StreamFrame

/-- A frame written to a connection. -/
inductive Outbound where
  | single (frame : RequestFrame)
  | multiplexed (frame : StreamFrame)
  deriving DecidableEq, Repr

/-- A frame read from a connection. -/
inductive Inbound where
  | single (event : ResponseEvent)
  | multiplexed (frame : StreamFrame)
  deriving DecidableEq, Repr

end HttpExchange
