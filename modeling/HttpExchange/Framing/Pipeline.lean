import HttpExchange.Connection
import HttpExchange.Framing.StreamReader
import HttpExchange.Framing.StreamWriter

/-!
The framing of one exchange, chosen from the protocol that the connection negotiated.
A single-stream connection carries the exchange's frames as they are. A multiplexed
one gets a stream for the exchange, with a writer and a reader for it. On any other
protocol no pipeline can be configured, and the connection is left as it was.
-/

namespace HttpExchange

inductive Protocol where
  | http11
  | http2
  deriving DecidableEq, Repr

namespace Protocol

def text : Protocol → String
  | http11 => "http/1.1"
  | http2 => "h2"

def ofNegotiated? (negotiated : String) : Option Protocol :=
  if negotiated = http11.text then some .http11
  else if negotiated = http2.text then some .http2
  else none

def isMultiplexed : Protocol → Bool
  | http11 => false
  | http2 => true

end Protocol

/-- The parts a pipeline is put together from. -/
inductive PipelineStage where
  | streamReader
  | streamWriter
  | requestFrames
  | responseEvents
  deriving DecidableEq, Repr

inductive Pipeline where
  | single
  | multiplexed (writer : StreamWriter) (reader : StreamReader)
  deriving DecidableEq, Repr

namespace Pipeline

variable {σ : Type}

def ofStream (stream : StreamId) : Pipeline := .multiplexed (.ofStream stream) ⟨stream⟩

def protocol : Pipeline → Protocol
  | single => .http11
  | multiplexed _ _ => .http2

/-- The stages of a pipeline, in the order in which they were put in place. -/
def stages : Pipeline → List PipelineStage
  | single => [.requestFrames, .responseEvents]
  | multiplexed _ _ => [.streamReader, .streamWriter, .requestFrames, .responseEvents]

/-- The stream of the exchange, on a multiplexed connection. -/
def stream? : Pipeline → Option StreamId
  | single => none
  | multiplexed writer _ => some writer.stream

def configure (c : Connection σ) : Except Failure Pipeline × Connection σ :=
  match Protocol.ofNegotiated? c.negotiated with
  | none => (.error (.unknownProtocol c.negotiated), c)
  | some .http11 => (.ok .single, c)
  | some .http2 =>
    let allocated := c.allocateStream
    (.ok (ofStream allocated.1), allocated.2)

/-- A request frame as the connection carries it, or none if nothing needs to be
written for it. -/
def encode (p : Pipeline) (frame : RequestFrame) : Option Outbound × Pipeline :=
  match p with
  | single => (some (.single frame), .single)
  | multiplexed writer reader =>
    let encoded := writer.encode frame
    (encoded.1.map .multiplexed, .multiplexed encoded.2 reader)

/-- Puts the events of a received frame behind those already queued. A frame of the
wrong shape for the connection is no response. -/
def decode (p : Pipeline) (frame : Inbound) (queue : List ResponseEvent) :
    List ResponseEvent × Option Failure :=
  match p, frame with
  | single, .single event => (queue ++ [event], none)
  | multiplexed _ reader, .multiplexed frame => reader.decode frame queue
  | _, _ => (queue, some (.net .invalidHttpResponse))

end Pipeline

end HttpExchange
