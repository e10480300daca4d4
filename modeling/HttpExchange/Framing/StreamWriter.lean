import HttpExchange.StreamFrame

/-!
Request frames on one stream of a multiplexed connection. Trailers close the stream
themselves, so the end marker behind them needs no frame; without trailers it
becomes an empty data frame that closes the stream. Nothing is written after the
frame that closed the stream.
-/

namespace HttpExchange

structure StreamWriter where
  stream : StreamId
  hasEnded : Bool
  deriving DecidableEq, Repr

namespace StreamWriter

def ofStream (stream : StreamId) : StreamWriter := ⟨stream, false⟩

/-- The stream frame that stands for a request frame. -/
def frameOf (stream : StreamId) : RequestFrame → StreamFrame
  | .head head => .headers stream (.request head) false
  | .data bytes => .data stream bytes false
  | .trailers fields => .headers stream (.trailers fields) true
  | .finish => .data stream [] true

def encode (w : StreamWriter) (frame : RequestFrame) : Option StreamFrame × StreamWriter :=
  if w.hasEnded then (none, w)
  else
    let written := frameOf w.stream frame
    (some written, { w with hasEnded := written.endsStream })

end StreamWriter

end HttpExchange
