/-!
Network errors. Each named error has a negative code from the numbering that
browsers use for `net::` errors; a code outside the table is kept as `unknown`.
`ofCode` is the inverse of `code` on the named errors. Two further tables map the
reset codes of HTTP/2 streams and the error kinds of sockets.
-/

namespace HttpExchange

inductive NetError where
  | connectionClosed
  | connectionReset
  | connectionRefused
  | connectionAborted
  | connectionFailed
  | socketNotConnected
  | connectionTimedOut
  | noBufferSpace
  | invalidHttpResponse
  | http2ProtocolError
  | http2ServerRefusedStream
  | http2FlowControlError
  | http2FrameSizeError
  | http2CompressionError
  | http2ResetWithoutError
  | http2StreamClosed
  | unknown (code : Int)
  deriving DecidableEq, Repr

/-- The kinds of socket error that have a network error of their own. -/
inductive SocketError where
  | connectionReset
  | connectionRefused
  | connectionAborted
  | notConnected
  | brokenPipe
  | unexpectedEnd
  | timedOut
  | outOfMemory
  | other
  deriving DecidableEq, Repr

namespace NetError

def code : NetError → Int
  | connectionClosed => -100
  | connectionReset => -101
  | connectionRefused => -102
  | connectionAborted => -103
  | connectionFailed => -104
  | socketNotConnected => -112
  | connectionTimedOut => -118
  | noBufferSpace => -176
  | http2ProtocolError => -337
  | http2ServerRefusedStream => -351
  | http2FlowControlError => -361
  | http2FrameSizeError => -362
  | http2CompressionError => -363
  | invalidHttpResponse => -370
  | http2ResetWithoutError => -372
  | http2StreamClosed => -376
  | unknown code => code

def ofCode : Int → NetError
  | -100 => connectionClosed
  | -101 => connectionReset
  | -102 => connectionRefused
  | -103 => connectionAborted
  | -104 => connectionFailed
  | -112 => socketNotConnected
  | -118 => connectionTimedOut
  | -176 => noBufferSpace
  | -337 => http2ProtocolError
  | -351 => http2ServerRefusedStream
  | -361 => http2FlowControlError
  | -362 => http2FrameSizeError
  | -363 => http2CompressionError
  | -370 => invalidHttpResponse
  | -372 => http2ResetWithoutError
  | -376 => http2StreamClosed
  | code => unknown code

def text : NetError → String
  | connectionClosed => "Connection closed (TCP FIN)"
  | connectionReset => "Connection reset (TCP RST)"
  | connectionRefused => "Connection refused"
  | connectionAborted => "Connection aborted"
  | connectionFailed => "Connection failed"
  | socketNotConnected => "Socket not connected"
  | connectionTimedOut => "Connection timed out"
  | noBufferSpace => "No buffer space"
  | invalidHttpResponse => "Invalid HTTP response"
  | http2ProtocolError => "HTTP/2 protocol error"
  | http2ServerRefusedStream => "HTTP/2 server refused stream"
  | http2FlowControlError => "HTTP/2 flow control error"
  | http2FrameSizeError => "HTTP/2 frame size error"
  | http2CompressionError => "HTTP/2 compression error"
  | http2ResetWithoutError => "HTTP/2 RST_STREAM NO_ERROR received"
  | http2StreamClosed => "HTTP/2 stream closed"
  | unknown code => "Unknown error: " ++ toString code

/-- The error of a stream that the peer reset with `code`. A code without an error
of its own only says that the stream is closed. -/
def ofStreamReset (code : UInt32) : NetError :=
  match code.toNat with
  | 0 => http2ResetWithoutError
  | 1 => http2ProtocolError
  | 3 => http2FlowControlError
  | 6 => http2FrameSizeError
  | 7 => http2ServerRefusedStream
  | 9 => http2CompressionError
  | _ => http2StreamClosed

def ofSocket : SocketError → NetError
  | .connectionReset => connectionReset
  | .connectionRefused => connectionRefused
  | .connectionAborted => connectionAborted
  | .notConnected => socketNotConnected
  | .brokenPipe => connectionClosed
  | .unexpectedEnd => connectionClosed
  | .timedOut => connectionTimedOut
  | .outOfMemory => noBufferSpace
  | .other => connectionFailed

/-- Whether the connection under the error is lost. -/
def breaksConnection : NetError → Bool
  | connectionClosed | connectionReset | connectionRefused | connectionAborted
  | connectionFailed | socketNotConnected | connectionTimedOut => true
  | _ => false

end NetError

end HttpExchange
