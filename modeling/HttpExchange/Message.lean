import HttpExchange.Headers

/-!
The heads of requests and responses, and the frames of one exchange as a
single-stream codec speaks them. The stream frames of a multiplexed codec are in
`HttpExchange.StreamFrame`.
-/

namespace HttpExchange

inductive Version where
  | http09
  | http10
  | http11
  | http2
  | http3
  deriving DecidableEq, Repr

def Version.text : Version → String
  | .http09 => "HTTP/0.9"
  | .http10 => "HTTP/1.0"
  | .http11 => "HTTP/1.1"
  | .http2 => "HTTP/2.0"
  | .http3 => "HTTP/3.0"

/-- The request line and headers. -/
structure RequestHead where
  method : String
  uri : String
  version : Version
  headers : Headers
  deriving DecidableEq, Repr

/-- The status line and headers. -/
structure ResponseHead where
  status : Nat
  version : Version
  headers : Headers
  deriving DecidableEq, Repr

/-- One frame of an outgoing request; `finish` says that the request is complete. -/
inductive RequestFrame where
  | head (head : RequestHead)
  | data (bytes : Bytes)
  | trailers (fields : Headers)
  | finish
  deriving DecidableEq, Repr

/-- One event of an incoming response, the same for every protocol; `finish` says
that the response is complete. -/
inductive ResponseEvent where
  | head (head : ResponseHead)
  | data (bytes : Bytes)
  | trailers (fields : Headers)
  | finish
  deriving DecidableEq, Repr

end HttpExchange
