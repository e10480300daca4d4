import HttpExchange.Failure.Basic

/-!
A fault is a failure put into one of a few stable categories, and is what callers
and response handlers see. `Failure.classify` decides the category. A pool that
has no kind of its own for an exhausted pool is recognised by the text of its
message, but only under the generic kind such a pool would use.

A fault of category `other` stands for its failure: it has the failure's text and
sources. Every other category puts one text in front of them.
-/

namespace HttpExchange

inductive Category where
  | leaseTimeout
  | poolSaturated
  | writeTimeout
  | readTimeout
  | protocol
  | transmission
  | other
  deriving DecidableEq, Repr

/-- The direction in which an exchange stalled. -/
inductive Phase where
  | write
  | read
  deriving DecidableEq, Repr

structure Fault where
  category : Category
  cause : Failure
  deriving DecidableEq, Repr

/-- Whether `needle` occurs in a text at some position. -/
def occursIn (needle : List Char) : List Char → Bool
  | [] => needle.isEmpty
  | c :: rest => needle.isPrefixOf (c :: rest) || occursIn needle rest

namespace LeaseError

def timeoutMarker : String := "Acquire operation took longer"

def saturationMarker : String := "Too many outstanding acquire operations"

def mentions (e : LeaseError) (marker : String) : Bool :=
  occursIn marker.toList e.message.toList

def isTimeout (e : LeaseError) : Bool :=
  match e.kind with
  | .acquireTimeout => true
  | .timeout => e.mentions timeoutMarker
  | _ => false

def isSaturation (e : LeaseError) : Bool :=
  match e.kind with
  | .tooManyPending => true
  | .illegalState => e.mentions saturationMarker
  | _ => false

end LeaseError

namespace Category

/-- Lines joined to one paragraph. -/
def paragraph (lines : List String) : String := String.intercalate " " lines

def leaseTimeoutText : String := String.intercalate "\n" [
  paragraph [
    "Acquire operation took longer than the configured maximum time. This indicates that a",
    "request cannot get a connection from the pool within the specified maximum time. This",
    "can be due to high request rate."],
  paragraph [
    "Consider taking any of the following actions to mitigate the issue: increase max",
    "connections, increase acquire timeout, or slowing the request rate."],
  paragraph [
    "Increasing the max connections can increase client throughput (unless the network",
    "interface is already fully utilized), but can eventually start to hit operation system",
    "limitations on the number of file descriptors used by the process. If you already are",
    "fully utilizing your network interface or cannot further increase your connection",
    "count, increasing the acquire timeout gives extra time for requests to acquire a",
    "connection before timing out. If the connections doesn't free up, the subsequent",
    "requests will still timeout."],
  paragraph [
    "If the above mechanisms are not able to fix the issue, try smoothing out your requests",
    "so that large traffic bursts cannot overload the client, being more efficient with the",
    "number of times you need to call the service, or by increasing the number of hosts",
    "sending requests."]]

def poolSaturatedText : String := String.intercalate "\n" [
  paragraph [
    "Maximum pending connection acquisitions exceeded. The request rate is too high for the",
    "client to keep up."],
  paragraph [
    "Consider taking any of the following actions to mitigate the issue: increase max",
    "connections, increase max pending acquire count, decrease pool lease timeout, or",
    "slowing the request rate."],
  paragraph [
    "Increasing the max connections can increase client throughput (unless the network",
    "interface is already fully utilized), but can eventually start to hit operation system",
    "limitations on the number of file descriptors used by the process. If you already are",
    "fully utilizing your network interface or cannot further increase your connection",
    "count, increasing the pending acquire count allows extra requests to be buffered by",
    "the client, but can cause additional request latency and higher memory usage. If your",
    "request latency or memory usage is already too high, decreasing the lease timeout will",
    "allow requests to fail more quickly, reducing the number of pending connection",
    "acquisitions, but likely won't decrease the total number of failed requests."],
  paragraph [
    "If the above mechanisms are not able to fix the issue, try smoothing out your requests",
    "so that large traffic bursts cannot overload the client, being more efficient with the",
    "number of times you need to call the service, or by increasing the number of hosts",
    "sending requests."]]

/-- The text a category puts in front of its failure; `other` puts none. -/
def text? : Category → Option String
  | leaseTimeout => some leaseTimeoutText
  | poolSaturated => some poolSaturatedText
  | writeTimeout => some "Write timed out"
  | readTimeout => some "Read timed out"
  | protocol => some "Connection negotiated an unsupported protocol"
  | transmission => some "Failed to transmit request"
  | other => none

end Category

namespace Failure

def category : Failure → Category
  | lease error =>
    if error.isTimeout then .leaseTimeout
    else if error.isSaturation then .poolSaturated
    else .other
  | writeIdle _ => .writeTimeout
  | readIdle _ => .readTimeout
  | unknownProtocol _ => .protocol
  | writeFailed _ => .transmission
  | net _ | body _ | cancelled _ | abandoned => .other

def classify (f : Failure) : Fault := ⟨f.category, f⟩

end Failure

namespace Fault

def text (fault : Fault) : String := fault.category.text?.getD fault.cause.text

/-- The texts of the errors under a fault, outermost first. -/
def sources (fault : Fault) : List String :=
  match fault.category.text? with
  | some _ => fault.cause.chain
  | none => fault.cause.sources

/-- The text of a fault followed by those of its sources. -/
def chain (fault : Fault) : List String := fault.text :: fault.sources

def phase? (fault : Fault) : Option Phase :=
  match fault.category with
  | .writeTimeout => some .write
  | .readTimeout => some .read
  | _ => none

def isTimeout (fault : Fault) : Bool := fault.phase?.isSome

def isCancelled (fault : Fault) : Bool :=
  match fault.category, fault.cause with
  | .other, .cancelled _ => true
  | _, _ => false

end Fault

end HttpExchange
