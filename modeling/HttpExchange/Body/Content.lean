import HttpExchange.Body.Producer

/-!
What a request sends as its body. Content is kept in a form from which a fresh
producer can be made for every transmission.
-/

namespace HttpExchange

/-- A body held in memory. -/
inductive MemoryBody where
  | empty
  | held (bytes : Bytes)
  deriving DecidableEq, Repr

namespace MemoryBody

def content : MemoryBody → Bytes
  | empty => []
  | held bytes => bytes

def length (b : MemoryBody) : Nat := b.content.length

def isEmpty (b : MemoryBody) : Bool := b.length == 0

/-- All bytes in one chunk, or no chunk if there are none. -/
def produce (b : MemoryBody) : Producer :=
  if b.isEmpty then ⟨[], false, .unread⟩ else ⟨[.data b.content], false, .unread⟩

end MemoryBody

inductive Content where
  | memory (body : MemoryBody)
  | stream (producer : Producer)
  deriving DecidableEq, Repr

def Content.produce : Content → Producer
  | memory body => body.produce
  | stream producer => producer

end HttpExchange
