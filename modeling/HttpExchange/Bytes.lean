/-!
Bodies and header values are plain byte sequences.
-/

namespace HttpExchange

abbrev Bytes := List UInt8

namespace Bytes

/-- The UTF-8 form of a text. -/
def ofText (s : String) : Bytes := s.toUTF8.toList

/-- Bytes a header value may hold as text: the visible ones, the space and the tab. -/
def isTextual (b : UInt8) : Bool := (0x20 ≤ b && b < 0x7F) || b == 0x09

/-- White space around a header's text. Of the bytes `isTextual` admits these are all. -/
def isBlank (b : UInt8) : Bool := b == 0x20 || b == 0x09

/-- Removes blanks at both ends. -/
def trim (bytes : Bytes) : Bytes :=
  ((bytes.dropWhile isBlank).reverse.dropWhile isBlank).reverse

/-- The value of an ASCII digit. -/
def digit? (b : UInt8) : Option Nat :=
  if 0x30 ≤ b && b ≤ 0x39 then some (b.toNat - 0x30) else none

end Bytes

end HttpExchange
