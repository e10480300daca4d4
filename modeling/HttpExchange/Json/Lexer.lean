import HttpExchange.Json.NumberToken
import HttpExchange.Json.StringToken

/-!
Splitting a text into tokens. Blanks between tokens are skipped, and nothing behind a
broken token is looked at.
-/

namespace HttpExchange.Json

def isBlank (b : UInt8) : Bool := b == 0x20 || b == 0x0A || b == 0x0D || b == 0x09

/-- A word behind its first letter, and how many bytes it takes. -/
def wordToken (word : Word) (letters : Bytes) (bytes : Bytes) : Token × Nat :=
  if letters.isPrefixOf bytes then (.word word, letters.length)
  else if bytes.isPrefixOf letters then (.broken false .ended .ended, 0)
  else (.broken false .malformed .malformed, 0)

/-- The token that begins with `b`, and how many of the bytes behind it belong to it. -/
def tokenAt (b : UInt8) (rest : Bytes) : Token × Nat :=
  if b = 0x5B then (.mark .openArray, 0)
  else if b = 0x5D then (.mark .closeArray, 0)
  else if b = 0x7B then (.mark .openObject, 0)
  else if b = 0x7D then (.mark .closeObject, 0)
  else if b = 0x2C then (.mark .comma, 0)
  else if b = 0x3A then (.mark .colon, 0)
  else if b = quote then stringToken rest
  else if b = 0x2D then numberToken true rest
  else if isDigit b then
    let token := numberToken false (b :: rest)
    (token.1, token.2 - 1)
  else if b = 0x6E then wordToken .null [0x75, 0x6C, 0x6C] rest
  else if b = 0x74 then wordToken .true [0x72, 0x75, 0x65] rest
  else if b = 0x66 then wordToken .false [0x61, 0x6C, 0x73, 0x65] rest
  else (.broken false .malformed .malformed, 0)

/-- The tokens of a text, up to the first broken one. -/
def tokens : Bytes → List Token
  | [] => []
  | b :: rest =>
    if isBlank b then tokens rest
    else
      let token := tokenAt b rest
      if token.1.isBroken then [token.1]
      else token.1 :: tokens (rest.drop token.2)
  termination_by bytes => bytes.length
  decreasing_by
    · simp
    · simp only [List.length_drop, List.length_cons]
      omega

end HttpExchange.Json
