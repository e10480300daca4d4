import HttpExchange.Text.Unprintable

/-!
Texts in quotes. Quotes, backslashes and the common controls get a backslash and a
letter; other characters without a shape are written by their code points.
-/

namespace HttpExchange.Quoted

/-- The hexadecimal digits of a code point, in lower case. -/
def hex (c : Char) : String := String.ofList (Nat.toDigits 16 c.toNat)

def escape (c : Char) : String :=
  match c with
  | '\x00' => "\\0"
  | '\t' => "\\t"
  | '\r' => "\\r"
  | '\n' => "\\n"
  | '"' => "\\\""
  | '\\' => "\\\\"
  | c => if isUnprintable c then "\\u\x7b" ++ hex c ++ "\x7d" else String.singleton c

def render (s : String) : String := "\"" ++ String.join (s.toList.map escape) ++ "\""

end HttpExchange.Quoted
