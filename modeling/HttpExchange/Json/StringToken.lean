import HttpExchange.Json.Token
import HttpExchange.Text.Utf8

/-!
Strings as tokens. A string is measured first, which needs its escapes to be of good
shape and no more; what it stands for is a second question, to which a lone surrogate
or bytes that are not UTF-8 give no answer.
-/

namespace HttpExchange.Json

def quote : UInt8 := 0x22

def backslash : UInt8 := 0x5C

def hexDigit? (b : UInt8) : Option Nat :=
  if 0x30 ≤ b && b ≤ 0x39 then some (b.toNat - 0x30)
  else if 0x41 ≤ b && b ≤ 0x46 then some (b.toNat - 0x41 + 10)
  else if 0x61 ≤ b && b ≤ 0x66 then some (b.toNat - 0x61 + 10)
  else none

/-- Four hexadecimal digits. -/
def hex4? (a b c d : UInt8) : Option Nat := do
  let a ← hexDigit? a
  let b ← hexDigit? b
  let c ← hexDigit? c
  let d ← hexDigit? d
  some (((a * 16 + b) * 16 + c) * 16 + d)

/-- The byte that a one-letter escape stands for. -/
def escaped? (b : UInt8) : Option UInt8 :=
  if b = quote then some quote
  else if b = backslash then some backslash
  else if b = 0x2F then some 0x2F
  else if b = 0x62 then some 0x08
  else if b = 0x66 then some 0x0C
  else if b = 0x6E then some 0x0A
  else if b = 0x72 then some 0x0D
  else if b = 0x74 then some 0x09
  else none

/-- How many bytes a string has behind its opening quote, the closing one included. -/
def stringLength : Bytes → Except Problem Nat
  | [] => .error .ended
  | b :: rest =>
    if b = quote then .ok 1
    else if b = backslash then
      match rest with
      | [] => .error .ended
      | e :: rest =>
        if e = 0x75 then
          match rest with
          | h1 :: h2 :: h3 :: h4 :: rest =>
            match hex4? h1 h2 h3 h4 with
            | some _ => (stringLength rest).map (· + 6)
            | none => .error .malformed
          | _ => .error .ended
        else
          match escaped? e with
          | some _ => (stringLength rest).map (· + 2)
          | none => .error .malformed
    else if b < 0x20 then .error .malformed
    else (stringLength rest).map (· + 1)

def isLowSurrogate (n : Nat) : Bool := 0xDC00 ≤ n && n ≤ 0xDFFF

def isHighSurrogate (n : Nat) : Bool := 0xD800 ≤ n && n ≤ 0xDBFF

/-- The code point of a pair of surrogates. -/
def pairOf (high low : Nat) : Nat := 0x10000 + (high - 0xD800) * 0x400 + (low - 0xDC00)

/-- The UTF-8 form of a code point. -/
def encoded (code : Nat) : Bytes := Bytes.ofText (String.singleton (Char.ofNat code))

/-- The bytes a string stands for. A high surrogate needs a low one behind it. -/
def stringBytes : Bytes → Except Problem Bytes
  | [] => .error .ended
  | b :: rest =>
    if b = quote then .ok []
    else if b = backslash then
      match rest with
      | [] => .error .ended
      | e :: rest =>
        if e = 0x75 then
          match rest with
          | h1 :: h2 :: h3 :: h4 :: rest =>
            match hex4? h1 h2 h3 h4 with
            | none => .error .malformed
            | some n =>
              if isLowSurrogate n then .error .malformed
              else if isHighSurrogate n then
                match rest with
                | [] => .error .ended
                | b :: rest =>
                  if b = backslash then
                    match rest with
                    | [] => .error .ended
                    | e :: rest =>
                      if e = 0x75 then
                        match rest with
                        | h1 :: h2 :: h3 :: h4 :: rest =>
                          match hex4? h1 h2 h3 h4 with
                          | none => .error .malformed
                          | some m =>
                            if isLowSurrogate m then
                              (stringBytes rest).map (encoded (pairOf n m) ++ ·)
                            else .error .malformed
                        | _ => .error .ended
                      else .error .malformed
                  else .error .malformed
              else (stringBytes rest).map (encoded n ++ ·)
          | _ => .error .ended
        else
          match escaped? e with
          | some byte => (stringBytes rest).map (byte :: ·)
          | none => .error .malformed
    else if b < 0x20 then .error .malformed
    else (stringBytes rest).map (b :: ·)

/-- The text a string stands for; its bytes must be UTF-8. -/
def stringText (bytes : Bytes) : Except Problem String :=
  match stringBytes bytes with
  | .error problem => .error problem
  | .ok content =>
    match Utf8.read? content with
    | some text => .ok text
    | none => .error .malformed

/-- The token behind an opening quote, and how many bytes it takes. -/
def stringToken (bytes : Bytes) : Token × Nat :=
  match stringLength bytes with
  | .ok n => (.text (stringText bytes), n)
  | .error skip =>
    match stringText bytes with
    | .ok _ => (.broken true skip skip, 0)
    | .error read => (.broken true read skip, 0)

end HttpExchange.Json
