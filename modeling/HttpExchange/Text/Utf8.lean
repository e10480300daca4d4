import HttpExchange.Bytes

/-!
Reading UTF-8. `scan` looks at the sequence that begins with a given byte and finds
either one character or a maximal prefix that no character begins with. The strict
reading needs characters throughout; the lossy one puts U+FFFD for every such prefix.
-/

namespace HttpExchange.Utf8

def isContinuation (b : UInt8) : Bool := 0x80 ≤ b && b ≤ 0xBF

/-- The second bytes that may follow a first byte of three- and four-byte sequences. -/
def isSecond (first second : UInt8) : Bool :=
  let low : UInt8 := if first = 0xE0 then 0xA0 else if first = 0xF0 then 0x90 else 0x80
  let high : UInt8 := if first = 0xED then 0x9F else if first = 0xF4 then 0x8F else 0xBF
  low ≤ second && second ≤ high

/-- The payload of a continuation byte. -/
def payload (b : UInt8) : Nat := b.toNat % 64

/-- The character that begins with `first`, if the bytes behind it complete one, and how
many of them belong to the character or to the broken sequence. -/
def scan (first : UInt8) (rest : Bytes) : Option Char × Nat :=
  if first < 0x80 then (some (Char.ofNat first.toNat), 0)
  else if 0xC2 ≤ first && first ≤ 0xDF then
    match rest with
    | second :: _ =>
      if isContinuation second then
        (some (Char.ofNat (first.toNat % 32 * 64 + payload second)), 1)
      else (none, 0)
    | [] => (none, 0)
  else if 0xE0 ≤ first && first ≤ 0xEF then
    match rest with
    | second :: rest =>
      if isSecond first second then
        match rest with
        | third :: _ =>
          if isContinuation third then
            (some (Char.ofNat
              ((first.toNat % 16 * 64 + payload second) * 64 + payload third)), 2)
          else (none, 1)
        | [] => (none, 1)
      else (none, 0)
    | [] => (none, 0)
  else if 0xF0 ≤ first && first ≤ 0xF4 then
    match rest with
    | second :: rest =>
      if isSecond first second then
        match rest with
        | third :: rest =>
          if isContinuation third then
            match rest with
            | fourth :: _ =>
              if isContinuation fourth then
                (some (Char.ofNat
                  (((first.toNat % 8 * 64 + payload second) * 64 + payload third) * 64
                    + payload fourth)), 3)
              else (none, 2)
            | [] => (none, 2)
          else (none, 1)
        | [] => (none, 1)
      else (none, 0)
    | [] => (none, 0)
  else (none, 0)

/-- What each sequence of a byte string reads as. -/
def sequences : Bytes → List (Option Char)
  | [] => []
  | first :: rest => (scan first rest).1 :: sequences (rest.drop (scan first rest).2)
  termination_by bytes => bytes.length
  decreasing_by
    simp only [List.length_drop, List.length_cons]
    omega

def replacement : Char := Char.ofNat 0xFFFD

/-- Reads every sequence that is no character as U+FFFD. -/
def readLossy (bytes : Bytes) : String :=
  String.ofList ((sequences bytes).map fun c => c.getD replacement)

/-- Reads characters only. -/
def read? (bytes : Bytes) : Option String :=
  ((sequences bytes).mapM id).map String.ofList

end HttpExchange.Utf8
