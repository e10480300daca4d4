import HttpExchange.Json.NumberToken
import Mathlib.Data.List.Basic
import Mathlib.Data.Nat.Digits.Defs
import Mathlib.Tactic.Ring

/-!
Decimal numbers as bytes: what number some digits write, and that the digits of a number's text
write that number.
-/

namespace HttpExchange.Bytes

open Json (isDigit digitValues)

/-- The number that digits write in base ten, the most significant first. -/
def numeral (digits : Bytes) : Nat := Nat.ofDigits 10 (digitValues digits).reverse

theorem numeral_cons (digit : UInt8) (rest : Bytes) :
    numeral (digit :: rest) = (digit.toNat - 0x30) * 10 ^ rest.length + numeral rest := by
  have length : (digitValues rest).reverse.length = rest.length := by simp [digitValues]
  have digits : (digitValues (digit :: rest)).reverse =
      (digitValues rest).reverse ++ [digit.toNat - 0x30] := List.reverse_cons
  rw [numeral, digits, Nat.ofDigits_append, Nat.ofDigits_singleton, length, numeral]
  ring

/-- A digit may as well be counted to the number before the digits. -/
theorem shift_add_numeral_cons (prior : Nat) (digit : UInt8) (rest : Bytes) :
    prior * 10 ^ (digit :: rest).length + numeral (digit :: rest) =
      (prior * 10 + (digit.toNat - 0x30)) * 10 ^ rest.length + numeral rest := by
  rw [numeral_cons, List.length_cons, pow_succ]
  ring

theorem isDigit_iff (b : UInt8) : isDigit b = true ↔ 0x30 ≤ b.toNat ∧ b.toNat ≤ 0x39 := by
  simp [isDigit, UInt8.le_iff_toNat_le]

theorem toList_loop (bytes : ByteArray) (start : Nat) (seen : List UInt8) :
    ByteArray.toList.loop bytes start seen = seen.reverse ++ bytes.data.toList.drop start := by
  fun_induction ByteArray.toList.loop bytes start seen with
  | case1 start seen inside ih =>
      have held : start < bytes.data.toList.length := inside
      have next : bytes.get! start = bytes.data.toList[start] :=
        getElem!_pos bytes.data start inside
      rw [ih, next, List.drop_eq_getElem_cons held]
      simp
  | case2 start seen outside =>
      have none_left : bytes.data.toList.length ≤ start := Nat.le_of_not_lt outside
      rw [List.drop_eq_nil_of_le none_left, List.append_nil]

/-- The bytes of a text are those of its characters, one after the other. -/
theorem ofText_ofList (chars : List Char) :
    ofText (String.ofList chars) = chars.flatMap String.utf8EncodeChar := by
  change (String.ofList chars).toByteArray.toList = _
  rw [ByteArray.toList, toList_loop, String.toByteArray_ofList, List.utf8Encode,
    List.toList_data_toByteArray]
  rfl

theorem ofText_eq (text : String) : ofText text = text.toList.flatMap String.utf8EncodeChar := by
  have same := ofText_ofList text.toList
  rwa [String.ofList_toList] at same

theorem ofText_append (first second : String) :
    ofText (first ++ second) = ofText first ++ ofText second := by
  rw [ofText_eq, String.toList_append, List.flatMap_append, ← ofText_eq, ← ofText_eq]

section Ascii

variable {c : Char} (ascii : c.toNat < 0x80)
include ascii

theorem toNat_toUInt8_of_ascii : c.toUInt8.toNat = c.toNat := by
  change c.toNat % 256 = c.toNat
  omega

theorem utf8EncodeChar_of_ascii : String.utf8EncodeChar c = [c.toUInt8] := by
  have small : c.val ≤ 127 := by
    rw [UInt32.le_iff_toNat_le]
    exact Nat.le_of_lt_succ ascii
  exact String.utf8EncodeChar_eq_singleton (Char.utf8Size_eq_one_iff.mpr small)

end Ascii

/-- A text of ASCII characters has one byte for each. -/
theorem ofText_of_ascii {text : String} (ascii : ∀ c ∈ text.toList, c.toNat < 0x80) :
    ofText text = text.toList.map Char.toUInt8 := by
  rw [ofText_eq, List.map_eq_flatMap]
  exact List.flatMap_congr fun c among => utf8EncodeChar_of_ascii (ascii c among)

section Digits

variable {c : Char} (digit : c.isDigit = true)
include digit

theorem ascii_of_isDigit : c.toNat < 0x80 := by
  have top : c.toNat ≤ 57 := (Char.isDigit_iff_toNat.mp digit).2
  omega

theorem toNat_toUInt8 : c.toUInt8.toNat = c.toNat :=
  toNat_toUInt8_of_ascii (ascii_of_isDigit digit)

theorem isDigit_toUInt8 : isDigit c.toUInt8 = true := by
  rw [isDigit_iff, toNat_toUInt8 digit]
  exact Char.isDigit_iff_toNat.mp digit

end Digits

theorem isDigit_of_mem_toDigits {n : Nat} {c : Char} (among : c ∈ Nat.toDigits 10 n) :
    c.isDigit = true :=
  Nat.isDigit_of_mem_toDigits (by decide) (by decide) among

theorem ofText_toString (n : Nat) :
    ofText (toString n) = (Nat.toDigits 10 n).map Char.toUInt8 := by
  have ascii : ∀ c ∈ (toString n).toList, c.toNat < 0x80 := by
    rw [Nat.toString_eq_ofList_toDigits, String.toList_ofList]
    exact fun c among => ascii_of_isDigit (isDigit_of_mem_toDigits among)
  rw [ofText_of_ascii ascii, Nat.toString_eq_ofList_toDigits, String.toList_ofList]

/-- Digits count the same as characters and as bytes. -/
theorem ofDigitChars_eq {chars : List Char} (digits : ∀ c ∈ chars, c.isDigit = true)
    (prior : Nat) :
    Nat.ofDigitChars 10 chars prior =
      prior * 10 ^ chars.length + numeral (chars.map Char.toUInt8) := by
  induction chars generalizing prior with
  | nil => simp [numeral, digitValues]
  | cons c rest ih =>
      have value : c.toUInt8.toNat - 0x30 = c.toNat - '0'.toNat :=
        congrArg (· - 0x30) (toNat_toUInt8 (digits c List.mem_cons_self))
      rw [Nat.ofDigitChars_cons, ih fun c among => digits c (List.mem_cons_of_mem _ among),
        List.map_cons, numeral_cons, value, List.length_map, List.length_cons]
      ring

/-- The text of a number consists of digits, and they write that number. -/
theorem numeral_ofText_toString (n : Nat) :
    ofText (toString n) ≠ [] ∧ (ofText (toString n)).all isDigit = true ∧
      numeral (ofText (toString n)) = n := by
  rw [ofText_toString]
  refine ⟨?_, ?_, ?_⟩
  · simp
  · rw [List.all_map, List.all_eq_true]
    intro c among
    exact isDigit_toUInt8 (isDigit_of_mem_toDigits among)
  · have read := ofDigitChars_eq (fun c => isDigit_of_mem_toDigits (n := n)) 0
    rw [Nat.ofDigitChars_toDigits (by decide) (by decide)] at read
    omega

end HttpExchange.Bytes
