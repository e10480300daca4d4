import HttpExchange.Json.Lexer
import HttpExchange.Proofs.Numerals

/-!
What the lexer makes of text that was written plainly: each mark is a token of its own, a text in
quotes without anything to escape is read as that text, and the decimal text of a number below
`2 ^ 64` is read as that number if nothing stands behind it that could belong to it.
-/

namespace HttpExchange

namespace Utf8

/-- ASCII is read one byte at a time. -/
theorem sequences_of_ascii {chars : List Char} (ascii : ∀ c ∈ chars, c.toNat < 0x80) :
    sequences (chars.map Char.toUInt8) = chars.map some := by
  induction chars with
  | nil => simp [sequences]
  | cons c rest ih =>
      have value := Bytes.toNat_toUInt8_of_ascii (ascii c List.mem_cons_self)
      have below : c.toUInt8 < 0x80 := by
        rw [UInt8.lt_iff_toNat_lt, value]
        exact ascii c List.mem_cons_self
      have first (behind : Bytes) : scan c.toUInt8 behind = (some c, 0) := by
        unfold scan
        rw [if_pos below, value, Char.ofNat_toNat]
      rw [List.map_cons, sequences, first, List.drop_zero,
        ih fun c among => ascii c (List.mem_cons_of_mem _ among), List.map_cons]

theorem read?_ofText_of_ascii {text : String} (ascii : ∀ c ∈ text.toList, c.toNat < 0x80) :
    read? (Bytes.ofText text) = some text := by
  have whole : (text.toList.map some).mapM id = some text.toList := by
    rw [List.mapM_map]
    exact (List.mapM_pure (f := id)).trans (congrArg some (List.map_id _))
  rw [read?, Bytes.ofText_of_ascii ascii, sequences_of_ascii ascii, whole, Option.map_some,
    String.ofList_toList]

end Utf8

namespace Json

open Bytes (ofText numeral)

theorem tokens_cons {b : UInt8} {rest : Bytes} (solid : isBlank b = false)
    (whole : (tokenAt b rest).1.isBroken = false) :
    tokens (b :: rest) = (tokenAt b rest).1 :: tokens (rest.drop (tokenAt b rest).2) := by
  rw [tokens, solid]
  simp [whole]

theorem tokens_mark {b : UInt8} {rest : Bytes} {mark : Mark} (solid : isBlank b = false)
    (begins : tokenAt b rest = (.mark mark, 0)) :
    tokens (b :: rest) = .mark mark :: tokens rest := by
  rw [tokens_cons solid (by rw [begins]; rfl), begins, List.drop_zero]

/-- A character that stands for itself between quotes. -/
def isPlain (c : Char) : Bool :=
  0x20 ≤ c.toNat && c.toNat < 0x80 && c != Char.ofNat 0x22 && c != Char.ofNat 0x5C

section Plain

variable {c : Char} (plain : isPlain c = true)
include plain

theorem isPlain_bounds : 0x20 ≤ c.toNat ∧ c.toNat < 0x80 := by
  simp only [isPlain, Bool.and_eq_true, decide_eq_true_eq] at plain
  exact plain.1.1

theorem isPlain_toUInt8 :
    c.toUInt8 ≠ quote ∧ c.toUInt8 ≠ backslash ∧ ¬ c.toUInt8 < 0x20 := by
  obtain ⟨low, high⟩ := isPlain_bounds plain
  have value := Bytes.toNat_toUInt8_of_ascii high
  have other (b : UInt8) (n : Nat) (code : b.toNat = n) (differs : c ≠ Char.ofNat n) :
      c.toUInt8 ≠ b := by
    rintro rfl
    rw [← code, value, Char.ofNat_toNat] at differs
    exact differs rfl
  simp only [isPlain, Bool.and_eq_true, bne_iff_ne] at plain
  refine ⟨other quote 0x22 rfl plain.1.2, other backslash 0x5C rfl plain.2, ?_⟩
  rw [UInt8.lt_iff_toNat_lt, value]
  exact Nat.not_lt.mpr low

end Plain

theorem stringLength_of_plain {chars : List Char} (plain : ∀ c ∈ chars, isPlain c = true)
    (rest : Bytes) :
    stringLength (chars.map Char.toUInt8 ++ quote :: rest) = .ok (chars.length + 1) := by
  induction chars with
  | nil =>
      rw [List.map_nil, List.nil_append, stringLength.eq_def]
      rfl
  | cons c more ih =>
      obtain ⟨unquoted, unescaped, visible⟩ := isPlain_toUInt8 (plain c List.mem_cons_self)
      have behind := ih fun c among => plain c (List.mem_cons_of_mem _ among)
      rw [List.map_cons, List.cons_append, stringLength.eq_def]
      dsimp only
      rw [if_neg unquoted, if_neg unescaped, if_neg visible, behind]
      rfl

theorem stringBytes_of_plain {chars : List Char} (plain : ∀ c ∈ chars, isPlain c = true)
    (rest : Bytes) :
    stringBytes (chars.map Char.toUInt8 ++ quote :: rest) = .ok (chars.map Char.toUInt8) := by
  induction chars with
  | nil =>
      rw [List.map_nil, List.nil_append, stringBytes.eq_def]
      rfl
  | cons c more ih =>
      obtain ⟨unquoted, unescaped, visible⟩ := isPlain_toUInt8 (plain c List.mem_cons_self)
      have behind := ih fun c among => plain c (List.mem_cons_of_mem _ among)
      rw [List.map_cons, List.cons_append, stringBytes.eq_def]
      dsimp only
      rw [if_neg unquoted, if_neg unescaped, if_neg visible, behind]
      rfl

/-- A plain text in quotes is read as itself. -/
theorem tokens_text {text : String} (plain : text.toList.all isPlain = true) (rest : Bytes) :
    tokens (quote :: (ofText text ++ quote :: rest)) = .text (.ok text) :: tokens rest := by
  have each : ∀ c ∈ text.toList, isPlain c = true := List.all_eq_true.mp plain
  have ascii : ∀ c ∈ text.toList, c.toNat < 0x80 := fun c among => (isPlain_bounds (each c among)).2
  have bytes := Bytes.ofText_of_ascii ascii
  have read : stringText (ofText text ++ quote :: rest) = .ok text := by
    rw [stringText, bytes, stringBytes_of_plain each, ← bytes]
    simp only [Utf8.read?_ofText_of_ascii ascii]
  have length : stringLength (ofText text ++ quote :: rest) = .ok ((ofText text).length + 1) := by
    rw [bytes, stringLength_of_plain each, List.length_map]
  have begins : tokenAt quote (ofText text ++ quote :: rest) =
      (.text (.ok text), (ofText text).length + 1) := by
    change stringToken (ofText text ++ quote :: rest) = _
    rw [stringToken, length, read]
  have behind : (ofText text ++ quote :: rest).drop ((ofText text).length + 1) = rest := by
    rw [List.drop_length_add_append]
    rfl
  rw [tokens_cons rfl (by rw [begins]; rfl), begins, behind]

/-- Digits are gathered into the number that they write, if 64 bits hold it. -/
theorem foldl_takeWhole (digits : Bytes) (prior : Nat)
    (fits : prior * 10 ^ digits.length + numeral digits < Decimal.significandLimit) :
    (digitValues digits).foldl Decimal.takeWhole ⟨prior, 0⟩ =
      ⟨prior * 10 ^ digits.length + numeral digits, 0⟩ := by
  induction digits generalizing prior with
  | nil => simp [digitValues, numeral]
  | cons digit rest ih =>
      rw [Bytes.shift_add_numeral_cons] at fits ⊢
      -- The number gathered so far is no larger than the whole, so that it fits, too.
      have grown := Nat.le_mul_of_pos_right (prior * 10 + (digit.toNat - 0x30))
        (Nat.pow_pos (n := rest.length) (show 0 < 10 by decide))
      have next : Decimal.takeWhole ⟨prior, 0⟩ (digit.toNat - 0x30) =
          ⟨prior * 10 + (digit.toNat - 0x30), 0⟩ := by
        have held : prior * 10 + (digit.toNat - 0x30) < Decimal.significandLimit := by omega
        simp [Decimal.takeWhole, Decimal.append?, held]
      change (digitValues rest).foldl Decimal.takeWhole
        (Decimal.takeWhole ⟨prior, 0⟩ (digit.toNat - 0x30)) = _
      rw [next]
      exact ih _ fits

/-- Only the text of zero begins with a zero. -/
theorem head?_toDigits {n : Nat} (positive : 0 < n) : (Nat.toDigits 10 n).head? ≠ some '0' := by
  induction n using Nat.strong_induction_on with
  | _ n ih =>
      rcases Nat.lt_or_ge n 10 with small | large
      · rw [Nat.toDigits_of_lt_base small, List.head?_cons]
        intro zero
        have none_left := Nat.digitChar_eq_zero.mp (Option.some.inj zero)
        omega
      · rw [Nat.toDigits_of_base_le (by decide) large,
          List.head?_append_of_ne_nil _ Nat.toDigits_ne_nil]
        exact ih (n / 10) (by omega) (by omega)

theorem head?_ofText_toString {n : Nat} (positive : 0 < n) :
    (ofText (toString n)).head? ≠ some 0x30 := by
  rw [Bytes.ofText_toString, List.head?_map]
  intro zero
  obtain ⟨c, first, code⟩ := Option.map_eq_some_iff.mp zero
  have digit := Bytes.isDigit_of_mem_toDigits (List.mem_of_mem_head? first)
  have same : c.toNat = '0'.toNat := by
    rw [← Bytes.toNat_toUInt8 digit, code]
    rfl
  obtain rfl := Char.toNat_inj.mp same
  exact head?_toDigits positive first

/-- The text of a number has no zero in front that could be left out. -/
theorem unpadded_toString (n : Nat) :
    ((ofText (toString n)).head? = some 0x30 && (ofText (toString n)).length != 1) = false := by
  rcases Nat.eq_zero_or_pos n with rfl | positive
  · have zero : ofText (toString 0) = [0x30] := by
      rw [Bytes.ofText_toString, Nat.toDigits_zero]
      rfl
    rw [zero]
    rfl
  · rw [decide_eq_false (head?_ofText_toString positive), Bool.false_and]

theorem integerNumber_of_numeral {digits : Bytes}
    (fits : numeral digits < Decimal.significandLimit) :
    integerNumber false (Decimal.ofWhole (digitValues digits)) =
      .ok (.natural (numeral digits)) := by
  have gathered := foldl_takeWhole digits 0 (by simpa using fits)
  rw [Nat.zero_mul, Nat.zero_add] at gathered
  rw [Decimal.ofWhole, Decimal.zero, gathered]
  rfl

/-- A token that begins with a digit is a number without a sign. -/
theorem tokenAt_digit {b : UInt8} (digit : isDigit b = true) (behind : Bytes) :
    isBlank b = false ∧ tokenAt b behind =
      ((numberToken false (b :: behind)).1, (numberToken false (b :: behind)).2 - 1) := by
  have other (byte : UInt8) (no_digit : isDigit byte = false) : b ≠ byte := by
    rintro rfl
    cases digit.symm.trans no_digit
  constructor
  · simp [isBlank, other 0x20 rfl, other 0x0A rfl, other 0x0D rfl, other 0x09 rfl]
  · rw [tokenAt, if_neg (other 0x5B rfl), if_neg (other 0x5D rfl), if_neg (other 0x7B rfl),
      if_neg (other 0x7D rfl), if_neg (other 0x2C rfl), if_neg (other 0x3A rfl),
      if_neg (other quote rfl), if_neg (other 0x2D rfl), if_pos digit]

/-- What stands behind a number, if it is nothing that could belong to it. -/
def EndsNumber (rest : Bytes) : Prop :=
  ∀ b ∈ rest.head?, isDigit b = false ∧ b ≠ 0x2E ∧ b ≠ 0x65 ∧ b ≠ 0x45

variable {rest : Bytes} (ends : EndsNumber rest)
include ends

theorem exponentToken_of_ends (isNegative : Bool) (whole : Bytes) (length : Nat) :
    exponentToken isNegative whole [] rest length =
      (.number (integerNumber isNegative (Decimal.ofWhole (digitValues whole))), length) := by
  cases rest with
  | nil => rfl
  | cons b behind =>
      obtain ⟨-, -, small, capital⟩ := ends b rfl
      simp [exponentToken, small, capital]

/-- Digits with no zero in front that could be left out are read as the number that they write. -/
theorem numberToken_of_digits {digits : Bytes} (nonempty : digits ≠ [])
    (all : digits.all isDigit = true)
    (unpadded : (digits.head? = some 0x30 && digits.length != 1) = false)
    (fits : numeral digits < Decimal.significandLimit) :
    numberToken false (digits ++ rest) =
      (.number (.ok (.natural (numeral digits))), digits.length) := by
  have stops : rest.takeWhile isDigit = [] := by
    cases rest with
    | nil => rfl
    | cons b behind => exact List.takeWhile_cons_of_neg (by simp [(ends b rfl).1])
  have whole : (digits ++ rest).takeWhile isDigit = digits := by
    rw [List.takeWhile_append_of_pos (List.all_eq_true.mp all), stops, List.append_nil]
  have read := exponentToken_of_ends ends false digits digits.length
  rw [integerNumber_of_numeral fits] at read
  have some_digit : digits.isEmpty = false := by simpa using nonempty
  rw [numberToken, whole, List.drop_left, some_digit, unpadded]
  cases rest with
  | nil => exact read
  | cons b behind =>
      obtain ⟨-, pointless, -, -⟩ := ends b rfl
      simp only [Bool.false_eq_true, ↓reduceIte, pointless]
      exact read

/-- The text of a number is read as that number. -/
theorem tokens_number {n : Nat} (fits : n < Decimal.significandLimit) :
    tokens (ofText (toString n) ++ rest) = .number (.ok (.natural n)) :: tokens rest := by
  obtain ⟨nonempty, all, value⟩ := Bytes.numeral_ofText_toString n
  have unpadded := unpadded_toString n
  generalize ofText (toString n) = digits at nonempty all value unpadded
  subst value
  have read := numberToken_of_digits ends nonempty all unpadded fits
  obtain ⟨b, more, rfl⟩ := List.exists_cons_of_ne_nil nonempty
  have digit : isDigit b = true := List.all_eq_true.mp all b List.mem_cons_self
  obtain ⟨solid, begins⟩ := tokenAt_digit digit (more ++ rest)
  rw [← List.cons_append, read] at begins
  rw [List.cons_append, tokens_cons solid (by rw [begins]; rfl), begins]
  simp

end Json

end HttpExchange
