import HttpExchange.Body.Length
import HttpExchange.Proofs.Numerals

/-!
Which header fields declare a length. The first value is the one that counts. It has to be a decimal
number below `2 ^ 64`, perhaps with a plus sign in front and with blanks around both. Such a value
declares its number, any other declares nothing, and only then is there a line for the operator to
read. The decimal text of a number is a value of this form, so that a length that was written is
read back.
-/

namespace HttpExchange

namespace Bytes

open Json (isDigit)

theorem digit?_eq (b : UInt8) :
    digit? b = if isDigit b then some (b.toNat - 0x30) else none := rfl

/-- Digits are read as the number that they write behind those before them. That the reading gives
up at the first number that is too large is no loss, for more digits only make it larger. -/
theorem decimal?_eq_some_iff {prior : Nat} (small : prior < lengthLimit) (digits : Bytes)
    (n : Nat) :
    decimal? prior digits = some n ↔
      digits.all isDigit = true ∧ prior * 10 ^ digits.length + numeral digits = n ∧
        n < lengthLimit := by
  induction digits generalizing prior with
  | nil =>
      have nothing : prior * 10 ^ ([] : Bytes).length + numeral [] = prior := by
        simp [numeral, Json.digitValues]
      rw [decimal?, nothing, Option.some.injEq]
      constructor
      · rintro rfl
        exact ⟨rfl, rfl, small⟩
      · rintro ⟨-, rfl, -⟩
        rfl
  | cons b rest ih =>
      cases digit : isDigit b with
      | false => simp [decimal?, digit?_eq, digit]
      | true =>
          rw [decimal?, digit?_eq, if_pos digit, shift_add_numeral_cons, List.all_cons, digit,
            Bool.true_and]
          dsimp only
          by_cases fits : prior * 10 + (b.toNat - 0x30) < lengthLimit
          · rw [if_pos fits]
            exact ih fits
          · rw [if_neg fits]
            constructor
            · intro read
              cases read
            · rintro ⟨-, rfl, below⟩
              have power : 0 < 10 ^ rest.length := Nat.pow_pos (by decide)
              have grown := Nat.le_mul_of_pos_right (prior * 10 + (b.toNat - 0x30)) power
              omega

theorem number?_eq_some_iff (digits : Bytes) (n : Nat) :
    number? digits = some n ↔
      digits ≠ [] ∧ digits.all isDigit = true ∧ numeral digits = n ∧ n < lengthLimit := by
  cases digits with
  | nil => simp [number?]
  | cons b rest =>
      have read := decimal?_eq_some_iff (show 0 < lengthLimit by decide) (b :: rest) n
      rw [Nat.zero_mul, Nat.zero_add] at read
      simpa [number?] using read

theorem signedNumber?_eq_some_iff (text : Bytes) (n : Nat) :
    signedNumber? text = some n ↔
      ∃ sign digits, text = sign ++ digits ∧ (sign = [] ∨ sign = [0x2B]) ∧ digits ≠ [] ∧
        digits.all isDigit = true ∧ numeral digits = n ∧ n < lengthLimit := by
  cases text with
  | nil => simp [signedNumber?]
  | cons b rest =>
      constructor
      · intro read
        rw [signedNumber?] at read
        split at read
        case isTrue plus =>
          obtain rfl : b = 0x2B := by simpa using plus
          exact ⟨[0x2B], rest, rfl, .inr rfl, (number?_eq_some_iff rest n).mp read⟩
        case isFalse =>
          exact ⟨[], b :: rest, rfl, .inl rfl, (number?_eq_some_iff (b :: rest) n).mp read⟩
      · rintro ⟨sign, digits, text, rfl | rfl, number⟩
        · obtain rfl : b :: rest = digits := text
          have digit : isDigit b = true := List.all_eq_true.mp number.2.1 b List.mem_cons_self
          have unsigned : (b == 0x2B) = false := by
            rw [beq_eq_false_iff_ne]
            rintro rfl
            cases digit
          rw [signedNumber?, unsigned]
          exact (number?_eq_some_iff (b :: rest) n).mpr number
        · obtain ⟨rfl, rfl⟩ := List.cons.inj text
          exact (number?_eq_some_iff rest n).mpr number

/-- Only blanks are trimmed away. -/
theorem trim_split (value : Bytes) :
    ∃ before after : Bytes, before.all isBlank = true ∧ after.all isBlank = true ∧
      value = before ++ value.trim ++ after := by
  let behind := (value.dropWhile isBlank).reverse
  have left : value.takeWhile isBlank ++ value.dropWhile isBlank = value :=
    List.takeWhile_append_dropWhile
  have right : behind.takeWhile isBlank ++ behind.dropWhile isBlank = behind :=
    List.takeWhile_append_dropWhile
  refine ⟨value.takeWhile isBlank, (behind.takeWhile isBlank).reverse, List.all_takeWhile, ?_, ?_⟩
  · rw [List.all_reverse]
    exact List.all_takeWhile
  · rw [List.append_assoc, trim, ← List.reverse_append, right, List.reverse_reverse, left]

/-- What stands among blanks and holds none is left when they are trimmed away. -/
theorem trim_of_blanks {before core after : Bytes} (blank_before : before.all isBlank = true)
    (some_core : core ≠ []) (solid : ∀ b ∈ core, isBlank b = false)
    (blank_after : after.all isBlank = true) : trim (before ++ core ++ after) = core := by
  have dropped {blanks text rest : Bytes} (blank : blanks.all isBlank = true)
      (some_text : text ≠ []) (solid : ∀ b ∈ text, isBlank b = false) :
      (blanks ++ (text ++ rest)).dropWhile isBlank = text ++ rest := by
    rw [List.dropWhile_append_of_pos (by simpa using blank)]
    obtain ⟨b, more, rfl⟩ := List.exists_cons_of_ne_nil some_text
    exact List.dropWhile_cons_of_neg (by simp [solid b])
  have front : (before ++ (core ++ after)).dropWhile isBlank = core ++ after :=
    dropped blank_before some_core solid
  have back : (after.reverse ++ (core.reverse ++ [])).dropWhile isBlank = core.reverse ++ [] :=
    dropped (by simpa using blank_after) (by simpa using some_core) (by simpa using solid)
  rw [List.append_nil] at back
  rw [trim, List.append_assoc, front, List.reverse_append, back, List.reverse_reverse]

/-- A value that writes a number: its digits, perhaps with a plus sign, among blanks. -/
inductive Writes : Bytes → Nat → Prop
  | intro {before sign digits after : Bytes} (blank_before : before.all isBlank = true)
      (signed : sign = [] ∨ sign = [0x2B]) (some_digit : digits ≠ [])
      (all_digits : digits.all isDigit = true) (blank_after : after.all isBlank = true) :
      Writes (before ++ (sign ++ digits) ++ after) (numeral digits)

theorem solid_of_digits {sign digits : Bytes} (signed : sign = [] ∨ sign = [0x2B])
    (all_digits : digits.all isDigit = true) : ∀ b ∈ sign ++ digits, isBlank b = false := by
  intro b among
  rcases List.mem_append.mp among with of_sign | of_digits
  · rcases signed with rfl | rfl
    · cases of_sign
    · obtain rfl := List.mem_singleton.mp of_sign
      rfl
  · cases blank : isBlank b with
    | false => rfl
    | true =>
        have digit := List.all_eq_true.mp all_digits b of_digits
        simp only [isBlank, Bool.or_eq_true, beq_iff_eq] at blank
        rcases blank with rfl | rfl <;> cases digit

/-- A value is read as a length exactly if it writes that number and the number is small enough. -/
theorem length?_eq_some_iff (value : Bytes) (n : Nat) :
    value.length? = some n ↔
      value.all isTextual = true ∧ Writes value n ∧ n < lengthLimit := by
  constructor
  · intro read
    rw [length?] at read
    split at read
    case isTrue textual =>
      obtain ⟨sign, digits, trimmed, signed, some_digit, all_digits, rfl, below⟩ :=
        (signedNumber?_eq_some_iff value.trim n).mp read
      obtain ⟨before, after, blank_before, blank_after, whole⟩ := trim_split value
      rw [trimmed] at whole
      rw [whole] at textual ⊢
      exact ⟨textual, .intro blank_before signed some_digit all_digits blank_after, below⟩
    case isFalse => cases read
  · rintro ⟨textual, @⟨before, sign, digits, after, blank_before, signed, some_digit, all_digits,
      blank_after⟩, below⟩
    have some_core : sign ++ digits ≠ [] := List.append_ne_nil_of_right_ne_nil sign some_digit
    have solid := solid_of_digits signed all_digits
    rw [length?, if_pos textual, trim_of_blanks blank_before some_core solid blank_after]
    exact (signedNumber?_eq_some_iff _ _).mpr
      ⟨sign, digits, rfl, signed, some_digit, all_digits, rfl, below⟩

/-- The text of a number is read as that number. -/
theorem length?_ofText_toString {n : Nat} (small : n < lengthLimit) :
    (ofText (toString n)).length? = some n := by
  obtain ⟨some_digit, all_digits, value⟩ := numeral_ofText_toString n
  have writes : Writes ([] ++ ([] ++ ofText (toString n)) ++ []) (numeral (ofText (toString n))) :=
    .intro rfl (.inl rfl) some_digit all_digits rfl
  rw [List.nil_append, List.nil_append, List.append_nil, value] at writes
  refine (length?_eq_some_iff _ n).mpr ⟨?_, writes, small⟩
  rw [List.all_eq_true] at all_digits ⊢
  intro b among
  have digit := (isDigit_iff b).mp (all_digits b among)
  simp only [isTextual, UInt8.le_iff_toNat_le, UInt8.lt_iff_toNat_lt, Bool.or_eq_true,
    Bool.and_eq_true, decide_eq_true_eq]
  exact .inl ⟨digit.1.trans' (by decide), digit.2.trans_lt (by decide)⟩

end Bytes

namespace Headers

/-- A field that is set has just the one value. -/
theorem values_set {name : String} (lower : name.toLower = name) (h : Headers) (value : Bytes) :
    (h.set name value).values name = [value] := by
  have others : ∀ entry ∈ h.entries.filter (fun entry => entry.1 != name),
      ¬(entry.1 == name) = true := by
    intro entry among
    have other := (List.mem_filter.mp among).2
    simpa using other
  rw [set, values, lower, List.filter_append, List.filter_eq_nil_iff.mpr others]
  simp

theorem declaredLength_of_none {h : Headers} (absent : h.values "content-length" = []) :
    h.declaredLength = (none, []) := by
  rw [declaredLength, get?, absent]
  rfl

theorem declaredLength_of_first {h : Headers} {value : Bytes} {more : List Bytes}
    (present : h.values "content-length" = value :: more) :
    h.declaredLength =
      (value.length?, if value.length? = none then [unreadableLength] else []) := by
  rw [declaredLength, get?, present]
  dsimp only [List.head?_cons]
  cases value.length? with
  | none => rfl
  | some n => rfl

/-- The first value of the field declares the number that it writes, and nothing else is ever
declared. There is one line to read if there is a value that declares nothing, and none otherwise.
Whatever fields there are, a length that is set as decimal text is read back. -/
theorem declaredLength_reads_first_value (h : Headers) :
    (∀ n, h.declaredLength.1 = some n ↔
      ∃ value more, h.values "content-length" = value :: more ∧
        value.all Bytes.isTextual = true ∧ value.Writes n ∧ n < 2 ^ 64) ∧
    h.declaredLength.2 =
      (if h.values "content-length" ≠ [] ∧ h.declaredLength.1 = none then [unreadableLength]
        else []) ∧
    ∀ n < 2 ^ 64,
      (h.set "content-length" (Bytes.ofText (toString n))).declaredLength = (some n, []) := by
  refine ⟨?_, ?_, ?_⟩
  · intro n
    cases present : h.values "content-length" with
    | nil => simp [declaredLength_of_none present]
    | cons value more =>
        have read := Bytes.length?_eq_some_iff value n
        rw [declaredLength_of_first present, read]
        constructor
        · intro writes
          exact ⟨value, more, rfl, writes⟩
        · rintro ⟨_, _, same, writes⟩
          obtain ⟨rfl, -⟩ := List.cons.inj same
          exact writes
  · cases present : h.values "content-length" with
    | nil => simp [declaredLength_of_none present]
    | cons value more => simp [declaredLength_of_first present]
  · intro n small
    have lower : "content-length".toLower = "content-length" := by decide +kernel
    have read := Bytes.length?_ofText_toString small
    rw [declaredLength_of_first (values_set lower h _), read]
    rfl

end Headers

namespace Bench

/-- Of two values the first counts, with its tab, its sign and its leading zeros. The largest length
can be set, and one more than that is not read. -/
theorem declaredLength_reads_first_value_signed :
    let fields : Headers := ⟨[("accept", [0x2A]),
      ("content-length", [0x09, 0x2B, 0x30, 0x37, 0x20]), ("content-length", [0x39])]⟩
    let beyond : Headers := ⟨[("content-length", Bytes.ofText "18446744073709551616")]⟩
    fields.declaredLength = (some 7, []) ∧
      Bytes.Writes [0x09, 0x2B, 0x30, 0x37, 0x20] 7 ∧
      (fields.set "content-length" (Bytes.ofText (toString 18446744073709551615))).declaredLength =
        (some 18446744073709551615, []) ∧
      beyond.declaredLength = (none, [unreadableLength]) := by
  intro fields beyond
  have declared : fields.declaredLength = (some 7, []) := by decide +kernel
  obtain ⟨reads, -, written⟩ := Headers.declaredLength_reads_first_value fields
  obtain ⟨value, more, present, -, writes, -⟩ := (reads 7).mp (congrArg Prod.fst declared)
  obtain ⟨rfl, -⟩ := List.cons.inj present
  exact ⟨declared, writes, written 18446744073709551615 (by decide), by decide +kernel⟩

end Bench

end HttpExchange
