import HttpExchange.Proofs.Lexing
import HttpExchange.Timeouts.Json

/-!
Timeouts that are saved as text and loaded again. The text is always read, and gives each span cut
down to whole milliseconds and to what 64 bits hold. What was cut down once stays as it is.
-/

namespace HttpExchange

namespace Duration

/-- What is left of a span that is saved: its whole milliseconds, as far as 64 bits hold them. -/
def saved (d : Duration) : Duration := .ofMilliseconds (min (d.nanoseconds / 10 ^ 6) (2 ^ 64 - 1))

variable {d : Duration}

theorem saved_eq (d : Duration) : d.saved = .ofMilliseconds (Timeouts.writtenMilliseconds d) := rfl

theorem milliseconds_ofMilliseconds (n : Nat) : (ofMilliseconds n).milliseconds = n :=
  Nat.mul_div_cancel n (by decide)

/-- A span of milliseconds that fit is saved as it is. -/
theorem saved_ofMilliseconds {n : Nat} (fits : n ≤ 2 ^ 64 - 1) :
    (ofMilliseconds n).saved = ofMilliseconds n := by
  have whole : (ofMilliseconds n).nanoseconds / 10 ^ 6 = n := milliseconds_ofMilliseconds n
  rw [saved, whole, Nat.min_eq_left fits]

theorem saved_eq_self_iff : d.saved = d ↔ ∃ n ≤ 2 ^ 64 - 1, d = ofMilliseconds n := by
  constructor
  · intro same
    exact ⟨_, Nat.min_le_right _ _, same.symm⟩
  · rintro ⟨n, fits, rfl⟩
    exact saved_ofMilliseconds fits

theorem saved_saved (d : Duration) : d.saved.saved = d.saved :=
  saved_ofMilliseconds (Nat.min_le_right _ _)

/-- Nothing is left of a span of less than a millisecond, and something of every other. -/
theorem nanoseconds_saved_eq_zero_iff :
    d.saved.nanoseconds = 0 ↔ d.nanoseconds < perMillisecond := by
  simp only [saved, ofMilliseconds, perMillisecond]
  omega

end Duration

namespace Timeouts

open Json
open Bytes (ofText)

/-- What is left of timeouts that are saved. -/
def saved (t : Timeouts) : Timeouts := ⟨t.write.saved, t.read.saved⟩

theorem writtenMilliseconds_lt (d : Duration) :
    writtenMilliseconds d < Decimal.significandLimit :=
  Nat.lt_of_le_of_lt (Nat.min_le_right _ _) (by decide)

theorem writtenMilliseconds_saved (d : Duration) :
    writtenMilliseconds d.saved = writtenMilliseconds d := by
  have twice := congrArg Duration.milliseconds d.saved_saved
  rwa [Duration.saved_eq, Duration.milliseconds_ofMilliseconds, Duration.saved_eq,
    Duration.milliseconds_ofMilliseconds] at twice

theorem ofText_toJson (t : Timeouts) :
    ofText t.toJson =
      0x7B :: quote :: (ofText writeKey ++ quote :: 0x3A ::
        (ofText (toString (writtenMilliseconds t.write)) ++ 0x2C :: quote ::
          (ofText readKey ++ quote :: 0x3A ::
            (ofText (toString (writtenMilliseconds t.read)) ++ [0x7D])))) := by
  have opening : ofText "\x7b\"" = [0x7B, quote] := (Bytes.ofText_eq _).trans rfl
  have behind_key : ofText "\":" = [quote, 0x3A] := (Bytes.ofText_eq _).trans rfl
  have between : ofText ",\"" = [0x2C, quote] := (Bytes.ofText_eq _).trans rfl
  have closing : ofText "\x7d" = [0x7D] := (Bytes.ofText_eq _).trans rfl
  simp only [toJson, Bytes.ofText_append, opening, behind_key, between, closing,
    List.append_assoc, List.cons_append, List.nil_append]

theorem tokens_toJson (t : Timeouts) :
    tokens (ofText t.toJson) =
      [.mark .openObject, .text (.ok writeKey), .mark .colon,
        .number (.ok (.natural (writtenMilliseconds t.write))), .mark .comma,
        .text (.ok readKey), .mark .colon,
        .number (.ok (.natural (writtenMilliseconds t.read))), .mark .closeObject] := by
  have comma (rest : Bytes) : EndsNumber (0x2C :: rest) := by
    rintro _ ⟨⟩
    decide
  have closed : EndsNumber [0x7D] := by
    rintro _ ⟨⟩
    decide
  rw [ofText_toJson, tokens_mark rfl rfl, tokens_text (by decide), tokens_mark rfl rfl,
    tokens_number (comma _) (writtenMilliseconds_lt _), tokens_mark rfl rfl,
    tokens_text (by decide), tokens_mark rfl rfl,
    tokens_number closed (writtenMilliseconds_lt _), tokens_mark rfl rfl, tokens]

section Fields

variable {f : Fields} {text : String} {key : Key} (named : Key.ofText text = key)
  (known : key ≠ .other) (fresh : f.has key = false) (n : Nat)
include named known fresh

omit named fresh in
theorem readFieldValue_natural (rest : List Token) :
    readFieldValue f key (.number (.ok (.natural n)) :: rest) =
      .ok (f.put (.ofMilliseconds n) key, rest) := by
  cases key with
  | other => cases known rfl
  | write | read => rfl

omit known in
theorem readKeyToken_of_fresh : readKeyToken f (.text (.ok text)) = .ok key := by
  simp [readKeyToken, named, fresh]

/-- A field that was not read before, with what stands behind it. -/
theorem readFields_field (behind : List Token) :
    readFields f (.text (.ok text) :: .mark .colon :: .number (.ok (.natural n)) :: behind) =
      match behind with
      | [] => .error .ended
      | .mark .comma :: rest => readFields (f.put (.ofMilliseconds n) key) rest
      | .mark .closeObject :: rest => finishText (f.put (.ofMilliseconds n) key).complete rest
      | _ :: _ => .error .malformed := by
  have value := readFieldValue_natural (f := f) known n behind
  rw [readFields, readKeyToken_of_fresh named fresh]
  dsimp only
  -- The match keeps the equation of its value, so it is split and compared with the known one.
  split
  case h_1 problem read => cases read.symm.trans value
  case h_2 read => cases read.symm.trans value; rfl
  case h_3 rest read => cases read.symm.trans value; rfl
  case h_4 rest read => cases read.symm.trans value; rfl
  case h_5 head rest no_comma no_close read =>
    cases read.symm.trans value
    split
    case h_1 next => cases next
    case h_2 next => cases next; cases no_comma rfl
    case h_3 next => cases next; cases no_close rfl
    case h_4 => rfl

end Fields

/-- What was saved is loaded. -/
theorem ofJson_toJson (t : Timeouts) : ofJson t.toJson = .ok t.saved := by
  have write_key : Key.ofText writeKey = .write := by decide
  have read_key : Key.ofText readKey = .read := by decide
  rw [ofJson, tokens_toJson]
  change readFields ⟨none, none⟩ _ = _
  rw [readFields_field write_key nofun rfl]
  dsimp only
  rw [readFields_field read_key nofun rfl]
  rfl

/-- Saved timeouts are always read again, each span cut down to whole milliseconds and to what 64
bits hold. They are the same as before exactly if both spans are whole numbers of milliseconds that
fit, and saved again they give the same text. -/
theorem saved_timeouts_load (t : Timeouts) :
    ofJson t.toJson = .ok t.saved ∧
      (t.saved = t ↔ (∃ n ≤ 2 ^ 64 - 1, t.write = .ofMilliseconds n) ∧
        ∃ n ≤ 2 ^ 64 - 1, t.read = .ofMilliseconds n) ∧
      t.saved.toJson = t.toJson := by
  refine ⟨ofJson_toJson t, ?_, ?_⟩
  · obtain ⟨write, read⟩ := t
    rw [saved, mk.injEq, Duration.saved_eq_self_iff, Duration.saved_eq_self_iff]
  · rw [toJson, toJson, saved, writtenMilliseconds_saved, writtenMilliseconds_saved]

example : (⟨.ofParts 1 500999999, .ofParts (2 ^ 64 - 1) 999999999⟩ : Timeouts).saved =
    ⟨.ofMilliseconds 1500, .ofMilliseconds (2 ^ 64 - 1)⟩ := by decide

end Timeouts

end HttpExchange
