import HttpExchange.Proofs.Metering

/-!
The account of a body, whatever is reported to it and in whatever order: chunks, failures and ends.
It counts just the bytes that it lets through, never more than the declared length, and of each
chunk it lets through as much as it can. One report at most closes it, and it is closed from then
on: it refuses every further report and stays as it is.
-/

namespace HttpExchange

/-- What is reported of a body to its account. -/
inductive BodyReport where
  | chunk (bytes : Bytes)
  | failure
  | completion
  deriving DecidableEq, Repr

/-- The answer to a report: what is let through of a chunk, if anything may be, or whether a
failure or completion is to be passed on. -/
inductive BodyReply where
  | admits (admission : Option Admission)
  | passesOn (isNews : Bool)
  deriving DecidableEq, Repr

namespace BodyReply

/-- The bytes that are let through. -/
def bytes : BodyReply → Bytes
  | admits (some admission) => admission.chunk
  | admits none | passesOn _ => []

/-- Whether the report was the one that ends the body. -/
def isTerminal : BodyReply → Bool
  | admits (some admission) => admission.reached
  | admits none => false
  | passesOn isNews => isNews

def isRefusal : BodyReply → Bool
  | admits admission => admission.isNone
  | passesOn isNews => !isNews

/-- A refusal lets nothing through and ends nothing. -/
theorem silent_of_isRefusal {reply : BodyReply} (refused : reply.isRefusal = true) :
    reply.bytes = [] ∧ reply.isTerminal = false := by
  cases reply with
  | admits admission =>
      cases admission with
      | none => exact ⟨rfl, rfl⟩
      | some => cases refused
  | passesOn isNews =>
      cases isNews with
      | false => exact ⟨rfl, rfl⟩
      | true => cases refused

end BodyReply

/-- The declared length, if there is one, leaves room for this many bytes. -/
def Allows (limit : Option Nat) (total : Nat) : Prop :=
  ∀ length, limit = some length → total ≤ length

/-- The longest beginning of `bytes` that is allowed. -/
structure LongestAllowed (isAllowed : Bytes → Prop) (bytes chunk : Bytes) : Prop where
  isPrefix : chunk <+: bytes
  allowed : isAllowed chunk
  longest : ∀ other, other <+: bytes → isAllowed other → other <+: chunk

namespace Allowance

variable {a : Allowance}

/-- An open account cuts a chunk to the room that is left, and is closed by one that fills it. -/
theorem accept_of_open (unfinished : a.done = false) (bytes : Bytes) :
    a.accept bytes = (some ⟨Room.cut a.remaining bytes, Room.isFilledBy a.remaining bytes⟩,
      { a with
        written := a.written + (Room.cut a.remaining bytes).length
        done := Room.isFilledBy a.remaining bytes }) := by
  simp only [accept, unfinished, Bool.false_eq_true, ↓reduceIte, reaches_eq]
  rfl

theorem cut_longestAllowed (within : Allows a.declared a.written) (bytes : Bytes) :
    LongestAllowed (fun part => Allows a.declared (a.written + part.length)) bytes
      (Room.cut a.remaining bytes) := by
  unfold Allows at *
  cases declared : a.declared with
  | none =>
      have whole : Room.cut a.remaining bytes = bytes := by
        simp [remaining, declared, Room.cut]
      rw [whole]
      refine ⟨List.prefix_rfl, ?_, ?_⟩
      · intro length same
        cases same
      · intro other among _
        exact among
  | some length =>
      have room : a.written ≤ length := within length declared
      have taken : Room.cut a.remaining bytes = bytes.take (length - a.written) := by
        simp [remaining, declared, Room.cut]
      rw [taken]
      refine ⟨List.take_prefix _ _, ?_, ?_⟩
      · intro limit same
        obtain rfl := Option.some.inj same
        rw [List.length_take]
        omega
      · intro other among allowed
        have short := allowed length rfl
        have shorter := among.length_le
        refine List.prefix_of_prefix_length_le among (List.take_prefix _ _) ?_
        rw [List.length_take]
        omega

/-- A chunk closes the account exactly if what is let through of it brings the total up to the
declared length. -/
theorem isFilledBy_iff (within : Allows a.declared a.written) (bytes : Bytes) :
    Room.isFilledBy a.remaining bytes = true ↔
      a.declared = some (a.written + (Room.cut a.remaining bytes).length) := by
  cases declared : a.declared with
  | none => simp [remaining, declared, Room.isFilledBy]
  | some length =>
      have room : a.written ≤ length := within length declared
      simp only [remaining, declared, Option.map_some, Room.isFilledBy, Option.any_some,
        decide_eq_true_eq, Room.cut, List.length_take, Option.some.injEq]
      omega

/-- Reports something of the body. A failure and the end differ only in who passes them on. -/
def report (a : Allowance) : BodyReport → BodyReply × Allowance
  | .chunk bytes => (.admits (a.accept bytes).1, (a.accept bytes).2)
  | .failure | .completion => (.passesOn a.close.1, a.close.2)

/-- The answers to reports made one after the other. -/
def replies (a : Allowance) : List BodyReport → List BodyReply
  | [] => []
  | report :: rest => (a.report report).1 :: (a.report report).2.replies rest

/-- The account behind these reports. -/
def afterAll (a : Allowance) (reports : List BodyReport) : Allowance :=
  reports.foldl (fun a report => (a.report report).2) a

theorem afterAll_concat (a : Allowance) (before : List BodyReport) (last : BodyReport) :
    a.afterAll (before ++ [last]) = ((a.afterAll before).report last).2 := by
  simp [afterAll]

theorem replies_concat (a : Allowance) (before : List BodyReport) (last : BodyReport) :
    a.replies (before ++ [last]) = a.replies before ++ [((a.afterAll before).report last).1] := by
  induction before generalizing a with
  | nil => rfl
  | cons report rest ih =>
      rw [List.cons_append, replies, replies, ih]
      rfl

/-- A closed account refuses a report and stays as it is. -/
theorem report_of_done (done : a.done = true) (report : BodyReport) :
    (a.report report).1.isRefusal = true ∧ (a.report report).2 = a := by
  obtain ⟨declared, written, _⟩ := a
  obtain rfl : _ = true := done
  cases report <;> exact ⟨rfl, rfl⟩

theorem replies_of_done (done : a.done = true) (later : List BodyReport) :
    (a.replies later).all BodyReply.isRefusal = true ∧ a.afterAll later = a := by
  induction later with
  | nil => exact ⟨rfl, rfl⟩
  | cons report rest ih =>
      obtain ⟨refused, same⟩ := report_of_done done report
      obtain ⟨refusals, kept⟩ := ih
      constructor
      · rw [replies, List.all_cons, refused, same, refusals]
        rfl
      · change (a.report report).2.afterAll rest = a
        rw [same, kept]

/-- An account that began with this declared length and has given these answers: what it has
written, and whether it is closed, is what the answers say. -/
structure Accounts (limit : Option Nat) (given : List BodyReply) (a : Allowance) : Prop where
  declared : a.declared = limit
  written : a.written = (given.flatMap BodyReply.bytes).length
  within : Allows limit a.written
  terminals : given.countP BodyReply.isTerminal = a.done.toNat

namespace Accounts

variable {limit : Option Nat} {given : List BodyReply}

theorem ofDeclared (limit : Option Nat) : Accounts limit [] (ofDeclared limit) :=
  ⟨rfl, rfl, fun _ _ => Nat.zero_le _, rfl⟩

/-- The account behind one more answer, from what this one adds to it. -/
theorem concat (accounts : Accounts limit given a) {reply : BodyReply} {next : Allowance}
    (declared : next.declared = a.declared)
    (written : next.written = a.written + reply.bytes.length)
    (within : Allows limit next.written)
    (terminal : next.done.toNat = a.done.toNat + reply.isTerminal.toNat) :
    Accounts limit (given ++ [reply]) next where
  declared := declared.trans accounts.declared
  written := by
    rw [written, accounts.written, List.flatMap_append, List.flatMap_singleton,
      List.length_append]
  within := within
  terminals := by
    rw [terminal, ← accounts.terminals, List.countP_append, List.countP_singleton]
    cases reply.isTerminal <;> rfl

/-- Every report keeps the account, whatever it is. -/
theorem report (accounts : Accounts limit given a) (report : BodyReport) :
    Accounts limit (given ++ [(a.report report).1]) (a.report report).2 := by
  cases unfinished : a.done with
  | true =>
      obtain ⟨refused, same⟩ := report_of_done unfinished report
      obtain ⟨silent, idle⟩ := BodyReply.silent_of_isRefusal refused
      rw [same]
      apply accounts.concat
      · rfl
      · rw [silent]
        rfl
      · exact accounts.within
      · rw [idle]
        rfl
  | false =>
      cases report with
      | chunk bytes =>
          have within : Allows a.declared a.written := accounts.declared ▸ accounts.within
          have fits := (cut_longestAllowed within bytes).allowed
          simp only [Allowance.report, accept_of_open unfinished]
          apply accounts.concat
          · rfl
          · rfl
          · exact accounts.declared ▸ fits
          · rw [unfinished]
            exact (Nat.zero_add _).symm
      | failure | completion =>
          simp only [Allowance.report, close, unfinished]
          apply accounts.concat
          · rfl
          · rfl
          · exact accounts.within
          · rw [unfinished]
            rfl

theorem afterAll (limit : Option Nat) (reports : List BodyReport) :
    Accounts limit ((Allowance.ofDeclared limit).replies reports)
      ((Allowance.ofDeclared limit).afterAll reports) := by
  induction reports using List.reverseRecOn with
  | nil => exact ofDeclared limit
  | append_singleton before last ih =>
      rw [replies_concat, afterAll_concat]
      exact ih.report last

/-- The account is closed exactly if one of its answers closed it. -/
theorem done_eq (accounts : Accounts limit given a) :
    a.done = given.any BodyReply.isTerminal := by
  have terminals := accounts.terminals
  cases closed : a.done with
  | true =>
      rw [closed] at terminals
      have some_terminal : 0 < given.countP BodyReply.isTerminal := by
        rw [terminals]
        exact Nat.one_pos
      exact (List.any_eq_true.mpr (List.countP_pos_iff.mp some_terminal)).symm
  | false =>
      rw [closed] at terminals
      have none_terminal := List.countP_eq_zero.mp terminals
      exact (List.any_eq_false.mpr none_terminal).symm

end Accounts

/-- Whatever has been reported to an account, it has written just the bytes that it let through,
never more than the declared length, and no count beyond what fits a length. At most one report has
ended the body, and the account is closed exactly from that one on. While it is open it lets
through the longest beginning of a chunk that the declared length has room for, and it passes on a
failure or the end. Once it is closed it refuses all reports and does not change. -/
theorem closes_once (limit : Option Nat) (reports : List BodyReport) :
    let account := (ofDeclared limit).afterAll reports
    let given := (ofDeclared limit).replies reports
    let admitted := (given.flatMap BodyReply.bytes).length
    (account.declared = limit ∧ account.written = admitted ∧ Allows limit account.written ∧
      ((∀ length, limit = some length → length < Bytes.lengthLimit) →
        (limit = none → admitted < Bytes.lengthLimit) → account.written < Bytes.lengthLimit)) ∧
    (given.countP BodyReply.isTerminal ≤ 1 ∧ account.done = given.any BodyReply.isTerminal) ∧
    (account.done = false →
      (∀ bytes, ∃ admission, (account.report (.chunk bytes)).1 = .admits (some admission) ∧
        LongestAllowed (fun part => Allows limit (account.written + part.length)) bytes
          admission.chunk ∧
        (admission.reached = true ↔ limit = some (account.written + admission.chunk.length))) ∧
      (account.report .failure).1 = .passesOn true ∧
      (account.report .completion).1 = .passesOn true) ∧
    (account.done = true → ∀ later,
      (account.replies later).all BodyReply.isRefusal = true ∧
        account.afterAll later = account) := by
  intro account given admitted
  have accounts : Accounts limit given account := .afterAll limit reports
  have written : account.written = admitted := accounts.written
  refine ⟨⟨accounts.declared, written, accounts.within, ?_⟩, ⟨?_, accounts.done_eq⟩, ?_, ?_⟩
  · intro declarable bounded
    cases declared : limit with
    | none =>
        rw [written]
        exact bounded declared
    | some length =>
        have within := accounts.within length declared
        have small := declarable length declared
        omega
  · rw [accounts.terminals]
    exact account.done.toNat_le
  · intro unfinished
    have within : Allows account.declared account.written := accounts.declared ▸ accounts.within
    refine ⟨?_, ?_, ?_⟩
    · intro bytes
      have answer := congrArg Prod.fst (accept_of_open unfinished bytes)
      have longest := cut_longestAllowed within bytes
      have filled := isFilledBy_iff within bytes
      rw [accounts.declared] at longest filled
      exact ⟨_, congrArg BodyReply.admits answer, longest, filled⟩
    · simp [Allowance.report, close, unfinished]
    · simp [Allowance.report, close, unfinished]
  · intro done later
    exact replies_of_done done later

end Allowance

namespace Bench

/-- Of a chunk that goes beyond the declared length the rest is cut off, and this closes the
account: the failure behind it is not passed on. -/
theorem closes_once_cut :
    let reports : List BodyReport := [.chunk [1, 2], .chunk [], .chunk [3, 4], .failure]
    let account := (Allowance.ofDeclared (some 3)).afterAll reports
    (Allowance.ofDeclared (some 3)).replies reports =
        [.admits (some ⟨[1, 2], false⟩), .admits (some ⟨[], false⟩),
          .admits (some ⟨[3], true⟩), .passesOn false] ∧
      account.written < Bytes.lengthLimit ∧ account.done = true ∧
      (account.replies [.chunk [5], .completion]).all BodyReply.isRefusal = true := by
  intro reports account
  obtain ⟨⟨-, -, -, bounded⟩, -, -, closed⟩ := Allowance.closes_once (some 3) reports
  have small : ∀ length, some 3 = some length → length < Bytes.lengthLimit := by
    intro length declared
    obtain rfl := Option.some.inj declared
    decide
  have done : account.done = true := by decide +kernel
  exact ⟨by decide +kernel, bounded small nofun, done, (closed done [.chunk [5], .completion]).1⟩

end Bench

end HttpExchange
