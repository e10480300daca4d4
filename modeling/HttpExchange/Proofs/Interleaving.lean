import HttpExchange.Task.Completion

/-!
A completion in many hands. Each of its operations is one step under a lock, and the steps of
the task, of its guard, of the exchange and of any number of cancellers come in any order. A
cancellation is two such steps: it settles the result, and only if that was in time it sends an
abort, before which anything may happen. The first settlement is the only one, and the abort
reaches the exchange once or not at all.
-/

namespace HttpExchange.Completion

/-- A step on a completion with its answer. The task and its guard settle, and so does a
canceller when it claims the result, before it sends its abort. -/
inductive Move where
  | settle (result : Result) (won : Bool)
  | claim (caller : Nat) (won : Bool)
  | abort (caller : Nat)
  | attach
  | detach
  | take (abort : Option Failure)
  deriving DecidableEq, Repr

namespace Move

/-- The result with which a step settled the completion of the execution `id`. -/
def win? (id : ExecutionId) : Move → Option Result
  | settle result true => some result
  | claim _ true => some (.failure (Failure.cancelled id).classify)
  | _ => none

def taken? : Move → Option Failure
  | take aborted => aborted
  | _ => none

/-- Whether a step decides where an abort goes. -/
def isSwitch : Move → Bool
  | abort _ | attach | detach => true
  | settle _ _ | claim _ _ | take _ => false

end Move

/-- The first step of a cancellation. -/
def claim (c : Completion) : Bool × Completion := c.complete (.failure c.cancellation.classify)

/-- The completion of the execution `id` after some steps, in the order in which they got the
lock. A canceller sends its abort once, and only after a claim that won; the task attaches at
most once, and later detaches at most once. -/
inductive Interleaved (id : ExecutionId) : List Move → Completion → Prop where
  | start : Interleaved id [] (fresh id)
  | settle {past : List Move} {c : Completion} (h : Interleaved id past c) (result : Result) :
    Interleaved id (past ++ [.settle result (c.complete result).1]) (c.complete result).2
  | claim {past : List Move} {c : Completion} (h : Interleaved id past c) (caller : Nat) :
    Interleaved id (past ++ [.claim caller c.claim.1]) c.claim.2
  | abort {past : List Move} {c : Completion} (h : Interleaved id past c) (caller : Nat)
    (won : .claim caller true ∈ past) (first : .abort caller ∉ past) :
    Interleaved id (past ++ [.abort caller]) (c.abort c.cancellation)
  | attach {past : List Move} {c : Completion} (h : Interleaved id past c)
    (first : .attach ∉ past) : Interleaved id (past ++ [.attach]) c.attach
  | detach {past : List Move} {c : Completion} (h : Interleaved id past c)
    (attached : .attach ∈ past) (first : .detach ∉ past) :
    Interleaved id (past ++ [.detach]) c.detach
  | take {past : List Move} {c : Completion} (h : Interleaved id past c) :
    Interleaved id (past ++ [.take c.takeAbort.1]) c.takeAbort.2

/-- The results of all settlements that won. -/
def wins (id : ExecutionId) (history : List Move) : List Result := history.filterMap (Move.win? id)

/-- All aborts that ever were in the queue. -/
def entered (history : List Move) (c : Completion) : List Failure :=
  history.filterMap Move.taken? ++ c.queue

/-- An abort was sent by a canceller that had won, when the task had not detached yet. -/
def SentInTime (history : List Move) : Prop :=
  ∃ caller past later, history = past ++ .abort caller :: later ∧
    .claim caller true ∈ past ∧ .detach ∉ past

/-- A cancellation is a claim and, if it won, the sending of its abort. -/
theorem cancel_eq_claim (c : Completion) :
    c.cancel = (c.claim.1, if c.claim.1 then c.claim.2.abort c.cancellation else c.claim.2) := by
  unfold cancel claim complete
  cases settled : c.isSettled <;> simp

/-- The one settlement that won gave the completion its result. -/
structure Ledger (id : ExecutionId) (history : List Move) (c : Completion) : Prop where
  execution : c.execution = id
  settled : c.isSettled = c.result.isSome
  wins : wins id history = c.result.toList
  rivals : ∀ first second, .claim first true ∈ history → .claim second true ∈ history →
    first = second

namespace Ledger

variable {id : ExecutionId} {history : List Move} {c : Completion}

/-- Nobody has won while the completion is open. -/
theorem unclaimed (h : Ledger id history c) (unsettled : c.isSettled = false) (caller : Nat) :
    .claim caller true ∉ history := by
  have none_yet : c.result = none := by
    rw [h.settled] at unsettled
    simpa using unsettled
  have none_won : Completion.wins id history = [] := by
    rw [h.wins, none_yet]
    rfl
  intro claimed
  have no_win := List.filterMap_eq_nil_iff.mp none_won _ claimed
  cases no_win

/-- A step that settles nothing. -/
theorem quiet (h : Ledger id history c) {move : Move} {next : Completion}
    (lost : move.win? id = none) (execution : next.execution = c.execution)
    (settled : next.isSettled = c.isSettled) (result : next.result = c.result) :
    Ledger id (history ++ [move]) next where
  execution := execution.trans h.execution
  settled := by rw [settled, result, h.settled]
  wins := by
    rw [Completion.wins, List.filterMap_append, result, ← h.wins]
    simp [Completion.wins, lost]
  rivals first second one other := by
    have not_new (caller : Nat) : Move.claim caller true ≠ move := by
      rintro rfl
      cases lost
    simp only [List.mem_append, List.mem_singleton, not_new, or_false] at one other
    exact h.rivals first second one other

/-- A settlement wins exactly if the completion was open, and then its result is the one. -/
theorem complete (h : Ledger id history c) (result : Result) {move : Move}
    (lost : (c.complete result).1 = false → move.win? id = none)
    (won : (c.complete result).1 = true → move.win? id = some result) :
    Ledger id (history ++ [move]) (c.complete result).2 := by
  cases settled : c.isSettled with
  | true =>
      have refused : c.complete result = (false, c) := by simp [Completion.complete, settled]
      rw [refused] at lost ⊢
      exact h.quiet (lost rfl) rfl rfl rfl
  | false =>
      have accepted : c.complete result =
          (true, { c with isSettled := true, result := some result }) := by
        simp [Completion.complete, settled]
      have none_before := h.unclaimed settled
      rw [accepted] at won ⊢
      have none_yet : c.result = none := by
        have unsettled := h.settled
        rw [settled] at unsettled
        simpa using unsettled.symm
      refine ⟨h.execution, rfl, ?_, ?_⟩
      · have wins := h.wins
        rw [none_yet] at wins
        simp only [Completion.wins, List.filterMap_append] at wins ⊢
        rw [wins]
        simp [won rfl]
      · intro first second one other
        rw [List.mem_append, List.mem_singleton] at one other
        have one := one.resolve_left (none_before first)
        have other := other.resolve_left (none_before second)
        rw [← one] at other
        cases other
        rfl

end Ledger

theorem sentInTime_concat {history : List Move} {move : Move} :
    SentInTime (history ++ [move]) ↔ SentInTime history ∨
      ∃ caller, move = .abort caller ∧ .claim caller true ∈ history ∧ .detach ∉ history := by
  constructor
  · rintro ⟨caller, past, later, split, won, attached⟩
    rcases List.eq_nil_or_concat later with rfl | ⟨later, last, rfl⟩
    · obtain ⟨rfl, same⟩ := List.append_inj' split rfl
      exact .inr ⟨caller, List.singleton_inj.mp same, won, attached⟩
    · rw [List.concat_eq_append, ← List.cons_append, ← List.append_assoc] at split
      obtain ⟨rfl, _⟩ := List.append_inj' split rfl
      exact .inl ⟨caller, past, later, rfl, won, attached⟩
  · rintro (⟨caller, past, later, rfl, won, attached⟩ | ⟨caller, rfl, won, attached⟩)
    · exact ⟨caller, past, later ++ [move], by simp, won, attached⟩
    · exact ⟨caller, history, [], rfl, won, attached⟩

theorem not_sentInTime {history : List Move} (unsent : ∀ caller, .abort caller ∉ history) :
    ¬SentInTime history := by
  rintro ⟨caller, past, later, rfl, _, _⟩
  exact unsent caller (by simp)

theorem entered_of_untaken {history : List Move} {move : Move} {c : Completion}
    (untaken : move.taken? = none) : entered (history ++ [move]) c = entered history c := by
  simp [entered, untaken]

theorem entered_queued (history : List Move) (c : Completion) (aborted : Failure) :
    entered history { c with queue := c.queue ++ [aborted] } = entered history c ++ [aborted] := by
  simp [entered]

/-- Where the abort of a cancellation is: not sent, parked, or sent to the queue of the leased
connection, unless the connection was handed back before. -/
inductive Passage (id : ExecutionId) (history : List Move) (c : Completion) : Prop where
  | unleased (slot : c.slot = .unleased) (unattached : .attach ∉ history)
    (undetached : .detach ∉ history) (unsent : ∀ caller, .abort caller ∉ history)
    (entered : entered history c = [])
  | parked (slot : c.slot = .parked (.cancelled id)) (unattached : .attach ∉ history)
    (undetached : .detach ∉ history) (sent : SentInTime history) (entered : entered history c = [])
  | open (slot : c.slot = .leased) (attached : .attach ∈ history)
    (undetached : .detach ∉ history) (unsent : ∀ caller, .abort caller ∉ history)
    (entered : entered history c = [])
  | reached (slot : c.slot = .leased ∨ c.slot = .released) (attached : .attach ∈ history)
    (sent : SentInTime history) (entered : entered history c = [.cancelled id])
  | missed (slot : c.slot = .released) (attached : .attach ∈ history)
    (detached : .detach ∈ history) (unsent : ¬SentInTime history)
    (entered : entered history c = [])

namespace Passage

variable {id : ExecutionId} {history : List Move} {c next : Completion} {move : Move}

/-- A step that neither sends an abort nor attaches nor detaches. -/
theorem quiet (h : Passage id history c) (still : move.isSwitch = false)
    (slot : next.slot = c.slot)
    (same : Completion.entered (history ++ [move]) next = Completion.entered history c) :
    Passage id (history ++ [move]) next := by
  have kept {other : Move} (switch : other.isSwitch = true) :
      other ∈ history ++ [move] ↔ other ∈ history := by
    have different : other ≠ move := by
      rintro rfl
      rw [still] at switch
      cases switch
    simp [different]
  have sent : SentInTime (history ++ [move]) ↔ SentInTime history := by
    rw [sentInTime_concat]
    refine or_iff_left ?_
    rintro ⟨caller, rfl, _⟩
    cases still
  cases h with
  | unleased was unattached undetached unsent entered =>
      refine .unleased (slot.trans was) ?_ ?_ (fun caller => ?_) (same.trans entered)
      · rwa [kept rfl]
      · rwa [kept rfl]
      · rw [kept rfl]
        exact unsent caller
  | parked was unattached undetached was_sent entered =>
      refine .parked (slot.trans was) ?_ ?_ (sent.mpr was_sent) (same.trans entered)
      · rwa [kept rfl]
      · rwa [kept rfl]
  | «open» was attached undetached unsent entered =>
      refine .open (slot.trans was) ?_ ?_ (fun caller => ?_) (same.trans entered)
      · rwa [kept rfl]
      · rwa [kept rfl]
      · rw [kept rfl]
        exact unsent caller
  | reached was attached was_sent entered =>
      refine .reached (by rwa [slot]) ?_ (sent.mpr was_sent) (same.trans entered)
      rwa [kept rfl]
  | missed was attached detached unsent entered =>
      refine .missed (slot.trans was) ?_ ?_ (by rwa [sent]) (same.trans entered)
      · rwa [kept rfl]
      · rwa [kept rfl]

/-- The abort goes wherever the slot says; there is only one. -/
theorem abort (h : Passage id history c) (execution : c.execution = id) {caller : Nat}
    (won : .claim caller true ∈ history) (unsent : ∀ other, .abort other ∉ history) :
    Passage id (history ++ [.abort caller]) (c.abort c.cancellation) := by
  have cancelled : c.cancellation = .cancelled id := by rw [cancellation, execution]
  have in_time (undetached : Move.detach ∉ history) : SentInTime (history ++ [.abort caller]) :=
    sentInTime_concat.mpr (.inr ⟨caller, rfl, won, undetached⟩)
  rw [cancelled]
  cases h with
  | unleased slot unattached undetached _ entered =>
      have parked : c.abort (.cancelled id) = { c with slot := .parked (.cancelled id) } := by
        simp [Completion.abort, slot]
      rw [parked]
      refine .parked rfl ?_ ?_ (in_time undetached) ?_
      · simpa using unattached
      · simpa using undetached
      · rw [entered_of_untaken rfl]
        exact entered
  | parked _ _ _ sent _ | reached _ _ sent _ => exact absurd sent (not_sentInTime unsent)
  | «open» slot attached undetached _ entered =>
      have queued : c.abort (.cancelled id) = { c with queue := c.queue ++ [.cancelled id] } := by
        simp [Completion.abort, slot]
      rw [queued]
      refine .reached (.inl slot) (List.mem_append_left _ attached) (in_time undetached) ?_
      rw [entered_of_untaken rfl, entered_queued, entered]
      rfl
  | missed slot attached detached unsent entered =>
      have ignored : c.abort (.cancelled id) = c := by simp [Completion.abort, slot]
      rw [ignored]
      refine .missed slot (List.mem_append_left _ attached) (List.mem_append_left _ detached) ?_ ?_
      · rw [sentInTime_concat]
        rintro (sent | ⟨_, _, _, undetached⟩)
        · exact unsent sent
        · exact undetached detached
      · rw [entered_of_untaken rfl, entered]

/-- Attaching delivers the abort that was parked. -/
theorem attach (h : Passage id history c) (first : .attach ∉ history) :
    Passage id (history ++ [.attach]) c.attach := by
  have attached : Move.attach ∈ history ++ [.attach] := by simp
  cases h with
  | unleased slot _ undetached unsent entered =>
      have leased : c.attach = { c with slot := .leased } := by simp [Completion.attach, slot]
      rw [leased]
      refine .open rfl attached (by simpa using undetached) (by simpa using unsent) ?_
      rw [entered_of_untaken rfl]
      exact entered
  | parked slot _ undetached sent entered =>
      have delivered : c.attach =
          { c with slot := .leased, queue := c.queue ++ [.cancelled id] } := by
        simp [Completion.attach, slot]
      rw [delivered]
      refine .reached (.inl rfl) attached (sentInTime_concat.mpr (.inl sent)) ?_
      rw [entered_of_untaken rfl]
      have queued := entered_queued history c (.cancelled id)
      rw [entered] at queued
      exact queued
  | «open» _ attached _ _ _ | reached _ attached _ _ | missed _ attached _ _ _ =>
      exact absurd attached first

theorem detach (h : Passage id history c) (attached : .attach ∈ history)
    (first : .detach ∉ history) : Passage id (history ++ [.detach]) c.detach := by
  have sent_iff : SentInTime (history ++ [.detach]) ↔ SentInTime history := by
    rw [sentInTime_concat]
    exact or_iff_left (by rintro ⟨_, other, _⟩; cases other)
  have still_attached : Move.attach ∈ history ++ [.detach] := List.mem_append_left _ attached
  cases h with
  | unleased _ unattached _ _ _ | parked _ unattached _ _ _ => exact absurd attached unattached
  | «open» slot _ _ unsent entered =>
      refine .missed rfl still_attached (by simp) ?_ ?_
      · rw [sent_iff]
        exact not_sentInTime unsent
      · rw [entered_of_untaken rfl]
        exact entered
  | reached slot _ sent entered =>
      refine .reached (.inr rfl) still_attached (sent_iff.mpr sent) ?_
      rw [entered_of_untaken rfl]
      exact entered
  | missed _ _ detached _ _ => exact absurd detached first

end Passage

namespace Interleaved

variable {id : ExecutionId} {history : List Move} {c : Completion}

theorem sender_won (h : Interleaved id history c) {caller : Nat}
    (sent : .abort caller ∈ history) : .claim caller true ∈ history := by
  induction h with
  | start => cases sent
  | abort h other won first ih =>
      rcases List.mem_append.mp sent with before | now
      · exact List.mem_append_left _ (ih before)
      · obtain rfl : caller = other := by simpa using now
        exact List.mem_append_left _ won
  | settle _ _ ih | claim _ _ ih | attach _ _ ih | detach _ _ _ ih | take _ ih =>
      exact List.mem_append_left _ (ih (by simpa using sent))

theorem ledger (h : Interleaved id history c) : Ledger id history c := by
  induction h with
  | start => exact ⟨rfl, rfl, rfl, fun first second one => by cases one⟩
  | settle h result ih =>
      exact ih.complete result (fun lost => by rw [lost]; rfl) (fun won => by rw [won]; rfl)
  | @claim past c h caller ih =>
      refine ih.complete _ (fun lost => ?_) (fun won => ?_)
      · rw [Completion.claim, lost]
        rfl
      · rw [Completion.claim, won, cancellation, ih.execution]
        rfl
  | @abort past c h caller won first ih =>
      have untouched (failure : Failure) : (c.abort failure).execution = c.execution ∧
          (c.abort failure).isSettled = c.isSettled ∧ (c.abort failure).result = c.result := by
        unfold Completion.abort
        split <;> exact ⟨rfl, rfl, rfl⟩
      obtain ⟨execution, settled, result⟩ := untouched c.cancellation
      exact ih.quiet rfl execution settled result
  | @attach past c h first ih =>
      have untouched : c.attach.execution = c.execution ∧
          c.attach.isSettled = c.isSettled ∧ c.attach.result = c.result := by
        unfold Completion.attach
        split <;> exact ⟨rfl, rfl, rfl⟩
      exact ih.quiet rfl untouched.1 untouched.2.1 untouched.2.2
  | detach h attached first ih => exact ih.quiet rfl rfl rfl rfl
  | @take past c h ih =>
      have untouched : c.takeAbort.2.execution = c.execution ∧
          c.takeAbort.2.isSettled = c.isSettled ∧ c.takeAbort.2.result = c.result := by
        unfold takeAbort
        split <;> exact ⟨rfl, rfl, rfl⟩
      exact ih.quiet rfl untouched.1 untouched.2.1 untouched.2.2

/-- Only one canceller ever has an abort to send. -/
theorem unsent_of_first (h : Interleaved id history c) {caller : Nat}
    (won : .claim caller true ∈ history) (first : .abort caller ∉ history) (other : Nat) :
    .abort other ∉ history := by
  intro sent
  have same := h.ledger.rivals other caller (h.sender_won sent) won
  rw [same] at sent
  exact first sent

theorem passage (h : Interleaved id history c) : Passage id history c := by
  have completed {past : List Move} {c : Completion} (ih : Passage id past c) (move : Move)
      (result : Result) (still : move.isSwitch = false) (untaken : move.taken? = none) :
      Passage id (past ++ [move]) (c.complete result).2 := by
    have untouched : (c.complete result).2.slot = c.slot ∧
        (c.complete result).2.queue = c.queue := by
      unfold complete
      split <;> exact ⟨rfl, rfl⟩
    refine ih.quiet still untouched.1 ?_
    rw [entered_of_untaken untaken, entered, untouched.2]
    rfl
  induction h with
  | start => exact .unleased rfl (by simp) (by simp) (by simp) rfl
  | settle h result ih => exact completed ih _ result rfl rfl
  | claim h caller ih => exact completed ih _ _ rfl rfl
  | abort h caller won first ih =>
      exact ih.abort h.ledger.execution won (h.unsent_of_first won first)
  | attach h first ih => exact ih.attach first
  | detach h attached first ih => exact ih.detach attached first
  | @take past c h ih =>
      cases queue : c.queue with
      | nil =>
          have nothing : c.takeAbort = (none, c) := by simp [takeAbort, queue]
          rw [nothing]
          exact ih.quiet rfl rfl (entered_of_untaken rfl)
      | cons aborted rest =>
          have taken : c.takeAbort = (some aborted, { c with queue := rest }) := by
            simp [takeAbort, queue]
          rw [taken]
          refine ih.quiet rfl rfl ?_
          simp [entered, Move.taken?, queue]

end Interleaved

/-- In whatever order the task, its guard, the exchange and any number of cancellers get at a
completion, at most one settlement wins, and the future yields its result; from then on every
completion and every cancellation is refused and changes nothing. An abort enters the queue of
the connection once or never: exactly if a cancellation won and sent its abort before the task
detached, and the task attached, before or after. -/
theorem one_settlement_and_one_abort {id : ExecutionId} {history : List Move} {c : Completion}
    (h : Interleaved id history c) :
    wins id history = c.await.toList ∧ (wins id history).length ≤ 1 ∧
    (wins id history ≠ [] →
      (∀ result, c.complete result = (false, c)) ∧ c.cancel = (false, c)) ∧
    (entered history c).length ≤ 1 ∧
    (entered history c = [.cancelled id] ↔ SentInTime history ∧ .attach ∈ history) ∧
    (entered history c = [] ↔ ¬(SentInTime history ∧ .attach ∈ history)) := by
  have ledger := h.ledger
  have awaited : c.await = c.result := by
    unfold await
    cases result : c.result with
    | some result => rfl
    | none =>
        have unsettled : c.isSettled = false := by rw [ledger.settled, result]; rfl
        simp [unsettled]
  have all_wins : wins id history = c.await.toList := by rw [awaited, ledger.wins]
  have one_win : (wins id history).length ≤ 1 := by
    rw [all_wins]
    cases c.await <;> simp
  have refused (won : wins id history ≠ []) (result : Result) :
      c.complete result = (false, c) := by
    have settled : c.isSettled = true := by
      rw [ledger.settled, Option.isSome_iff_ne_none]
      intro none_yet
      rw [ledger.wins, none_yet] at won
      exact won rfl
    simp [complete, settled]
  have uncancelled (won : wins id history ≠ []) : c.cancel = (false, c) := by
    have lost : c.claim = (false, c) := refused won _
    rw [cancel_eq_claim, lost]
    rfl
  have abort : entered history c = [.cancelled id] ∧ SentInTime history ∧ .attach ∈ history ∨
      entered history c = [] ∧ ¬(SentInTime history ∧ .attach ∈ history) := by
    cases h.passage with
    | unleased _ unattached _ _ entered | parked _ unattached _ _ entered =>
        exact .inr ⟨entered, fun both => unattached both.2⟩
    | «open» _ _ _ unsent entered =>
        exact .inr ⟨entered, fun both => not_sentInTime unsent both.1⟩
    | reached _ attached sent entered => exact .inl ⟨entered, sent, attached⟩
    | missed _ _ _ unsent entered => exact .inr ⟨entered, fun both => unsent both.1⟩
  refine ⟨all_wins, one_win, fun won => ⟨refused won, uncancelled won⟩, ?_⟩
  rcases abort with ⟨one, both⟩ | ⟨none_entered, missing⟩
  · rw [one]
    exact ⟨Nat.le_refl 1, iff_of_true rfl both,
      iff_of_false (List.cons_ne_nil _ _) (not_not_intro both)⟩
  · rw [none_entered]
    exact ⟨Nat.zero_le 1, iff_of_false (List.cons_ne_nil _ _).symm missing, iff_of_true rfl missing⟩

/-- The task attaches between the two steps of a cancellation, loses, and detaches after them. -/
theorem one_settlement_and_one_abort_attaching :
    let history : List Move :=
      [.claim 0 true, .attach, .claim 1 false, .abort 0, .settle .success false, .detach]
    let c : Completion :=
      ⟨1, true, some (.failure (Failure.cancelled 1).classify), .released, [.cancelled 1]⟩
    Interleaved 1 history c ∧ wins 1 history = c.await.toList ∧
      entered history c = [.cancelled 1] := by
  intro history c
  have claimed : Interleaved 1 [.claim 0 true] (fresh 1).claim.2 := .claim .start 0
  have attached := claimed.attach (by decide)
  have lost := attached.claim 1
  have sent := lost.abort 0 (by decide) (by decide)
  have settled := sent.settle .success
  have all : Interleaved 1 history c := settled.detach (by decide) (by decide)
  obtain ⟨wins, _, _, _, entered, _⟩ := one_settlement_and_one_abort all
  refine ⟨all, wins, entered.mpr ⟨?_, by decide⟩⟩
  exact ⟨0, [.claim 0 true, .attach, .claim 1 false], [.settle .success false, .detach], rfl,
    by decide, by decide⟩

end HttpExchange.Completion
