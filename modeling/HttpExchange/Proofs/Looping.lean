import Mathlib.Logic.Relation

/-!
Loops told by their rounds. A round comes either to another round or to a result. If a round that
is followed by another one lowers a rank, every loop ends, after at most one round more than the
rank it begins with. What every round keeps holds wherever a loop comes by, and of its result.
-/

namespace HttpExchange

/-- What a round of a loop comes to: another round, or a result. -/
inductive Round (α β : Type) where
  | again (next : α)
  | last (result : β)

namespace Round

variable {α β γ δ : Type}

/-- What comes out in the end, if it is known what comes out of the next round. -/
def settle (value : α → β) : Round α β → β
  | again next => value next
  | last result => result

/-- A round of a loop within another loop, which uses the result once there is one. -/
def within (inside : α → γ) (use : β → Round γ δ) : Round α β → Round γ δ
  | again next => again (inside next)
  | last result => use result

/-- What holds of the next point, if there is one, and otherwise of the result. -/
def Leads (Goes : α → Prop) (Ends : β → Prop) : Round α β → Prop
  | again next => Goes next
  | last result => Ends result

theorem Leads.within {Goes : α → Prop} {Ends : β → Prop} {Further : γ → Prop} {Final : δ → Prop}
    {turn : Round α β} (h : turn.Leads Goes Ends) {inside : α → γ} {use : β → Round γ δ}
    (goes : ∀ next, Goes next → Further (inside next))
    (ends : ∀ result, Ends result → (use result).Leads Further Final) :
    (turn.within inside use).Leads Further Final := by
  cases turn with
  | again next => exact goes next h
  | last result => exact ends result h

end Round

/-- From a point on, a loop makes this many rounds and comes to this result. -/
inductive Loops {α β : Type} (round : α → Round α β) : α → Nat → β → Prop where
  | last {point : α} {result : β} (ends : round point = .last result) : Loops round point 1 result
  | again {point next : α} {rounds : Nat} {result : β} (goesOn : round point = .again next)
      (later : Loops round next rounds result) : Loops round point (rounds + 1) result

namespace Loops

variable {α β γ δ : Type} {round : α → Round α β}

/-- A loop whose rounds lower a rank ends with the value that its rounds keep. -/
theorem of_rank {rank : α → Nat} {value : α → β}
    (lowers : ∀ point next, round point = .again next → rank next < rank point)
    (keeps : ∀ point, value point = (round point).settle value) (point : α) :
    ∃ rounds, Loops round point rounds (value point) ∧ rounds ≤ rank point + 1 := by
  -- A round may lower the rank by more than one, as an end marker does.
  induction bound : rank point using Nat.strongRecOn generalizing point with
  | ind _ ih =>
      subst bound
      rw [keeps]
      cases turn : round point with
      | last result => exact ⟨1, .last turn, by omega⟩
      | again next =>
          have lower := lowers point next turn
          obtain ⟨rounds, loops, few⟩ := ih (rank next) lower next rfl
          exact ⟨rounds + 1, .again turn loops, by omega⟩

variable {use : β → Round γ δ} {point : α} {rounds : Nat} {result : β}
  (outer : γ → Round γ δ) (inside : α → γ) (loops : Loops round point rounds result)
  (inner : ∀ point, outer (inside point) = (round point).within inside use)

include loops inner

/-- A loop within a loop, whose result is the last thing needed. -/
theorem within_last {final : δ} (used : use result = .last final) :
    Loops outer (inside point) rounds final := by
  induction loops with
  | last ends =>
      apply Loops.last
      rw [inner, ends]
      exact used
  | again goesOn later ih =>
      refine .again ?_ (ih used)
      rw [inner, goesOn]
      rfl

/-- A loop within a loop that goes on with its result. -/
theorem within_again {next : γ} {more : Nat} {final : δ} (used : use result = .again next)
    (later : Loops outer next more final) :
    Loops outer (inside point) (rounds + more) final := by
  induction loops with
  | last ends =>
      rw [Nat.add_comm]
      refine .again ?_ later
      rw [inner, ends]
      exact used
  | again goesOn _ ih =>
      rw [Nat.add_right_comm]
      refine .again ?_ (ih used)
      rw [inner, goesOn]
      rfl

end Loops

section Visits

variable {α β : Type}

/-- A loop that begins at the first point comes by the second. -/
def Visits (round : α → Round α β) : α → α → Prop :=
  Relation.ReflTransGen fun point next => round point = .again next

variable {round : α → Round α β} {Holds : α → Prop} {Ends : β → Prop}
  (steps : ∀ point, Holds point → (round point).Leads Holds Ends) {start : α} (begins : Holds start)

include steps begins

/-- What every round keeps holds wherever the loop comes by. -/
theorem Visits.keeps {point : α} (visits : Visits round start point) : Holds point := by
  induction visits with
  | refl => exact begins
  | tail _ goesOn ih =>
      have leads := steps _ ih
      rw [goesOn] at leads
      exact leads

theorem Loops.keeps {rounds : Nat} {result : β} (loops : Loops round start rounds result) :
    Ends result := by
  induction loops with
  | last ends =>
      have leads := steps _ begins
      rw [ends] at leads
      exact leads
  | again goesOn later ih =>
      have leads := steps _ begins
      rw [goesOn] at leads
      exact ih leads

end Visits

end HttpExchange
