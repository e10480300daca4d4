import HttpExchange.Failure.Fault
import Mathlib.Data.List.Infix

/-!
What becomes of a failure when it is put into a category. The failure stays as it is under the
fault, and whoever follows the fault down to what lies under it, and under that, meets the texts of
the failure one by one as if it had not been classified, behind the one text of the category if that
has a text. What a pool says about itself by the kind of its error it can also say by the message:
the messages that go with two of the kinds are recognised under the generic kinds as well.
-/

namespace HttpExchange

/-- Whether a text has another one in it, at whatever position. -/
def Mentions (text part : String) : Prop := ∃ before after, text = before ++ part ++ after

theorem occursIn_iff_infix (needle text : List Char) :
    occursIn needle text = true ↔ needle <:+: text := by
  induction text with
  | nil => rw [occursIn, List.isEmpty_iff, List.infix_nil]
  | cons c rest ih =>
      rw [occursIn, Bool.or_eq_true, List.isPrefixOf_iff_prefix, ih, List.infix_cons_iff]

namespace LeaseError

theorem mentions_iff (e : LeaseError) (marker : String) :
    e.mentions marker = true ↔ Mentions e.message marker := by
  rw [mentions, occursIn_iff_infix]
  constructor
  · rintro ⟨before, after, whole⟩
    refine ⟨String.ofList before, String.ofList after, String.toList_injective ?_⟩
    simpa using whole.symm
  · rintro ⟨before, after, whole⟩
    refine ⟨before.toList, after.toList, ?_⟩
    rw [whole]
    simp

theorem isTimeout_iff (e : LeaseError) :
    e.isTimeout = true ↔
      e.kind = .acquireTimeout ∨
        e.kind = .timeout ∧ Mentions e.message "Acquire operation took longer" := by
  rw [← e.mentions_iff, isTimeout]
  cases e.kind <;> simp [timeoutMarker]

theorem isSaturation_iff (e : LeaseError) :
    e.isSaturation = true ↔
      e.kind = .tooManyPending ∨
        e.kind = .illegalState ∧ Mentions e.message "Too many outstanding acquire operations" := by
  rw [← e.mentions_iff, isSaturation]
  cases e.kind <;> simp [saturationMarker]

/-- Kinds and messages for a timeout and for too many requests exclude each other. -/
theorem not_isSaturation_of_isTimeout {e : LeaseError} (timeout : e.isTimeout = true) :
    e.isSaturation = false := by
  rw [isTimeout] at timeout
  rw [isSaturation]
  cases kind : e.kind <;> simp [kind] at timeout ⊢

theorem acquireTimeout_mentions (waited : Duration) :
    Mentions (acquireTimeout waited).message "Acquire operation took longer" := by
  refine ⟨"", " than " ++ toString waited.milliseconds ++ " milliseconds.", ?_⟩
  have beginning : "Acquire operation took longer than " =
      "" ++ "Acquire operation took longer" ++ " than " := by decide +kernel
  change "Acquire operation took longer than " ++ _ ++ _ = _
  rw [beginning]
  simp only [String.append_assoc]

theorem tooManyPending_mentions (most : Nat) :
    Mentions (tooManyPending most).message "Too many outstanding acquire operations" := by
  refine ⟨"", " (max " ++ toString most ++ ")", ?_⟩
  have beginning : "Too many outstanding acquire operations (max " =
      "" ++ "Too many outstanding acquire operations" ++ " (max " := by decide +kernel
  change "Too many outstanding acquire operations (max " ++ _ ++ _ = _
  rw [beginning]
  simp only [String.append_assoc]

end LeaseError

/-- An error that is met on the way down from a fault. -/
inductive ErrorLink where
  | fault (fault : Fault)
  | failure (failure : Failure)
  | net (error : NetError)
  | foreign (error : ForeignError)
  deriving DecidableEq, Repr

namespace ErrorLink

def text : ErrorLink → String
  | fault f => f.text
  | failure f => f.text
  | net error => error.text
  | foreign error => error.message

/-- A lease error and a network error that ended an execution have no place of their own on the way:
what lies under them lies under the failure. -/
def belowFailure? : Failure → Option ErrorLink
  | .lease error =>
    match error.source with
    | none => none
    | some (.net error) => some (net error)
    | some (.foreign error) => some (foreign error)
  | .writeFailed error => some (net error)
  | .body error => some (foreign error)
  | .writeIdle _ | .readIdle _ | .unknownProtocol _ | .net _ | .cancelled _ | .abandoned => none

/-- The error directly under another one, if there is one. -/
def below? : ErrorLink → Option ErrorLink
  | fault f => if f.category = .other then belowFailure? f.cause else some (failure f.cause)
  | failure f => belowFailure? f
  | net _ => none
  | foreign error =>
    match error.causes with
    | [] => none
    | message :: causes => some (foreign ⟨message, causes⟩)

/-- The texts met on the way down from an error, its own first. -/
inductive Chain : ErrorLink → List String → Prop
  | last {link : ErrorLink} (bottom : link.below? = none) : Chain link [link.text]
  | above {link below : ErrorLink} {texts : List String} (next : link.below? = some below)
      (rest : Chain below texts) : Chain link (link.text :: texts)

theorem Chain.unique {link : ErrorLink} {first second : List String} (one : Chain link first)
    (other : Chain link second) : first = second := by
  induction one generalizing second with
  | last bottom =>
      cases other with
      | last => rfl
      | above next => rw [bottom] at next; cases next
  | above next rest ih =>
      cases other with
      | last bottom => rw [next] at bottom; cases bottom
      | above again more =>
          rw [next] at again
          obtain rfl := Option.some.inj again
          exact congrArg _ (ih more)

theorem chain_iff {link : ErrorLink} {texts : List String} (chain : Chain link texts)
    (other : List String) : Chain link other ↔ other = texts :=
  ⟨fun also => also.unique chain, fun same => same ▸ chain⟩

theorem chain_foreign (error : ForeignError) : Chain (foreign error) error.texts := by
  obtain ⟨message, causes⟩ := error
  induction causes generalizing message with
  | nil => exact .last rfl
  | cons next causes ih => exact .above rfl (ih next)

theorem chain_net (error : NetError) : Chain (net error) [error.text] := .last rfl

theorem chain_failure (f : Failure) : Chain (failure f) f.chain := by
  cases f with
  | lease error =>
      obtain ⟨kind, message, source⟩ := error
      cases source with
      | none => exact .last rfl
      | some source =>
          cases source with
          | net error => exact .above rfl (chain_net error)
          | foreign error => exact .above rfl (chain_foreign error)
  | writeFailed error => exact .above rfl (chain_net error)
  | body error => exact .above rfl (chain_foreign error)
  | writeIdle _ | readIdle _ | unknownProtocol _ | net _ | cancelled _ | abandoned =>
      exact .last rfl

/-- A fault stands above its failure, or in its place if its category has no text. -/
theorem chain_fault (f : Fault) :
    Chain (fault f) (f.category.text?.toList ++ f.cause.chain) := by
  obtain ⟨category, cause⟩ := f
  by_cases other : category = .other
  · subst other
    have chain := chain_failure cause
    generalize cause.chain = texts at chain
    cases chain with
    | last bottom => exact .last bottom
    | above next rest => exact .above next rest
  · have next : (fault ⟨category, cause⟩).below? = some (failure cause) := if_neg other
    have whole := Chain.above next (chain_failure cause)
    cases category with
    | other => exact absurd rfl other
    | _ => exact whole

end ErrorLink

theorem Fault.chain_eq (f : Fault) : f.chain = f.category.text?.toList ++ f.cause.chain := by
  obtain ⟨category, cause⟩ := f
  cases category <;> rfl

theorem Category.text?_isSome_iff (c : Category) : c.text?.isSome = true ↔ c ≠ .other := by
  cases c <;> simp [text?]

namespace Failure

theorem category_eq_leaseTimeout_iff (f : Failure) :
    f.category = .leaseTimeout ↔ ∃ e, f = .lease e ∧ e.isTimeout = true := by
  constructor
  · intro timeout
    cases f with
    | lease e =>
        refine ⟨e, rfl, ?_⟩
        by_contra other
        rw [category, if_neg other] at timeout
        split at timeout <;> cases timeout
    | _ => cases timeout
  · rintro ⟨e, rfl, timeout⟩
    exact if_pos timeout

theorem category_eq_poolSaturated_iff (f : Failure) :
    f.category = .poolSaturated ↔ ∃ e, f = .lease e ∧ e.isSaturation = true := by
  constructor
  · intro saturated
    cases f with
    | lease e =>
        refine ⟨e, rfl, ?_⟩
        by_contra other
        rw [category, if_neg other] at saturated
        split at saturated <;> cases saturated
    | _ => cases saturated
  · rintro ⟨e, rfl, saturated⟩
    have untimed : ¬e.isTimeout = true := by
      intro timeout
      rw [LeaseError.not_isSaturation_of_isTimeout timeout] at saturated
      cases saturated
    rw [category, if_neg untimed, if_pos saturated]

end Failure

/-- A pool's error that is put into a category by its kind, and would be in that category as well
under a generic kind, by what its message says. -/
structure LeaseError.SaysByMessage (e : LeaseError) (generic : LeaseErrorKind)
    (category : Category) : Prop where
  byKind : (Failure.lease e).classify.category = category
  byMessage : (Failure.lease { e with kind := generic }).classify.category = category
  chain : (Failure.lease { e with kind := generic }).classify.chain =
    (Failure.lease e).classify.chain

namespace LeaseError

/-- Under another kind an error has the same chain, if it stays in its category. -/
theorem saysByMessage_of_category {e : LeaseError} {generic : LeaseErrorKind}
    {category : Category} (byKind : (Failure.lease e).category = category)
    (byMessage : (Failure.lease { e with kind := generic }).category = category) :
    e.SaysByMessage generic category where
  byKind := byKind
  byMessage := byMessage
  chain := by
    rw [Fault.chain_eq, Fault.chain_eq, Failure.classify, Failure.classify, byKind, byMessage]
    rfl

theorem acquireTimeout_saysByMessage (waited : Duration) (source : Option LeaseErrorSource) :
    SaysByMessage { acquireTimeout waited with source := source } .timeout .leaseTimeout := by
  apply saysByMessage_of_category
  · apply (Failure.category_eq_leaseTimeout_iff _).mpr
    exact ⟨_, rfl, rfl⟩
  · apply (Failure.category_eq_leaseTimeout_iff _).mpr
    refine ⟨_, rfl, (isTimeout_iff _).mpr (.inr ⟨rfl, ?_⟩)⟩
    exact acquireTimeout_mentions waited

theorem tooManyPending_saysByMessage (most : Nat) (source : Option LeaseErrorSource) :
    SaysByMessage { tooManyPending most with source := source } .illegalState .poolSaturated := by
  apply saysByMessage_of_category
  · apply (Failure.category_eq_poolSaturated_iff _).mpr
    exact ⟨_, rfl, rfl⟩
  · apply (Failure.category_eq_poolSaturated_iff _).mpr
    refine ⟨_, rfl, (isSaturation_iff _).mpr (.inr ⟨rfl, ?_⟩)⟩
    exact tooManyPending_mentions most

end LeaseError

/-- Classifying keeps a failure and all that is said on the way down from it, behind one text for
the category unless that is `other`. A pool's error is about a timeout, or about too many requests,
by its kind alone, or by a generic kind and a message that says so somewhere. What the two kinds
have as their message says so. -/
theorem Failure.classify_keeps_cause_and_chain (f : Failure) :
    (f.classify.cause = f ∧
      (∀ texts, ErrorLink.Chain (.failure f) texts ↔ texts = f.chain) ∧
      (∀ texts, ErrorLink.Chain (.fault f.classify) texts ↔ texts = f.classify.chain) ∧
      f.classify.chain = f.classify.category.text?.toList ++ f.chain ∧
      (f.classify.category.text?.isSome = true ↔ f.classify.category ≠ .other)) ∧
    (f.classify.category = .leaseTimeout ↔
      ∃ e, f = .lease e ∧
        (e.kind = .acquireTimeout ∨
          e.kind = .timeout ∧ Mentions e.message "Acquire operation took longer")) ∧
    (f.classify.category = .poolSaturated ↔
      ∃ e, f = .lease e ∧
        (e.kind = .tooManyPending ∨
          e.kind = .illegalState ∧
            Mentions e.message "Too many outstanding acquire operations")) ∧
    (∀ waited source,
      LeaseError.SaysByMessage { LeaseError.acquireTimeout waited with source := source }
        .timeout .leaseTimeout) ∧
    ∀ most source,
      LeaseError.SaysByMessage { LeaseError.tooManyPending most with source := source }
        .illegalState .poolSaturated := by
  refine ⟨⟨rfl, ?_, ?_, f.classify.chain_eq, f.classify.category.text?_isSome_iff⟩, ?_, ?_,
    LeaseError.acquireTimeout_saysByMessage, LeaseError.tooManyPending_saysByMessage⟩
  · exact ErrorLink.chain_iff (ErrorLink.chain_failure f)
  · rw [f.classify.chain_eq]
    exact ErrorLink.chain_iff (ErrorLink.chain_fault f.classify)
  · simp only [← LeaseError.isTimeout_iff]
    exact f.category_eq_leaseTimeout_iff
  · simp only [← LeaseError.isSaturation_iff]
    exact f.category_eq_poolSaturated_iff

namespace Bench

/-- A pool that knows only timeouts, with the telling words in the middle of its message and two
errors underneath. -/
theorem classify_keeps_cause_and_chain_deep :
    let error : LeaseError := ⟨.timeout, "pool-1: Acquire operation took longer than 5 ms (3 idle)",
      some (.foreign ⟨"queue full", ["semaphore closed"]⟩)⟩
    let fault := (Failure.lease error).classify
    fault.category = .leaseTimeout ∧
      ErrorLink.Chain (.fault fault)
        [Category.leaseTimeoutText, "pool-1: Acquire operation took longer than 5 ms (3 idle)",
          "queue full", "semaphore closed"] ∧
      Mentions error.message "Acquire operation took longer" := by
  intro error fault
  obtain ⟨⟨-, -, chain, whole, -⟩, timeout, -⟩ :=
    Failure.classify_keeps_cause_and_chain (.lease error)
  have category : fault.category = .leaseTimeout := by decide +kernel
  obtain ⟨e, same, by_kind | ⟨-, mentions⟩⟩ := timeout.mp category
  · obtain rfl := Failure.lease.inj same
    cases by_kind
  · obtain rfl := Failure.lease.inj same
    refine ⟨category, (chain _).mpr ?_, mentions⟩
    rw [whole, category]
    rfl

end Bench

end HttpExchange
