import HttpExchange.Proofs.Isolation

/-!
The streams of one connection over all its leases. A connection goes from lease to lease with its
counter of streams. Only a lease that configures a multiplexed connection moves the counter, by
two each time, and it stops at the largest number there is. So up to that point the leases get
the odd numbers in order, and no two of them the same.
-/

namespace HttpExchange

variable {σ : Type}

namespace Connection

theorem streamAfter_toNat (n : UInt32) :
    (streamAfter n).toNat = min (n.toNat + 2) lastStream.toNat := by
  have below : n ≤ lastStream - 2 ↔ n.toNat ≤ 4294967293 := UInt32.le_iff_toNat_le
  have largest : lastStream.toNat = 4294967295 := rfl
  have bound : n.toNat < 4294967296 := n.toNat_lt
  unfold streamAfter
  split
  · have room : n.toNat ≤ 4294967293 := below.mp ‹_›
    rw [UInt32.toNat_add]
    change (n.toNat + 2) % 4294967296 = _
    omega
  · have full : ¬n.toNat ≤ 4294967293 := fun room => ‹¬n ≤ lastStream - 2› (below.mpr room)
    omega

/-- The next `count` streams of a connection whose counter shows `n`. -/
def streamsFrom (n : UInt32) : Nat → List StreamId
  | 0 => []
  | count + 1 => ⟨n⟩ :: streamsFrom (streamAfter n) count

theorem streamsFrom_length (n : UInt32) (count : Nat) : (streamsFrom n count).length = count := by
  induction count generalizing n with
  | zero => rfl
  | succ count ih => exact congrArg (· + 1) (ih (streamAfter n))

/-- The counter moves by two until it stops at the last stream. -/
theorem streamsFrom_numbers (n : UInt32) (count : Nat) :
    (streamsFrom n count).map (·.value.toNat) =
      (List.range count).map fun i => min (n.toNat + 2 * i) lastStream.toNat := by
  have bound : n.toNat ≤ lastStream.toNat := Nat.le_of_lt_succ n.toNat_lt
  induction count generalizing n with
  | zero => rfl
  | succ count ih =>
      have later := ih (streamAfter n) (Nat.le_of_lt_succ (streamAfter n).toNat_lt)
      rw [List.range_succ_eq_map, List.map_cons, List.map_map, streamsFrom, List.map_cons, later,
        Nat.mul_zero, Nat.add_zero, Nat.min_eq_left bound]
      congr 1
      refine List.map_congr_left fun i _ => ?_
      rw [streamAfter_toNat, Function.comp_apply, Nat.succ_eq_add_one]
      omega

/-- How many odd numbers there are for streams. -/
def streamCount : Nat := 2147483648

/-- A fresh connection has the odd numbers to give, as long as there are any. -/
theorem streamsFrom_one {count : Nat} (few : count ≤ streamCount) :
    (streamsFrom 1 count).map (·.value.toNat) = (List.range count).map (2 * · + 1) := by
  rw [streamsFrom_numbers]
  refine List.map_congr_left fun i member => ?_
  have below := List.mem_range.mp member
  unfold streamCount at few
  have first : (1 : UInt32).toNat = 1 := rfl
  have largest : lastStream.toNat = 4294967295 := rfl
  omega

/-- One lease more, and two of them share a stream. -/
theorem streamsFrom_one_repeats :
    let streams := streamsFrom 1 (streamCount + 1)
    streams[streamCount - 1]? = streams[streamCount]? := by
  intro streams
  have numbered (i : Nat) (within : i < streamCount + 1) (late : streamCount - 1 ≤ i) :
      streams[i]? = some ⟨lastStream⟩ := by
    have number := congrArg (·[i]?) (streamsFrom_numbers 1 (streamCount + 1))
    have first : (1 : UInt32).toNat = 1 := rfl
    have largest : lastStream.toNat = 4294967295 := rfl
    have last : min (1 + 2 * i) 4294967295 = 4294967295 := by
      unfold streamCount at late
      omega
    simp only [List.getElem?_map, List.getElem?_range within, Option.map_some, first, largest,
      last] at number
    obtain ⟨stream, found, value⟩ := Option.map_eq_some_iff.mp number
    rw [found]
    exact congrArg (some ∘ StreamId.mk) (UInt32.toNat_inj.mp value)
  rw [numbered _ (by decide) (by decide), numbered _ (by decide) (by decide)]

/-- What is done with a connection: a lease configures it, exchanges change its transport, and it
is closed or given up. -/
inductive Use (σ : Type) where
  | configure
  | exchange (change : σ → σ)
  | close
  | markClosed

def Use.isConfigure : Use σ → Bool
  | configure => true
  | exchange _ | close | markClosed => false

section Leases

variable [Transport σ]

def use (c : Connection σ) : Use σ → Connection σ
  | .configure => (Pipeline.configure c).2
  | .exchange change => { c with transport := change c.transport }
  | .close => c.close.2
  | .markClosed => c.markClosed

/-- What came of configuring a connection, each time it was. -/
def configurations (c : Connection σ) : List (Use σ) → List (Except Failure Pipeline)
  | [] => []
  | .configure :: rest => (Pipeline.configure c).1 :: (c.use .configure).configurations rest
  | other :: rest => (c.use other).configurations rest

/-- The pipelines of all leases that could be configured. -/
def leases (c : Connection σ) (uses : List (Use σ)) : List Pipeline :=
  (c.configurations uses).filterMap Except.toOption

/-- Every lease of a multiplexed connection gets the next stream, whatever was done with the
connection before. -/
theorem configurations_of_multiplexed {c : Connection σ}
    (negotiated : c.negotiated = Protocol.http2.text) (uses : List (Use σ)) :
    c.configurations uses =
      (streamsFrom c.nextStream (uses.countP Use.isConfigure)).map (.ok ∘ Pipeline.ofStream) := by
  induction uses generalizing c with
  | nil => rfl
  | cons act rest ih =>
      cases act with
      | configure =>
          have allocated : c.use .configure = c.allocateStream.2 := by
            rw [use, Pipeline.configure, negotiated]
            rfl
          have next := ih (c := c.allocateStream.2) negotiated
          rw [configurations, Pipeline.configure_multiplexed negotiated, allocated, next,
            List.countP_cons_of_pos rfl]
          rfl
      | exchange change => exact ih (c := c.use (.exchange change)) negotiated
      | close => exact ih (c := c.use .close) negotiated
      | markClosed => exact ih (c := c.use .markClosed) negotiated

end Leases

end Connection

namespace Pipeline

/-- A pipeline stays on the stream it was made for, whatever it encodes. -/
theorem advance_ofStream (stream : StreamId) (written : List RequestFrame) :
    ∃ hasEnded, (ofStream stream).advance written = .multiplexed ⟨stream, hasEnded⟩ ⟨stream⟩ := by
  induction written using List.reverseRecOn with
  | nil => exact ⟨false, rfl⟩
  | append_singleton before frame ih =>
      obtain ⟨hasEnded, reached⟩ := ih
      rw [advance_append, reached]
      cases hasEnded <;> exact ⟨_, rfl⟩

/-- A frame that a pipeline encodes is one of its own stream. -/
theorem stream_of_encode {stream : StreamId} {written : List RequestFrame} {frame : RequestFrame}
    {outbound : Outbound}
    (encoded : (((ofStream stream).advance written).encode frame).1 = some outbound) :
    ∃ sent, outbound = .multiplexed sent ∧ sent.stream = stream := by
  obtain ⟨hasEnded, reached⟩ := advance_ofStream stream written
  rw [reached] at encoded
  cases hasEnded with
  | true => cases encoded
  | false =>
      cases encoded
      exact ⟨_, rfl, by cases frame <;> rfl⟩

/-- A pipeline passes over the frames of all other streams. -/
theorem decode_of_elsewhere {stream : StreamId} {frame : StreamFrame}
    (elsewhere : frame.stream ≠ stream) (written : List RequestFrame)
    (queue : List ResponseEvent) :
    ((ofStream stream).advance written).decode (.multiplexed frame) queue = (queue, none) := by
  obtain ⟨hasEnded, reached⟩ := advance_ofStream stream written
  have listens : ((ofStream stream).advance written).ListensTo stream := ⟨_, reached⟩
  exact listens.decode_foreign ⟨frame, rfl, elsewhere⟩ queue

/-- A connection that cannot be configured stays as it is. -/
theorem configure_of_failure {c : Connection σ} {failure : Failure}
    (failed : (configure c).1 = .error failure) : (configure c).2 = c := by
  unfold configure at failed ⊢
  split at failed
  · rfl
  all_goals cases failed

end Pipeline

namespace Connection

variable [Transport σ]

/-- The leases of a multiplexed connection, up to as many as there are odd numbers, are on the
streams 1, 3, 5 and so on. What is received on the stream of one lease neither delivers nor fails
anything in another, whatever that has written before, and all it writes is on its own stream.
A connection that cannot be configured gives no stream away. -/
theorem leases_keep_to_their_streams (id : ConnectionId) (transport : σ) (uses : List (Use σ))
    (few : ((ofTransport id Protocol.http2.text transport).leases uses).length ≤ streamCount) :
    let c := ofTransport id Protocol.http2.text transport
    let leases := c.leases uses
    let streams := leases.filterMap Pipeline.stream?
    c.configurations uses = leases.map .ok ∧
    streams.map (·.value.toNat) = (List.range leases.length).map (2 * · + 1) ∧
    streams.Pairwise (·.value < ·.value) ∧
    (∀ (n : Nat) (p : Pipeline) (stream : StreamId), leases[n]? = some p →
      streams[n]? = some stream → ∀ written : List RequestFrame,
      (∀ (m : Nat) (other : StreamId), streams[m]? = some other → m ≠ n →
        ∀ (frame : StreamFrame) (queue : List ResponseEvent), frame.stream = other →
          (p.advance written).decode (.multiplexed frame) queue = (queue, none)) ∧
      ∀ (frame : RequestFrame) (outbound : Outbound),
        ((p.advance written).encode frame).1 = some outbound →
          ∃ sent, outbound = .multiplexed sent ∧ sent.stream = stream) ∧
    ∀ (other : Connection σ) (failure : Failure),
      (Pipeline.configure other).1 = .error failure → (Pipeline.configure other).2 = other := by
  intro c leases streams
  have all := configurations_of_multiplexed (c := c) rfl uses
  change c.configurations uses = (streamsFrom 1 _).map _ at all
  generalize uses.countP Use.isConfigure = count at all
  have framed : leases = (streamsFrom 1 count).map Pipeline.ofStream := by
    change (c.configurations uses).filterMap Except.toOption = _
    rw [all, List.filterMap_map, ← List.filterMap_eq_map]
    rfl
  have numbered : streams = streamsFrom 1 count := by
    change leases.filterMap Pipeline.stream? = _
    rw [framed, List.filterMap_map]
    exact List.filterMap_some
  have many : leases.length = count := by rw [framed, List.length_map, streamsFrom_length]
  have odd := streamsFrom_one (many ▸ few)
  have number {n : Nat} {stream : StreamId} (found : streams[n]? = some stream) :
      stream.value.toNat = 2 * n + 1 := by
    obtain ⟨within, -⟩ := List.getElem?_eq_some_iff.mp found
    have nth := congrArg (·[n]?) odd
    rw [numbered, streamsFrom_length] at within
    simpa [← numbered, found, List.getElem?_range within] using nth
  refine ⟨?_, ?_, ?_, ?_, fun other failure => Pipeline.configure_of_failure⟩
  · rw [all, framed, List.map_map]
  · rw [numbered, many]
    exact odd
  · have rising : (streams.map (·.value.toNat)).Pairwise (· < ·) := by
      rw [numbered, odd, List.pairwise_map]
      exact List.pairwise_lt_range.imp fun below => by omega
    exact (List.pairwise_map.mp rising).imp UInt32.lt_iff_toNat_lt.mpr
  · intro n p stream leased found written
    have own : p = Pipeline.ofStream stream := by
      rw [framed, List.getElem?_map, ← numbered, found] at leased
      exact (Option.some.inj leased).symm
    subst own
    refine ⟨fun m other elsewhere apart frame queue carries => ?_,
      fun frame outbound => Pipeline.stream_of_encode⟩
    refine Pipeline.decode_of_elsewhere ?_ written queue
    rintro same
    have one := number found
    have another := number elsewhere
    rw [← carries, same] at another
    omega

end Connection

namespace Bench

/-- Two leases, with a change of the transport between them. What still comes in on the stream of
the first is passed over by the second, which has written its whole request. -/
theorem leases_keep_to_their_streams_late :
    let c : Connection Wire := .ofTransport ⟨7⟩ Protocol.http2.text Wire.idle
    let uses : List (Connection.Use Wire) :=
      [.configure, .exchange fun w => { w with capacity := some 2 }, .configure]
    (c.leases uses).length ≤ Connection.streamCount ∧
      c.leases uses = [.ofStream ⟨1⟩, .ofStream ⟨3⟩] ∧
      ((Pipeline.ofStream ⟨3⟩).advance [.finish]).decode
        (.multiplexed (.data ⟨1⟩ [9] true)) [] = ([], none) := by
  intro c uses
  have leased : c.leases uses = [.ofStream ⟨1⟩, .ofStream ⟨3⟩] := by decide +kernel
  have few : (c.leases uses).length ≤ Connection.streamCount := by rw [leased]; decide
  obtain ⟨-, -, -, apart, -⟩ :=
    Connection.leases_keep_to_their_streams ⟨7⟩ Wire.idle uses few
  refine ⟨few, leased, ?_⟩
  have second : (c.leases uses)[1]? = some (.ofStream ⟨3⟩) := by rw [leased]; rfl
  have streams : (c.leases uses).filterMap Pipeline.stream? = [⟨1⟩, ⟨3⟩] := by rw [leased]; rfl
  obtain ⟨passed_over, -⟩ := apart 1 _ ⟨3⟩ second (by rw [streams]; rfl) [.finish]
  exact passed_over 0 ⟨1⟩ (by rw [streams]; rfl) (by decide) (.data ⟨1⟩ [9] true) [] rfl

end Bench

end HttpExchange
