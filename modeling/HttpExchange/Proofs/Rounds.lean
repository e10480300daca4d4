import HttpExchange.Exchange.Poll

/-!
The loops of an exchange, one round at a time. Each way a round can go has its equation: it
says what the round does and whether another round follows. The equations speak of one round on
a given transport, so two runs of a loop can be followed side by side.
-/

namespace HttpExchange

namespace Handler

/-- A delivery that comes to no end leaves no event behind. -/
theorem deliver_rest_of_drained {h : Handler} {events : List ResponseEvent} {c : Completion}
    (drained : (h.deliver events c).turn = .drained) : (h.deliver events c).rest = [] := by
  fun_induction deliver h events c with
  | case1 => rfl
  | case2 | case3 => cases drained
  | case4 event rest c callback made called going later ih => exact ih drained

end Handler

namespace Exchange

variable {σ : Type} [Transport σ] {x : Exchange} {s : σ} {now : Instant}

theorem writeFrames_of_failed {error : NetError} (room : (Transport.ready s).1 = .failed error) :
    x.writeFrames s now =
      ⟨x, (Transport.ready s).2, [.ready (.failed error)], .failed (.writeFailed error)⟩ := by
  rw [writeFrames]
  simp only [room]

theorem writeFrames_of_full (room : (Transport.ready s).1 = .pending) :
    x.writeFrames s now = (x.stall (Transport.ready s).2 now).after [.ready .pending] := by
  rw [writeFrames]
  simp only [room]

/-- What is done until the source has answered. -/
def askings (x : Exchange) : List Action :=
  .ready .done :: x.frames.poll.asked.map .produced

/-- The exchange once its source was asked for a frame. -/
def asked (x : Exchange) : Exchange := { x with frames := x.frames.poll.source }

section Room

variable (room : (Transport.ready s).1 = .done)

include room

theorem writeFrames_of_bodyFailed {failure : Failure}
    (answered : x.frames.poll.answer = .failed failure) :
    x.writeFrames s now = ⟨x.asked, (Transport.ready s).2, x.askings, .failed failure⟩ := by
  rw [writeFrames]
  simp only [room]
  split <;> simp_all [asked, askings]

theorem writeFrames_of_bodyPending (answered : x.frames.poll.answer = .pending) :
    x.writeFrames s now =
      (x.asked.flushAccepted (Transport.ready s).2 now).after x.askings := by
  rw [writeFrames]
  simp only [room]
  split <;> simp_all [asked, askings]

theorem writeFrames_of_finished (answered : x.frames.poll.answer = .finished) :
    x.writeFrames s now =
      ({ x.asked with writeState := .flushing }.flushRequest (Transport.ready s).2 now).after
        x.askings := by
  rw [writeFrames]
  simp only [room]
  split <;> simp_all [asked, askings]

section Frame

variable {frame : RequestFrame} (yielded : x.frames.poll.answer = .frame frame)

include yielded

/-- A frame that needs nothing to be written. -/
theorem writeFrames_of_unwritten (silent : (x.pipeline.encode frame).1 = none) :
    x.writeFrames s now =
      ({ x.asked with pipeline := (x.pipeline.encode frame).2 }.writeFrames
        (Transport.ready s).2 now).after x.askings := by
  rw [writeFrames]
  simp only [room]
  split <;> simp_all [asked, askings]

variable {outbound : Outbound} (encoded : (x.pipeline.encode frame).1 = some outbound)

include encoded

theorem writeFrames_of_refused {error : NetError}
    (refused : (Transport.send (Transport.ready s).2 outbound).1 = some error) :
    x.writeFrames s now =
      ⟨{ x.asked with pipeline := (x.pipeline.encode frame).2 },
        (Transport.send (Transport.ready s).2 outbound).2,
        x.askings ++ [.write outbound (some error)], .failed (.writeFailed error)⟩ := by
  rw [writeFrames]
  simp only [room]
  split <;> simp_all [asked, askings]

variable (taken : (Transport.send (Transport.ready s).2 outbound).1 = none)

include taken

theorem writeFrames_of_crashed (lost : x.idle.writeProgress? now = none) :
    x.writeFrames s now =
      ⟨{ x.asked with pipeline := (x.pipeline.encode frame).2 },
        (Transport.send (Transport.ready s).2 outbound).2,
        x.askings ++ [.write outbound none] ++ [.timer .writeProgress], .crashed⟩ := by
  rw [writeFrames]
  simp only [room]
  split <;> simp_all [asked, askings]

theorem writeFrames_of_taken {idle : IdleWatch}
    (touched : x.idle.writeProgress? now = some idle) :
    x.writeFrames s now =
      ({ x.asked with pipeline := (x.pipeline.encode frame).2, idle := idle }.writeFrames
        (Transport.send (Transport.ready s).2 outbound).2 now).after
        (x.askings ++ [Action.write outbound none] ++ [Action.timer .writeProgress]) := by
  rw [writeFrames]
  simp only [room]
  split <;> simp_all [asked, askings]

end Frame

end Room

variable {h : Handler} {c : Completion}

theorem readFrames_of_ended (ended : (h.deliver x.events c).turn = .ended) :
    x.readFrames s h c now =
      ⟨{ x with events := (h.deliver x.events c).rest }, s, (h.deliver x.events c).completion,
        (h.deliver x.events c).actions, .ended .complete⟩ := by
  rw [readFrames]
  simp only [ended]

theorem readFrames_of_brokeOff (broke : (h.deliver x.events c).turn = .crashed) :
    x.readFrames s h c now =
      ⟨{ x with events := (h.deliver x.events c).rest }, s, (h.deliver x.events c).completion,
        (h.deliver x.events c).actions, .crashed⟩ := by
  rw [readFrames]
  simp only [broke]

section Empty

variable (empty : x.events = [])

include empty

theorem readFrames_of_pending (received : (Transport.receive s).1 = .pending) :
    x.readFrames s h c now =
      ⟨x, (Transport.receive s).2, c, [.receive .pending], .pending⟩ := by
  cases x with | mk frames pipeline idle writeState isReading events =>
  cases empty
  rw [readFrames]
  simp only [Handler.deliver]
  split <;> simp_all

theorem readFrames_of_failed {error : NetError}
    (received : (Transport.receive s).1 = .failed error) :
    x.readFrames s h c now =
      ⟨x, (Transport.receive s).2, c, [.receive (.failed error)],
        .ended (.failed (.net error))⟩ := by
  cases x with | mk frames pipeline idle writeState isReading events =>
  cases empty
  rw [readFrames]
  simp only [Handler.deliver]
  split <;> simp_all

theorem readFrames_of_closed (received : (Transport.receive s).1 = .closed) :
    x.readFrames s h c now =
      ⟨x, (Transport.receive s).2, c, [.receive .closed],
        .ended (.failed (.net .connectionClosed))⟩ := by
  cases x with | mk frames pipeline idle writeState isReading events =>
  cases empty
  rw [readFrames]
  simp only [Handler.deliver]
  split <;> simp_all

variable {frame : Inbound} (received : (Transport.receive s).1 = .frame frame)

include received

theorem readFrames_of_undecoded {failure : Failure}
    (refused : (x.pipeline.decode frame []).2 = some failure) :
    x.readFrames s h c now =
      ⟨{ x with events := (x.pipeline.decode frame []).1 }, (Transport.receive s).2, c,
        [.receive (.frame frame)], .ended (.failed failure)⟩ := by
  cases x with | mk frames pipeline idle writeState isReading events =>
  cases empty
  rw [readFrames]
  simp only [Handler.deliver]
  split <;> simp_all

theorem readFrames_of_late (decoded : (x.pipeline.decode frame []).2 = none)
    (lost : { x with events := (x.pipeline.decode frame []).1 }.noteProgress? now = none) :
    x.readFrames s h c now =
      ⟨{ x with events := (x.pipeline.decode frame []).1 }, (Transport.receive s).2, c,
        .receive (.frame frame) ::
          { x with events := (x.pipeline.decode frame []).1 }.progressActions, .crashed⟩ := by
  cases x with | mk frames pipeline idle writeState isReading events =>
  cases empty
  rw [readFrames]
  simp only [Handler.deliver]
  split <;> simp_all

theorem readFrames_of_decoded {next : Exchange}
    (decoded : (x.pipeline.decode frame []).2 = none)
    (noted : { x with events := (x.pipeline.decode frame []).1 }.noteProgress? now =
      some next) :
    x.readFrames s h c now =
      (next.readFrames (Transport.receive s).2 h c now).after (.receive (.frame frame) ::
        { x with events := (x.pipeline.decode frame []).1 }.progressActions) := by
  cases x with | mk frames pipeline idle writeState isReading events =>
  cases empty
  rw [readFrames]
  simp only [Handler.deliver]
  split <;> simp_all

/-- A frame that yields nothing is passed over. -/
theorem readFrames_of_passed (passed : x.pipeline.decode frame [] = ([], none)) :
    x.readFrames s h c now =
      (x.readFrames (Transport.receive s).2 h c now).after [.receive (.frame frame)] := by
  cases x with | mk frames pipeline idle writeState isReading events =>
  cases empty
  rw [readFrames_of_decoded rfl received (by rw [passed]) (by simp [passed, noteProgress?]; rfl)]
  simp [passed, progressActions]

end Empty

theorem readFrames_of_drained (drained : (h.deliver x.events c).turn = .drained) :
    x.readFrames s h c now =
      ({ x with events := [] }.readFrames s h (h.deliver x.events c).completion now).after
        (h.deliver x.events c).actions := by
  have rest := Handler.deliver_rest_of_drained drained
  rw [readFrames]
  simp only [drained, rest]
  split
  · rw [readFrames_of_pending rfl ‹_›]; simp_all [Step.after]
  · rw [readFrames_of_failed rfl ‹_›]; simp_all [Step.after]
  · rw [readFrames_of_closed rfl ‹_›]; simp_all [Step.after]
  · rename_i frame received
    split
    · rw [readFrames_of_undecoded rfl received ‹_›]; simp_all [Step.after]
    · split
      · rw [readFrames_of_late rfl received ‹_› ‹_›]; simp_all [Step.after]
      · rw [readFrames_of_decoded rfl received ‹_› ‹_›]; simp_all [Step.after]

end Exchange

end HttpExchange
