import HttpExchange.Idle.Timer
import HttpExchange.Timeouts

/-!
The two idle timers of an exchange. Arming the write timer keeps a running deadline,
installing the read timer starts a new one, and progress on a timer that is not there
does nothing. When both are due the write timer is reported first; a reported timer
is gone.
-/

namespace HttpExchange

structure IdleWatch where
  periods : Timeouts
  write : Option IdleTimer
  read : Option IdleTimer
  deriving DecidableEq, Repr

/-- What can be asked of the timers, apart from whether one is due. -/
inductive TimerCall where
  | armWrite
  | removeWrite
  | installRead
  | removeRead
  | writeProgress
  | readProgress
  deriving DecidableEq, Repr

namespace IdleWatch

def ofTimeouts (periods : Timeouts) : IdleWatch := ⟨periods, none, none⟩

/-- A running timer, unless the period is zero. -/
def started (phase : Phase) (period : Duration) (now : Instant) : Option IdleTimer :=
  if period.isZero then none else some (.start phase period now)

def armWrite (w : IdleWatch) (now : Instant) : IdleWatch :=
  match w.write with
  | some _ => w
  | none => { w with write := started .write w.periods.write now }

def removeWrite (w : IdleWatch) : IdleWatch := { w with write := none }

def installRead (w : IdleWatch) (now : Instant) : IdleWatch :=
  { w with read := started .read w.periods.read now }

def removeRead (w : IdleWatch) : IdleWatch := { w with read := none }

def writeProgress? (w : IdleWatch) (now : Instant) : Option IdleWatch :=
  match w.write with
  | none => some w
  | some timer => (timer.touch? now).map fun timer => { w with write := some timer }

def readProgress? (w : IdleWatch) (now : Instant) : Option IdleWatch :=
  match w.read with
  | none => some w
  | some timer => (timer.touch? now).map fun timer => { w with read := some timer }

/-- The timers after a call; none if a new deadline does not exist. -/
def call? (w : IdleWatch) (call : TimerCall) (now : Instant) : Option IdleWatch :=
  match call with
  | .armWrite => some (w.armWrite now)
  | .removeWrite => some w.removeWrite
  | .installRead => some (w.installRead now)
  | .removeRead => some w.removeRead
  | .writeProgress => w.writeProgress? now
  | .readProgress => w.readProgress? now

/-- The failure of the first timer that is due, which is then removed. -/
def poll (w : IdleWatch) (now : Instant) : Option Failure × IdleWatch :=
  match w.write.filter (·.isDue now) with
  | some timer => (some timer.failure, w.removeWrite)
  | none =>
    match w.read.filter (·.isDue now) with
    | some timer => (some timer.failure, w.removeRead)
    | none => (none, w)

end IdleWatch

end HttpExchange
