/-! # Clocks

A clock counts whole microseconds in 64 bits and moves when it is told to. It may also move each
time it is read, by amounts that are taken in turn from a list. Times are shown in milliseconds. -/

namespace GuestDebugger

/-- A clock. -/
structure Clock where
  /-- The microseconds since the beginning. -/
  micros : UInt64 := 0
  /-- By how many milliseconds the clock moves after each reading, in turn. -/
  ticks : Array Float := #[]
  /-- How often the clock was read. -/
  readings : Nat := 0

namespace Clock

/-- The time in milliseconds. -/
def now (c : Clock) : Float := c.micros.toFloat / 1000

/-- Moves the clock forward, to the nearest microsecond. -/
def advance (c : Clock) (milliseconds : Float) : Clock :=
  { c with micros := c.micros + (milliseconds * 1000).round.toUInt64 }

/-- Reads the time, after which the clock moves by its next tick. -/
def read (c : Clock) : Float × Clock :=
  (c.now,
    match c.ticks[c.readings % c.ticks.size]? with
    | some tick => { c.advance tick with readings := c.readings + 1 }
    | none => c)

end Clock

end GuestDebugger
