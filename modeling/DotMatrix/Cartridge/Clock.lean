import DotMatrix.Word

/-! # The clock of a cartridge

Five registers that count seconds, minutes, hours and days. A counter holds a few values beyond its
range; such a value is counted up like any other and falls to zero at the end of its bits without
a carry to the next counter. `Calendar.secondTick` says this for one second. `Calendar.advance` is
the same for any number of seconds: it ticks until every counter is in range, and from there on it
computes.

The counters follow the time of the world only when they are asked to. `Clock.sync` adds what has
passed since the last time, down to the nanosecond; what is read is a copy made by `Clock.latch`.
-/
namespace DotMatrix

/-! ## Counting -/

/-- The counters. -/
structure Calendar where
  /-- Six bits, of which 0 to 59 are in range. -/
  seconds : Nat := 0
  /-- Six bits, of which 0 to 59 are in range. -/
  minutes : Nat := 0
  /-- Five bits, of which 0 to 23 are in range. -/
  hours : Nat := 0
  /-- Nine bits, all in range. -/
  days : Nat := 0
  /-- Whether the counters stand still. -/
  halted : Bool := false
  /-- Whether the days have ever passed their last value; only a write clears it. -/
  carry : Bool := false
  deriving DecidableEq, Inhabited

namespace Calendar

/-- One day more. -/
def dayTick (time : Calendar) : Calendar :=
  if time.days < 511 then { time with days := time.days + 1 }
  else { time with days := 0, carry := true }

/-- One hour more. -/
def hourTick (time : Calendar) : Calendar :=
  if time.hours = 23 then { time with hours := 0 }.dayTick
  else { time with hours := (time.hours + 1) % 32 }

/-- One minute more. -/
def minuteTick (time : Calendar) : Calendar :=
  if time.minutes = 59 then { time with minutes := 0 }.hourTick
  else { time with minutes := (time.minutes + 1) % 64 }

/-- One second more. -/
def secondTick (time : Calendar) : Calendar :=
  if time.seconds = 59 then { time with seconds := 0 }.minuteTick
  else { time with seconds := (time.seconds + 1) % 64 }

/-- Whether the counters show a time of day. -/
def inRange (time : Calendar) : Bool :=
  time.seconds < 60 && time.minutes < 60 && time.hours < 24

/-- Seconds since day zero. -/
def total (time : Calendar) : Nat :=
  ((time.days * 24 + time.hours) * 60 + time.minutes) * 60 + time.seconds

/-- The seconds after which the days start again. -/
def period : Nat := 512 * 86400

/-- Show a number of seconds since day zero; what exceeds the days sets the carry. -/
def setTotal (time : Calendar) (seconds : Nat) : Calendar :=
  { time with
    seconds := seconds % 60
    minutes := seconds / 60 % 60
    hours := seconds / 3600 % 24
    days := seconds / 86400 % 512
    carry := time.carry || period ≤ seconds }

/-- Any number of seconds more. -/
def advance : (seconds : Nat) → Calendar → Calendar
  | 0, time => time
  | seconds + 1, time =>
    if time.inRange then time.setTotal (time.total + seconds + 1)
    else advance seconds time.secondTick

end Calendar

/-! ## Registers -/

/-- The registers of the clock. -/
inductive ClockRegister where
  | seconds
  | minutes
  | hours
  /-- The low eight bits of the days. -/
  | days
  /-- The high bit of the days, the halt switch and the carry. -/
  | control
  deriving DecidableEq

namespace ClockRegister

/-- The register with a number. -/
def ofNumber? : Nat → Option ClockRegister
  | 0x8 => some seconds
  | 0x9 => some minutes
  | 0xA => some hours
  | 0xB => some days
  | 0xC => some control
  | _ => none

end ClockRegister

namespace Calendar

/-- The content of a register. -/
def read (time : Calendar) : ClockRegister → UInt8
  | .seconds => UInt8.ofNat time.seconds
  | .minutes => UInt8.ofNat time.minutes
  | .hours => UInt8.ofNat time.hours
  | .days => UInt8.ofNat time.days
  | .control =>
    UInt8.ofNat (time.days / 256 % 2) ||| maskIf time.halted 0x40 ||| maskIf time.carry 0x80

/-- Set the fields of a register. -/
def write (time : Calendar) (register : ClockRegister) (value : UInt8) : Calendar :=
  match register with
  | .seconds => { time with seconds := value.toNat % 64 }
  | .minutes => { time with minutes := value.toNat % 64 }
  | .hours => { time with hours := value.toNat % 32 }
  | .days => { time with days := time.days / 256 * 256 + value.toNat }
  | .control =>
    { time with
      days := value.toNat % 2 * 256 + time.days % 256
      halted := hasBit value 6
      carry := hasBit value 7 }

end Calendar

/-! ## Following the time of the world -/

/-- The counters, the copy that is read, and how far the time of the world has been counted. -/
structure Clock where
  time : Calendar := {}
  latched : Calendar := {}
  /-- The instant, in nanoseconds, up to which time has been counted. -/
  synced : UInt64 := 0
  /-- Nanoseconds that have been counted and do not make up a second yet. -/
  fraction : Nat := 0
  deriving DecidableEq

namespace Clock

/-- The nanoseconds of a second. -/
def nanosPerSecond : Nat := 1000000000

/-- Count the time up to an instant. Time that goes back counts as none, and time during which the
counters stand still is never counted. -/
def sync (clock : Clock) (now : UInt64) : Clock :=
  if clock.time.halted then { clock with synced := now }
  else
    let nanos := clock.fraction + (now.toNat - clock.synced.toNat)
    { clock with
      synced := now
      fraction := nanos % nanosPerSecond
      time := clock.time.advance (nanos / nanosPerSecond) }

/-- Copy the counters, brought up to an instant, to where they are read. -/
def latch (clock : Clock) (now : UInt64) : Clock :=
  let clock := clock.sync now
  { clock with latched := clock.time }

/-- The content of a register in the copy. -/
def read (clock : Clock) (register : ClockRegister) : UInt8 := clock.latched.read register

/-- Write a register of the counters, brought up to an instant. A second begins anew when the
seconds are written. -/
def write (clock : Clock) (register : ClockRegister) (value : UInt8) (now : UInt64) : Clock :=
  let clock := clock.sync now
  { clock with
    time := clock.time.write register value
    fraction := if register = .seconds then 0 else clock.fraction }

end Clock
end DotMatrix
