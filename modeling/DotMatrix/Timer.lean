import DotMatrix.Interrupt

/-! # The timer

A divider that counts every T-cycle, and a counter that is clocked by one of its bits. The counter
moves when that bit, seen through the enable switch, falls from one to zero; so clearing the divider
or turning the switch can move it too.

When the counter overflows it reads zero for four T-cycles. Then it takes the reload value and the
timer asks for an interrupt. Writing the counter in between cancels both; writing it in the M-cycle
of the reload itself has no effect.
-/
namespace DotMatrix

/-- What is left of an overflow. -/
inductive Reload where
  | idle
  /-- The counter overflowed and takes the reload value in this many T-cycles. -/
  | pending (cycles : Nat)
  /-- The counter took the reload value in the last T-cycle. -/
  | done
  deriving DecidableEq, Inhabited

/-- The timer and its four registers. -/
structure Timer where
  /-- Counts T-cycles; its upper byte is the register DIV. -/
  divider : UInt16 := 0
  /-- The register TIMA. -/
  counter : UInt8 := 0
  /-- The register TMA, from which the counter is reloaded. -/
  modulo : UInt8 := 0
  /-- The register TAC: bit 2 is the switch, bits 0 and 1 choose the clock. -/
  control : UInt8 := 0
  /-- The clock signal as last seen. -/
  signal : Bool := false
  reload : Reload := .idle
  deriving DecidableEq, Inhabited

namespace Timer

/-- What the divider reads when the boot program is done. -/
def dividerAfterBoot : UInt16 := 0xABCC

/-- T-cycles from an overflow to the reload. -/
def reloadDelay : Nat := 4

/-! ## The clock signal -/

/-- The bit of the divider that clocks the counter. -/
def clockBit (timer : Timer) : Nat :=
  match timer.control &&& 0x03 with
  | 0 => 9
  | 1 => 3
  | 2 => 5
  | _ => 7

/-- The chosen bit of the divider, seen through the switch. -/
def level (timer : Timer) : Bool :=
  timer.control &&& 0x04 != 0 && timer.divider.toNat / Nat.pow 2 timer.clockBit % 2 == 1

/-- Move the counter; from its highest value it overflows. -/
def increment (timer : Timer) : Timer :=
  if timer.counter == 0xFF then
    { timer with counter := 0, reload := .pending reloadDelay }
  else { timer with counter := timer.counter + 1 }

/-- Look at the clock signal again and move the counter if it fell. -/
def sample (timer : Timer) : Timer :=
  let level := timer.level
  if timer.signal && !level then { timer.increment with signal := level }
  else { timer with signal := level }

/-- Clear the divider. The clock signal falls if it was high. -/
def resetDivider (timer : Timer) : Timer :=
  if timer.signal then { timer.increment with divider := 0, signal := false }
  else { timer with divider := 0 }

/-! ## Time -/

/-- Bring an overflow one T-cycle further. -/
def settle (timer : Timer) : Timer × List Interrupt :=
  match timer.reload with
  | .idle => (timer, [])
  | .pending 1 => ({ timer with counter := timer.modulo, reload := .done }, [.timer])
  | .pending cycles => ({ timer with reload := .pending (cycles - 1) }, [])
  | .done => ({ timer with reload := .idle }, [])

/-- One T-cycle. -/
def tick (timer : Timer) : Timer × List Interrupt :=
  match timer.settle with
  | (timer, requests) => ({ timer with divider := timer.divider + 1 }.sample, requests)

/-- Several T-cycles. -/
def advance (cycles : Nat) (timer : Timer) : Timer × List Interrupt :=
  Interrupt.collect tick cycles timer

/-! ## Registers -/

/-- Read a register by its address. -/
def read (timer : Timer) (address : UInt16) : UInt8 :=
  match address with
  | 0xFF04 => UInt8.ofNat (timer.divider.toNat / 256)
  | 0xFF05 => timer.counter
  | 0xFF06 => timer.modulo
  | 0xFF07 => timer.control ||| 0xF8
  | _ => 0xFF

/-- Write the counter. During an overflow this cancels the reload; in the T-cycle of the reload it
comes too late. -/
def setCounter (timer : Timer) (value : UInt8) : Timer :=
  match timer.reload with
  | .done => timer
  | _ => { timer with counter := value, reload := .idle }

/-- Write the reload value; in the T-cycle of the reload the counter takes it too. -/
def setModulo (timer : Timer) (value : UInt8) : Timer :=
  if timer.reload == .done then { timer with modulo := value, counter := value }
  else { timer with modulo := value }

/-- Write the control register. -/
def setControl (timer : Timer) (value : UInt8) : Timer :=
  { timer with control := value &&& 0x07 }.sample

/-- Write a register by its address; any value clears the divider. -/
def write (timer : Timer) (address : UInt16) (value : UInt8) : Timer :=
  match address with
  | 0xFF04 => timer.resetDivider
  | 0xFF05 => timer.setCounter value
  | 0xFF06 => timer.setModulo value
  | 0xFF07 => timer.setControl value
  | _ => timer

end Timer
end DotMatrix
