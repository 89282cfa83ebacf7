import DotMatrix.Interrupt

/-! # The serial port

A port with nothing at the other end. A transfer on the internal clock takes eight bits of 512
T-cycles each; the bit that comes in is always one, so the data register ends as 0xFF. Bytes sent
this way are kept, which is how a program without a screen can be heard. A transfer on the external
clock never moves.

What is left of a transfer is a single number of T-cycles: a bit is shifted whenever that number
passes a multiple of 512.
-/
namespace DotMatrix

/-- The port, its two registers and everything it has sent. -/
structure Serial where
  /-- The register SB. -/
  data : UInt8 := 0
  /-- The register SC: bit 7 is set while a transfer runs, bit 0 chooses the internal clock. -/
  control : UInt8 := 0
  /-- T-cycles until the running transfer is complete; zero if none runs. -/
  remaining : Nat := 0
  /-- The bytes sent so far, in order. -/
  output : Array UInt8 := #[]
  deriving DecidableEq, Inhabited

namespace Serial

/-- T-cycles for one bit. -/
def cyclesPerBit : Nat := 512

/-- T-cycles for one byte. -/
def cyclesPerByte : Nat := 8 * cyclesPerBit

/-- Bits still to come when a transfer has this many T-cycles left. -/
def bitsLeft (remaining : Nat) : Nat := (remaining + (cyclesPerBit - 1)) / cyclesPerBit

/-- Shift `count` ones into a byte from below. -/
def shiftIn (count : Nat) (byte : UInt8) : UInt8 :=
  match count with
  | 0 => byte
  | count + 1 => shiftIn count (byte <<< 1 ||| 1)

/-- Several T-cycles. -/
def advance (cycles : Nat) (serial : Serial) : Serial × List Interrupt :=
  if serial.remaining = 0 then (serial, [])
  else
    let remaining := serial.remaining - cycles
    let data := shiftIn (bitsLeft serial.remaining - bitsLeft remaining) serial.data
    if remaining = 0 then
      ({ serial with data := data, remaining := 0, control := serial.control &&& 0x7F }, [.serial])
    else ({ serial with data := data, remaining := remaining }, [])

/-- Read a register by its address. -/
def read (serial : Serial) (address : UInt16) : UInt8 :=
  match address with
  | 0xFF01 => serial.data
  | 0xFF02 => serial.control ||| 0x7E
  | _ => 0xFF

/-- Write the control register. With both bits set a transfer starts, and the data byte counts as
sent; any other value ends a running transfer. -/
def setControl (serial : Serial) (value : UInt8) : Serial :=
  let control := value &&& 0x81
  if control == 0x81 then
    { serial with
      control := control
      remaining := cyclesPerByte
      output := serial.output.push serial.data }
  else { serial with control := control, remaining := 0 }

/-- Write a register by its address. -/
def write (serial : Serial) (address : UInt16) (value : UInt8) : Serial :=
  match address with
  | 0xFF01 => { serial with data := value }
  | 0xFF02 => serial.setControl value
  | _ => serial

/-- The bytes sent since they were last taken. -/
def take (serial : Serial) : Array UInt8 × Serial := (serial.output, { serial with output := #[] })

end Serial
end DotMatrix
