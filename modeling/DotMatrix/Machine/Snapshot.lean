import DotMatrix.Machine.Basic

/-! # Snapshots

What a debugger shows of a machine at one moment.
-/
namespace DotMatrix

/-- A copy of what is worth showing. -/
structure Snapshot where
  /-- Names of registers with their content in hexadecimal. -/
  registers : List (String × String)
  control : UInt8
  status : UInt8
  line : UInt8
  ime : Bool
  state : RunState
  cycles : Nat
  frames : Nat
  deriving DecidableEq

namespace Snapshot

/-- The registers by name: the eight bytes, and then the six words. -/
def namedRegisters (regs : Registers) : List (String × String) :=
  [("A", Text.hexByte regs.a), ("F", Text.hexByte regs.f), ("B", Text.hexByte regs.b),
    ("C", Text.hexByte regs.c), ("D", Text.hexByte regs.d), ("E", Text.hexByte regs.e),
    ("H", Text.hexByte regs.h), ("L", Text.hexByte regs.l), ("AF", Text.hexWord regs.af),
    ("BC", Text.hexWord regs.bc), ("DE", Text.hexWord regs.de), ("HL", Text.hexWord regs.hl),
    ("SP", Text.hexWord regs.sp), ("PC", Text.hexWord regs.pc)]

/-- The content of a register by its name. -/
def register? (snapshot : Snapshot) (name : String) : Option String :=
  snapshot.registers.lookup name

/-- The snapshot on one line. -/
def summary (snapshot : Snapshot) : String :=
  String.join (snapshot.registers.map fun (name, value) => name ++ ":" ++ value ++ " ") ++
    "LCDC:" ++ Text.hexByte snapshot.control ++ " STAT:" ++ Text.hexByte snapshot.status ++
    " LY:" ++ Text.hexByte snapshot.line ++ " IME:" ++ (if snapshot.ime then "1" else "0") ++
    " " ++ snapshot.state.name

end Snapshot

/-- A snapshot of the machine. -/
def Machine.snapshot (machine : Machine) : Snapshot :=
  { registers := Snapshot.namedRegisters machine.cpu.regs
    control := machine.memory.lcd.control.bits
    status := machine.memory.lcd.status
    line := UInt8.ofNat machine.memory.lcd.line
    ime := machine.cpu.ime
    state := machine.cpu.state
    cycles := machine.cpu.cycles
    frames := machine.frames }

end DotMatrix
