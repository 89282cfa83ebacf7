import DotMatrix.Cpu.Registers
import DotMatrix.Fault

/-! # The processor

The state of an SM83 between two steps. Besides its registers it remembers three things that outlive
an instruction: that enabling interrupts has been asked for and takes effect one instruction later,
that the next opcode is to be fetched without moving on (which happens after a HALT that could not
wait), and the fault that stopped it for good.
-/
namespace DotMatrix

/-- What the processor is doing between steps. -/
inductive RunState where
  | running
  /-- Waiting until an enabled interrupt is requested. -/
  | halted
  /-- Waiting for a button, or stopped for good by a fault. -/
  | stopped
  deriving DecidableEq, Inhabited

namespace RunState

/-- The word shown for a state. -/
def name : RunState → String
  | running => "Running"
  | halted => "Halted"
  | stopped => "Stopped"

end RunState

/-- The state of the processor. -/
structure Cpu where
  regs : Registers
  /-- Whether interrupts are served. -/
  ime : Bool := false
  state : RunState := .running
  /-- T-cycles spent since the processor was made. -/
  cycles : Nat := 0
  /-- Interrupts are served from the end of the next instruction on. -/
  enabling : Bool := false
  /-- The next opcode fetch leaves the program counter where it is. -/
  haltBug : Bool := false
  fault : Option Fault := none
  deriving DecidableEq

namespace Cpu

/-- A processor as it comes to life, about to run a boot program at address zero. -/
def powerOn : Cpu := { regs := {} }

/-- A processor as the boot program leaves it. -/
def afterBoot : Cpu := { regs := .afterBoot }

instance : Inhabited Cpu := ⟨powerOn⟩

/-- The registers and the cycle count on one line. -/
def summary (cpu : Cpu) : String :=
  "AF:" ++ Text.hexWord cpu.regs.af ++ " BC:" ++ Text.hexWord cpu.regs.bc ++
    " DE:" ++ Text.hexWord cpu.regs.de ++ " HL:" ++ Text.hexWord cpu.regs.hl ++
    " PC:" ++ Text.hexWord cpu.regs.pc ++ " SP:" ++ Text.hexWord cpu.regs.sp ++
    " CY:" ++ toString cpu.cycles

end Cpu
end DotMatrix
