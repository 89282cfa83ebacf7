import DotMatrix.Cpu.Step

/-! # Operands

An instruction first reads all the bytes that follow its opcode, one after the other, and then does the rest
without another look at the program (`perform_of_plain`).  This holds of a processor that moves on after
each byte; the byte that is read twice after a HALT is never one of these, because the opcode comes first.
-/
namespace DotMatrix

namespace Dialogue

/-- Read bytes from an address on, each in an M-cycle. -/
def readFrom : (count : Nat) → UInt16 → Dialogue (List UInt8)
  | 0, _ => .done []
  | count + 1, address =>
    .read address fun value => .tick ((readFrom count (address + 1)).bind fun rest => .done (value :: rest))

/-- The calls that read these bytes from an address on. -/
def readCalls : UInt16 → List UInt8 → List Call
  | _, [] => []
  | address, byte :: rest => .read address byte :: .tick :: readCalls (address + 1) rest

theorem meets_readFrom (count : Nat) (address : UInt16) : (readFrom count address).Meets fun calls bytes =>
    bytes.length = count ∧ calls = readCalls address bytes := by
  induction count generalizing address with
  | zero => exact ⟨rfl, rfl⟩
  | succ count ih =>
    intro value
    refine (ih (address + 1)).bind fun calls bytes done => ?_
    obtain ⟨length, rfl⟩ := done
    refine ⟨congrArg (· + 1) length, ?_⟩
    rw [List.append_nil]
    rfl

end Dialogue

/-- The processor after it has read some bytes of the program. -/
def Cpu.past (cpu : Cpu) (count : Nat) : Cpu :=
  { cpu with
    regs := { cpu.regs with pc := cpu.regs.pc + UInt16.ofNat count }
    cycles := cpu.cycles + 4 * count }

namespace Instruction
open Microcode

/-- How many bytes are read after the opcode.  The byte that follows a STOP is only skipped. -/
def operandBytes : Instruction → Nat
  | bits | copyImmediate _ | combineImmediate _ | storeHigh | loadHigh | addToSp | copySpToHl
  | jumpRelative | jumpRelativeIf _ => 1
  | storeAbsolute | loadAbsolute | wordImmediate _ | storeSp | jump | jumpIf _ | call | callIf _ => 2
  | _ => 0

/-- Carry out an instruction with the bytes at hand that follow its opcode. -/
def performWith : Instruction → List UInt8 → Microcode Unit
  | bits, [opcode] => (BitInstruction.decode opcode).perform
  | copyImmediate target, [value] => target.set value
  | combineImmediate operation, [value] => combineA operation value
  | storeHigh, [offset] => do store (highPage offset) (← look Registers.a)
  | loadHigh, [offset] => do
    let value ← load (highPage offset)
    change ({ · with a := value })
  | addToSp, [offset] => do
    idle
    idle
    change fun regs =>
      let (sum, flags) := Arithmetic.addSigned regs.sp offset
      { regs with sp := sum, flags := flags }
  | copySpToHl, [offset] => do
    idle
    change fun regs =>
      let (sum, flags) := Arithmetic.addSigned regs.sp offset
      { regs.setHl sum with flags := flags }
  | jumpRelative, [offset] => jumpBy offset
  | jumpRelativeIf condition, [offset] => do
    if condition.holds (← look Registers.flags) then jumpBy offset
  | storeAbsolute, [low, high] => do store (wordOf high low) (← look Registers.a)
  | loadAbsolute, [low, high] => do
    let value ← load (wordOf high low)
    change ({ · with a := value })
  | wordImmediate pair, [low, high] => change (pair.set (wordOf high low))
  | storeSp, [low, high] => do
    let sp ← look Registers.sp
    store (wordOf high low) (lowByte sp)
    store (wordOf high low + 1) (highByte sp)
  | jump, [low, high] => jumpTo (wordOf high low)
  | jumpIf condition, [low, high] => do
    if condition.holds (← look Registers.flags) then jumpTo (wordOf high low)
  | call, [low, high] => callTo (wordOf high low)
  | callIf condition, [low, high] => do
    if condition.holds (← look Registers.flags) then callTo (wordOf high low)
  | other, _ => other.perform

end Instruction

/-! ## Reading on -/

namespace Cpu

theorem past_zero (cpu : Cpu) : cpu.past 0 = cpu := by
  obtain ⟨regs, ime, state, cycles, enabling, haltBug, fault⟩ := cpu
  show ({ regs := { regs with pc := regs.pc + 0 }, ime, state, cycles, enabling, haltBug, fault } : Cpu) = _
  rw [UInt16.add_zero]

theorem past_one_past_one (cpu : Cpu) : (cpu.past 1).past 1 = cpu.past 2 := by
  show ({ cpu with regs := { cpu.regs with pc := cpu.regs.pc + 1 + 1 }, cycles := cpu.cycles + 4 + 4 } : Cpu) = _
  rw [UInt16.add_assoc]
  rfl

end Cpu

namespace Microcode
variable {cpu : Cpu}

/-- A fetch of a processor that moves on. -/
theorem fetch_of_plain (plain : cpu.haltBug = false) :
    fetch cpu = .read cpu.regs.pc fun value => .tick (.done (value, cpu.past 1)) := by
  obtain ⟨regs, ime, state, cycles, enabling, haltBug, fault⟩ := cpu
  obtain rfl : haltBug = false := plain
  rfl

theorem fetchWord_of_plain (plain : cpu.haltBug = false) : fetchWord cpu =
    .read cpu.regs.pc fun low => .tick (.read (cpu.regs.pc + 1) fun high =>
      .tick (.done (wordOf high low, cpu.past 2))) := by
  show (fetch cpu).bind (fun low => (fetch low.2).bind fun high => .done (wordOf high.1 low.1, high.2)) = _
  have later : (cpu.past 1).haltBug = false := plain
  rw [fetch_of_plain plain]
  simp only [Dialogue.bind, fetch_of_plain later, Cpu.past_one_past_one]
  rfl

end Microcode

namespace Instruction
open Microcode

/-- **An instruction reads its operands first**, one byte after the other, and what it does then it does
behind them. -/
theorem perform_of_plain (instruction : Instruction) {cpu : Cpu} (plain : cpu.haltBug = false) :
    instruction.perform cpu = (Dialogue.readFrom instruction.operandBytes cpu.regs.pc).bind fun operands =>
      instruction.performWith operands (cpu.past instruction.operandBytes) := by
  cases instruction with
  | bits | copyImmediate | combineImmediate | storeHigh | loadHigh | addToSp | copySpToHl | jumpRelative
  | jumpRelativeIf =>
    show (fetch cpu).bind _ = _
    rw [fetch_of_plain plain]
    rfl
  | storeAbsolute | loadAbsolute | wordImmediate | storeSp | jump | jumpIf | call | callIf =>
    show (fetchWord cpu).bind _ = _
    rw [fetchWord_of_plain plain]
    rfl
  | _ =>
    exact (congrArg (Instruction.perform _) cpu.past_zero.symm).trans rfl

end Instruction
end DotMatrix
