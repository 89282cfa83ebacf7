import DotMatrix.Bus.Dialogue
import DotMatrix.Cpu.Arithmetic
import DotMatrix.Cpu.Basic
import DotMatrix.Cpu.Instruction

/-! # Microcode

What each instruction does, M-cycle by M-cycle. Microcode talks to the bus and changes the processor.
Every access to memory takes one M-cycle, which the bus is told right after the access; other
M-cycles are `idle`. Nothing else passes time.
-/
namespace DotMatrix

/-- Something the processor does: a dialogue with the bus that also changes the processor. -/
abbrev Microcode := StateT Cpu Dialogue

namespace Microcode

/-! ## Steps that touch the bus -/

/-- One M-cycle without an access. -/
def idle : Microcode Unit := fun cpu =>
  .tick (.done ((), { cpu with cycles := cpu.cycles + 4 }))

/-- Read a byte, in one M-cycle. -/
def load (address : UInt16) : Microcode UInt8 := fun cpu =>
  .read address fun value => .tick (.done (value, { cpu with cycles := cpu.cycles + 4 }))

/-- Write a byte, in one M-cycle. -/
def store (address : UInt16) (value : UInt8) : Microcode Unit := fun cpu =>
  .write address value (.tick (.done ((), { cpu with cycles := cpu.cycles + 4 })))

/-- The sources that wait for service. -/
def pending : Microcode UInt8 := fun cpu => .pending fun mask => .done (mask, cpu)

/-- Clear the divider of the timer. -/
def resetDivider : Microcode Unit := fun cpu => .resetDivider (.done ((), cpu))

/-- Withdraw the request of a source. -/
def acknowledge (source : Interrupt) : Microcode Unit := fun cpu =>
  .acknowledge source (.done ((), cpu))

/-! ## Registers -/

/-- A value read off the registers. -/
def look {α : Type} (view : Registers → α) : Microcode α := fun cpu => .done (view cpu.regs, cpu)

/-- A change of the registers. -/
def change (update : Registers → Registers) : Microcode Unit := fun cpu =>
  .done ((), { cpu with regs := update cpu.regs })

/-- Store the flags. -/
def setFlags (flags : Flags) : Microcode Unit := change ({ · with flags := flags })

/-- Store a result and its flags in A. -/
def setResult (result : UInt8 × Flags) : Microcode Unit :=
  change ({ · with a := result.1, flags := result.2 })

/-- Go on at an address. -/
def goTo (address : UInt16) : Microcode Unit := change ({ · with pc := address })

/-- Start or stop waiting. -/
def setState (state : RunState) : Microcode Unit := fun cpu =>
  .done ((), { cpu with state := state })

/-- Serve interrupts, or serve them no longer, at once. -/
def setIme (on : Bool) : Microcode Unit := fun cpu => .done ((), { cpu with ime := on })

/-- Ask that interrupts be served after the next instruction, or withdraw that. -/
def setEnabling (on : Bool) : Microcode Unit := fun cpu => .done ((), { cpu with enabling := on })

/-! ## Fetching -/

/-- Move the program counter past a byte, unless it was told to stay once. -/
def advance : Microcode Unit := fun cpu =>
  .done ((), if cpu.haltBug then { cpu with haltBug := false }
    else { cpu with regs := { cpu.regs with pc := cpu.regs.pc + 1 } })

/-- The next byte of the program. -/
def fetch : Microcode UInt8 := do
  let value ← load (← look Registers.pc)
  advance
  return value

/-- The next word of the program, low byte first. -/
def fetchWord : Microcode UInt16 := do
  let low ← fetch
  let high ← fetch
  return wordOf high low

/-! ## The stack -/

/-- Push a word: the stack grows downwards, and the high byte goes first. -/
def pushWord (word : UInt16) : Microcode Unit := do
  change fun regs => { regs with sp := regs.sp - 1 }
  store (← look Registers.sp) (highByte word)
  change fun regs => { regs with sp := regs.sp - 1 }
  store (← look Registers.sp) (lowByte word)

/-- Pop a word. -/
def popWord : Microcode UInt16 := do
  let low ← load (← look Registers.sp)
  change fun regs => { regs with sp := regs.sp + 1 }
  let high ← load (← look Registers.sp)
  change fun regs => { regs with sp := regs.sp + 1 }
  return wordOf high low

end Microcode

/-! ## Operands -/

namespace ByteRegister

/-- The content of a register. -/
def get : ByteRegister → Registers → UInt8
  | b, regs => regs.b
  | c, regs => regs.c
  | d, regs => regs.d
  | e, regs => regs.e
  | h, regs => regs.h
  | l, regs => regs.l
  | a, regs => regs.a

/-- Store a byte in a register. -/
def set : ByteRegister → UInt8 → Registers → Registers
  | b, value, regs => { regs with b := value }
  | c, value, regs => { regs with c := value }
  | d, value, regs => { regs with d := value }
  | e, value, regs => { regs with e := value }
  | h, value, regs => { regs with h := value }
  | l, value, regs => { regs with l := value }
  | a, value, regs => { regs with a := value }

end ByteRegister

namespace Place
open Microcode

/-- Read the operand; in memory this takes an M-cycle. -/
def get : Place → Microcode UInt8
  | register name => look name.get
  | atHl => do load (← look Registers.hl)

/-- Store the operand; in memory this takes an M-cycle. -/
def set : Place → UInt8 → Microcode Unit
  | register name, value => change (name.set value)
  | atHl, value => do store (← look Registers.hl) value

end Place

namespace Pair

/-- The content of a pair. -/
def get : Pair → Registers → UInt16
  | bc, regs => regs.bc
  | de, regs => regs.de
  | hl, regs => regs.hl
  | sp, regs => regs.sp

/-- Store a word in a pair. -/
def set : Pair → UInt16 → Registers → Registers
  | bc, word, regs => regs.setBc word
  | de, word, regs => regs.setDe word
  | hl, word, regs => regs.setHl word
  | sp, word, regs => { regs with sp := word }

end Pair

namespace StackPair

/-- The content of a pair. -/
def get : StackPair → Registers → UInt16
  | bc, regs => regs.bc
  | de, regs => regs.de
  | hl, regs => regs.hl
  | af, regs => regs.af

/-- Store a word in a pair; the lower half of F is lost. -/
def set : StackPair → UInt16 → Registers → Registers
  | bc, word, regs => regs.setBc word
  | de, word, regs => regs.setDe word
  | hl, word, regs => regs.setHl word
  | af, word, regs => regs.setAf word

end StackPair

namespace Pointer
open Microcode

/-- The address, after which HL is stepped where the pointer asks for it. -/
def take : Pointer → Microcode UInt16
  | bc => look Registers.bc
  | de => look Registers.de
  | hlUp => do
    let address ← look Registers.hl
    change (·.setHl (address + 1))
    return address
  | hlDown => do
    let address ← look Registers.hl
    change (·.setHl (address - 1))
    return address

end Pointer

namespace Condition

/-- Whether the flags pass the test. -/
def holds : Condition → Flags → Bool
  | notZero, flags => !flags.zero
  | zero, flags => flags.zero
  | notCarry, flags => !flags.carry
  | carry, flags => flags.carry

end Condition

/-! ## Operations -/

namespace ByteOperation

/-- The result in A and the flags; a comparison leaves A alone. -/
def apply (operation : ByteOperation) (a value : UInt8) (carry : Bool) : UInt8 × Flags :=
  match operation with
  | add => Arithmetic.add a value false
  | addCarry => Arithmetic.add a value carry
  | sub => Arithmetic.sub a value false
  | subCarry => Arithmetic.sub a value carry
  | and => Arithmetic.and a value
  | xor => Arithmetic.xor a value
  | or => Arithmetic.or a value
  | compare => (a, (Arithmetic.sub a value false).2)

end ByteOperation

namespace Shift

/-- The shifted byte and the flags. -/
def apply (kind : Shift) (value : UInt8) (flags : Flags) : UInt8 × Flags :=
  match kind with
  | rotateLeft => Arithmetic.rotateLeft value
  | rotateRight => Arithmetic.rotateRight value
  | rotateLeftCarry => Arithmetic.rotateLeftCarry value flags
  | rotateRightCarry => Arithmetic.rotateRightCarry value flags
  | left => Arithmetic.shiftLeft value
  | rightSigned => Arithmetic.shiftRightSigned value
  | swap => Arithmetic.swap value
  | right => Arithmetic.shiftRight value

end Shift

namespace Rotation

/-- The shift behind the short form. -/
def shift : Rotation → Shift
  | left => .rotateLeft
  | right => .rotateRight
  | leftCarry => .rotateLeftCarry
  | rightCarry => .rotateRightCarry

end Rotation

namespace Microcode

/-- Combine a byte with A. -/
def combineA (operation : ByteOperation) (value : UInt8) : Microcode Unit :=
  change fun regs =>
    let (result, flags) := operation.apply regs.a value regs.flags.carry
    { regs with a := result, flags := flags }

/-- Jump by a signed byte, counted from the next instruction. -/
def jumpBy (offset : UInt8) : Microcode Unit := do
  idle
  change fun regs => { regs with pc := regs.pc + signExtend offset }

/-- Jump to an address. -/
def jumpTo (target : UInt16) : Microcode Unit := do
  idle
  goTo target

/-- Push the program counter and go on at an address. -/
def callTo (target : UInt16) : Microcode Unit := do
  idle
  pushWord (← look Registers.pc)
  goTo target

/-- Pop the program counter. -/
def returnToCaller : Microcode Unit := do
  let target ← popWord
  goTo target
  idle

/-- An address in the page at 0xFF00. -/
def highPage (offset : UInt8) : UInt16 := wordOf 0xFF offset

/-- Wait for an interrupt. With interrupts off and one waiting already there is nothing to wait for:
if interrupts are about to be enabled the HALT is executed again after the handler returns, and if
not the next opcode is fetched without moving on. -/
def halt : Microcode Unit := fun cpu =>
  .pending fun waiting =>
    .done ((),
      if cpu.ime || waiting == 0 then { cpu with state := .halted }
      else if cpu.enabling then { cpu with regs := { cpu.regs with pc := cpu.regs.pc - 1 } }
      else { cpu with haltBug := true })

end Microcode

open Microcode

/-! ## Instructions -/

namespace BitInstruction

/-- Carry out an instruction of the second page. -/
def perform : BitInstruction → Microcode Unit
  | shift kind place => do
    let value ← place.get
    let out := kind.apply value (← look Registers.flags)
    place.set out.1
    setFlags out.2
  | test index place => do
    let value ← place.get
    change fun regs => { regs with flags := Arithmetic.testBit index value regs.flags }
  | clear index place => do
    let value ← place.get
    place.set (value &&& ~~~(bitMask index))
  | set index place => do
    let value ← place.get
    place.set (value ||| bitMask index)

end BitInstruction

namespace Instruction

/-- Carry out an instruction whose opcode has been fetched. -/
def perform : Instruction → Microcode Unit
  | nop => pure ()
  | stop => do
    change fun regs => { regs with pc := regs.pc + 1 }
    resetDivider
    setState .stopped
  | halt => Microcode.halt
  | disableInterrupts => do
    setIme false
    setEnabling false
  | enableInterrupts => setEnabling true
  | bits => do
    let opcode ← fetch
    (BitInstruction.decode opcode).perform
  | copy target source => do target.set (← source.get)
  | copyImmediate target => do target.set (← fetch)
  | combine operation source => do combineA operation (← source.get)
  | combineImmediate operation => do combineA operation (← fetch)
  | increment place => do
    let value ← place.get
    let out := Arithmetic.inc value (← look Registers.flags)
    place.set out.1
    setFlags out.2
  | decrement place => do
    let value ← place.get
    let out := Arithmetic.dec value (← look Registers.flags)
    place.set out.1
    setFlags out.2
  | rotateA rotation =>
    change fun regs =>
      let (result, flags) := rotation.shift.apply regs.a regs.flags
      { regs with a := result, flags := { flags with zero := false } }
  | decimalAdjust => do setResult (← look fun regs => Arithmetic.decimalAdjust regs.a regs.flags)
  | complement => do setResult (← look fun regs => Arithmetic.complement regs.a regs.flags)
  | setCarry => change fun regs => { regs with flags := Arithmetic.setCarry regs.flags }
  | flipCarry => change fun regs => { regs with flags := Arithmetic.flipCarry regs.flags }
  | storeA pointer => do
    let address ← pointer.take
    store address (← look Registers.a)
  | loadA pointer => do
    let address ← pointer.take
    let value ← load address
    change ({ · with a := value })
  | storeHigh => do
    let offset ← fetch
    store (highPage offset) (← look Registers.a)
  | loadHigh => do
    let offset ← fetch
    let value ← load (highPage offset)
    change ({ · with a := value })
  | storeHighC => do store (highPage (← look Registers.c)) (← look Registers.a)
  | loadHighC => do
    let value ← load (highPage (← look Registers.c))
    change ({ · with a := value })
  | storeAbsolute => do
    let address ← fetchWord
    store address (← look Registers.a)
  | loadAbsolute => do
    let address ← fetchWord
    let value ← load address
    change ({ · with a := value })
  | wordImmediate pair => do
    let word ← fetchWord
    change (pair.set word)
  | addToHl pair => do
    change fun regs =>
      let (sum, flags) := Arithmetic.addWord regs.hl (pair.get regs) regs.flags
      { regs.setHl sum with flags := flags }
    idle
  | incrementPair pair => do
    change fun regs => pair.set (pair.get regs + 1) regs
    idle
  | decrementPair pair => do
    change fun regs => pair.set (pair.get regs - 1) regs
    idle
  | storeSp => do
    let address ← fetchWord
    let sp ← look Registers.sp
    store address (lowByte sp)
    store (address + 1) (highByte sp)
  | copyHlToSp => do
    change fun regs => { regs with sp := regs.hl }
    idle
  | addToSp => do
    let offset ← fetch
    idle
    idle
    change fun regs =>
      let (sum, flags) := Arithmetic.addSigned regs.sp offset
      { regs with sp := sum, flags := flags }
  | copySpToHl => do
    let offset ← fetch
    idle
    change fun regs =>
      let (sum, flags) := Arithmetic.addSigned regs.sp offset
      { regs.setHl sum with flags := flags }
  | push pair => do
    idle
    pushWord (← look pair.get)
  | pop pair => do
    let word ← popWord
    change (pair.set word)
  | jumpRelative => do jumpBy (← fetch)
  | jumpRelativeIf condition => do
    let offset ← fetch
    if condition.holds (← look Registers.flags) then jumpBy offset
  | jump => do jumpTo (← fetchWord)
  | jumpIf condition => do
    let target ← fetchWord
    if condition.holds (← look Registers.flags) then jumpTo target
  | jumpHl => change fun regs => { regs with pc := regs.hl }
  | call => do callTo (← fetchWord)
  | callIf condition => do
    let target ← fetchWord
    if condition.holds (← look Registers.flags) then callTo target
  | ret => returnToCaller
  | retIf condition => do
    idle
    if condition.holds (← look Registers.flags) then returnToCaller
  | retInterrupt => do
    returnToCaller
    setIme true
  | restart slot => callTo (UInt16.ofNat (8 * slot))

end Instruction
end DotMatrix
