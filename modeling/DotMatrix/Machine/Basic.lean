import DotMatrix.Cpu.Progress
import DotMatrix.Handoff
import DotMatrix.MemoryMap

/-! # The machine

A processor, the memory map it drives, and whoever takes the frames. A step of the machine is a step
of the processor; a frame that the LCD finished in it is handed over when the step is done. A step
that fails hands nothing over.
-/
namespace DotMatrix

/-- A console. -/
structure Machine where
  cpu : Cpu
  memory : MemoryMap
  /-- Where finished frames go, if anywhere. -/
  sink : Option Handoff := none
  /-- Whether a frame was finished since this was last put back. -/
  frameDone : Bool := false
  journal : Journal := {}

namespace Machine

/-- A machine as the boot program leaves it, with an empty slot. -/
def afterBoot : Machine := { cpu := .afterBoot, memory := .afterBoot }

instance : Inhabited Machine := ⟨afterBoot⟩

/-! ## Setting up -/

/-- Put a cartridge into the slot. -/
def insert (machine : Machine) (cart : Cartridge) : Machine :=
  { machine with memory := machine.memory.insert cart }

/-- Do something to everything but the processor, and say what became of the boot program. -/
@[inline]
def onMemory (machine : Machine) (change : MemoryMap → MemoryMap) : Machine :=
  match machine with
  | ⟨cpu, memory, sink, frameDone, journal⟩ =>
    let wasMapped := memory.bootMapped
    match change memory with
    | memory =>
      ⟨cpu, memory, sink, frameDone, journal.writeAll (memory.bootNotices wasMapped)⟩

/-- Switch the machine off and on again with a boot program over the start of the program window.
The cartridge stays in its slot. -/
def loadBoot (machine : Machine) (image : ByteArray) : Machine :=
  { machine with
    cpu := .powerOn
    memory := machine.memory.reset.mapBoot image
    journal := machine.journal.writeAll [MemoryMap.bootMappedNotice image] }

/-- Hand over every frame finished from now on. -/
def setSink (machine : Machine) (sink : Handoff) : Machine := { machine with sink := some sink }

/-! ## Steps -/

/-- Collect a frame that was finished, and hand it over. -/
def collectFrame (machine : Machine) : Machine :=
  if machine.memory.lcd.frameReady then
    match machine with
    | ⟨cpu, memory, sink, _, journal⟩ =>
      let sink := sink.map (·.publish memory.lcd.screen.rgba)
      ⟨cpu, { memory with lcd := memory.lcd.takeFrameReady.2 }, sink, true, journal⟩
  else machine

/-- **One step**, and the T-cycles it took or the fault that ended it. -/
def step (machine : Machine) : Except Fault Nat × Machine :=
  match machine with
  | ⟨cpu, memory, sink, frameDone, journal⟩ =>
    let wasMapped := memory.bootMapped
    match cpu.step.run memory with
    | (outcome, memory) =>
      let journal := (outcome.log journal).writeAll (memory.bootNotices wasMapped)
      let after : Machine := ⟨outcome.cpu, memory, sink, frameDone, journal⟩
      match outcome.result with
      | .ok spent => (.ok spent, after.collectFrame)
      | .error fault => (.error fault, after)

@[simp]
theorem cpu_collectFrame (machine : Machine) : machine.collectFrame.cpu = machine.cpu := by
  unfold collectFrame
  split <;> rfl

/-- **A step that does not fail takes at least one M-cycle**, and the processor counts what it
takes. -/
theorem cost_of_step {machine after : Machine} {spent : Nat}
    (h : machine.step = (.ok spent, after)) :
    4 ≤ spent ∧ after.cpu.cycles = machine.cpu.cycles + spent := by
  unfold step at h
  split at h
  rename_i cpu memory _ _ _
  split at h
  rename_i outcome _ run
  dsimp only at h
  split at h
  · rename_i result
    simp only [Prod.mk.injEq, Except.ok.injEq] at h
    have answer : (cpu.step.run memory).1.result = .ok spent := by
      rw [run, ← h.1]
      exact result
    have counted := Cpu.cycles_of_step answer
    rw [run] at counted
    rw [← h.2, cpu_collectFrame]
    exact ⟨Cpu.four_le_of_step answer, counted⟩
  · simp at h

/-! ## What a machine shows -/

/-- Frames finished so far. -/
def frames (machine : Machine) : Nat := machine.memory.lcd.frames

/-- The picture as it is now. -/
def screen (machine : Machine) : Screen := machine.memory.lcd.screen

/-- The bytes sent over the serial port since they were last taken. -/
def takeSerial (machine : Machine) : Array UInt8 × Machine :=
  match machine.memory.serial.take with
  | (bytes, serial) => (bytes, { machine with memory := { machine.memory with serial := serial } })

end Machine
end DotMatrix
