import DotMatrix.Machine.Basic
import DotMatrix.Proofs.Cpu.Timing
import DotMatrix.Proofs.Lcd.Entry

/-! # Frames and steps

A frame is finished deep inside a step, in one of the M-cycles that the processor passes on to the
memory map, and collected when the step is done.  Since a step has few M-cycles it finishes one frame
at most (`since_step`).  `handed` lists the frames that a step hands over, `frames_of_ok` says that
they are the frames it finished, and `handed_of_error` that a step that fails hands over none.
-/
namespace DotMatrix

/-! ## The memory map -/

namespace MemoryMap

/-- All that a store in the memory map can do to the LCD. -/
inductive LcdStore (map : MemoryMap) (address : UInt16) (value : UInt8) : Prop where
  | none (stored : (map.write address value).lcd = map.lcd)
  | video (region : Region.of address = .video) (accessible : map.lcd.vramOpen = true)
    (stored : (map.write address value).lcd = map.lcd.writeVram address value)
  | objects (region : Region.of address = .objects) (accessible : map.objectsOpen = true)
    (stored : (map.write address value).lcd = map.lcd.writeOam address value)
  | register (region : Region.of address = .lcd ∨ Region.of address = .copy)
    (stored : (map.write address value).lcd = map.lcd.write address value)

theorem lcdStore (map : MemoryMap) (address : UInt16) (value : UInt8) :
    LcdStore map address value := by
  cases region : Region.of address with
  | video =>
    by_cases accessible : map.lcd.vramOpen = true
    · exact .video region accessible (by simp only [write, region, accessible, if_true])
    · exact .none (by simp only [write, region, if_neg accessible])
  | objects =>
    by_cases accessible : map.objectsOpen = true
    · exact .objects region accessible (by simp only [write, region, accessible, if_true])
    · exact .none (by simp only [write, region, if_neg accessible])
  | lcd => exact .register (.inl region) (by simp only [write, region])
  | copy => exact .register (.inr region) (by simp only [write, region])
  | program | save => exact .none (by simp only [write, region, mapCart])
  | _ => exact .none (by simp only [write, region])

theorem since_write {before : Lcd} {map : MemoryMap} {slices : Nat}
    (h : Lcd.Since before slices map.lcd) (address : UInt16) (value : UInt8) :
    Lcd.Since before slices (map.write address value).lcd := by
  cases map.lcdStore address value with
  | none stored =>
    rw [stored]
    exact h
  | video _ _ stored | objects _ _ stored =>
    rw [stored]
    exact h.congr rfl rfl fun far => far.congr rfl rfl rfl
  | register _ stored =>
    rw [stored]
    exact h.write address value

theorem since_tick {before : Lcd} {map : MemoryMap} {slices : Nat} (few : slices ≤ 100)
    (h : Lcd.Since before slices map.lcd) : Lcd.Since before (slices + 1) map.tick.lcd := by
  have moved : Lcd.Since before (slices + 1) map.tickDevices.lcd := by
    show Lcd.Since before (slices + 1) (map.lcd.advance 4).1
    rw [Lcd.advance_four]
    exact h.slice few 4
  unfold tick tickDma
  split
  · exact moved.congr rfl rfl fun far => far.congr rfl rfl rfl
  · exact moved

/-- What the frames do, as long as not too many M-cycles pass. -/
theorem keeps_since (before : Lcd) : Dialogue.Keeps fun ticks (map : MemoryMap) =>
    ticks ≤ 101 → Lcd.Since before ticks map.lcd where
  read h _ := h
  write h address value few := since_write (h few) address value
  tick h few := since_tick (by omega) (h (by omega))
  acknowledge h _ := h
  poll h := h
  resetDivider h := h

end MemoryMap

namespace Cpu

/-- **A step finishes one frame at most.** -/
theorem since_step (cpu : Cpu) (map : MemoryMap) :
    ∃ ticks, Lcd.Since map.lcd ticks (cpu.step.run map).2.lcd := by
  have few := (ticks_step_le cpu).of_record map
  have begun : 0 ≤ 101 → Lcd.Since map.lcd 0 map.lcd := fun _ => .quiet rfl rfl
  have ended := (MemoryMap.keeps_since map.lcd).run cpu.step begun
  exact ⟨_, ended (by omega)⟩

end Cpu

namespace Machine

/-! ## The parts of a step -/

/-- The frames that a step hands over. -/
def handed (machine : Machine) : List ByteArray :=
  match machine.cpu.step.run machine.memory with
  | (outcome, memory) =>
    match outcome.result with
    | .ok _ => if memory.lcd.frameReady then [memory.lcd.screen.rgba] else []
    | .error _ => []

/-- What a step is before frames are looked at. -/
def uncollected (machine : Machine) : Machine :=
  match machine with
  | ⟨cpu, memory, sink, frameDone, journal⟩ =>
    match cpu.step.run memory with
    | (outcome, after) =>
      ⟨outcome.cpu, after, sink, frameDone,
        (outcome.log journal).writeAll (after.bootNotices memory.bootMapped)⟩

/-- A step that went well collects a frame, and one that failed does not. -/
theorem step_eq (machine : Machine) :
    machine.step = ((machine.cpu.step.run machine.memory).1.result,
      match (machine.cpu.step.run machine.memory).1.result with
      | .ok _ => machine.uncollected.collectFrame
      | .error _ => machine.uncollected) := by
  obtain ⟨cpu, memory, sink, frameDone, journal⟩ := machine
  unfold step uncollected
  dsimp only
  split <;> rename_i h <;> rw [h]

/-- How the machine is left by a step that went well. -/
theorem step_of_ok {machine : Machine} {spent : Nat} (went : machine.step.1 = .ok spent) :
    (machine.cpu.step.run machine.memory).1.result = .ok spent ∧
      machine.step.2 = machine.uncollected.collectFrame := by
  rw [step_eq] at went ⊢
  dsimp only at went ⊢
  rw [went]
  exact ⟨rfl, rfl⟩

/-- How the machine is left by a step that failed. -/
theorem step_of_error {machine : Machine} {fault : Fault} (failed : machine.step.1 = .error fault) :
    (machine.cpu.step.run machine.memory).1.result = .error fault ∧
      machine.step.2 = machine.uncollected := by
  rw [step_eq] at failed ⊢
  dsimp only at failed ⊢
  rw [failed]
  exact ⟨rfl, rfl⟩

/-! ## Collecting -/

theorem frames_collectFrame (machine : Machine) : machine.collectFrame.frames = machine.frames := by
  unfold collectFrame
  split <;> rfl

theorem screen_collectFrame (machine : Machine) : machine.collectFrame.screen = machine.screen := by
  unfold collectFrame
  split <;> rfl

theorem frameReady_collectFrame (machine : Machine) :
    machine.collectFrame.memory.lcd.frameReady = false := by
  unfold collectFrame
  split
  · rfl
  · rename_i unready
    exact Bool.not_eq_true _ ▸ unready

theorem sink_collectFrame (machine : Machine) : machine.collectFrame.sink =
    if machine.memory.lcd.frameReady then machine.sink.map (·.publish machine.screen.rgba)
    else machine.sink := by
  unfold collectFrame
  split <;> rfl

/-- What is handed over is published, in this order, and nothing else is. -/
theorem sink_step (machine : Machine) : machine.step.2.sink =
    machine.sink.map fun sink => machine.handed.foldl Handoff.publish sink := by
  rw [step_eq]
  unfold handed
  dsimp only
  split
  · rw [sink_collectFrame]
    show (if (machine.cpu.step.run machine.memory).2.lcd.frameReady then _ else _) = _
    split
    · rfl
    · exact Option.map_id.symm ▸ rfl
  · exact Option.map_id.symm ▸ rfl

/-! ## Frames of a step -/

/-- The frames of the LCD after a step. -/
theorem frames_step (machine : Machine) :
    machine.step.2.frames = (machine.cpu.step.run machine.memory).2.lcd.frames := by
  rw [step_eq]
  dsimp only
  split
  · exact frames_collectFrame _
  · rfl

/-- **A step finishes no frame or one.** -/
theorem frames_step_le (machine : Machine) :
    machine.step.2.frames = machine.frames ∨ machine.step.2.frames = machine.frames + 1 := by
  obtain ⟨ticks, since⟩ := machine.cpu.since_step machine.memory
  rw [frames_step]
  cases since with
  | quiet kept => exact .inl kept
  | entered grown => exact .inr grown

/-- What is handed over is the picture at the end of the step. -/
theorem eq_of_mem_handed {machine : Machine} {frame : ByteArray} (member : frame ∈ machine.handed) :
    frame = machine.step.2.screen.rgba := by
  unfold handed at member
  dsimp only at member
  rw [step_eq]
  split at member
  · dsimp only
    rw [screen_collectFrame]
    split at member
    · exact List.mem_singleton.mp member
    · cases member
  · cases member

/-- A step hands over one frame at most. -/
theorem length_handed_le (machine : Machine) : machine.handed.length ≤ 1 := by
  unfold handed
  dsimp only
  split
  · split
    · exact Nat.le_refl 1
    · exact Nat.zero_le 1
  · exact Nat.zero_le 1

/-- A step that fails hands over nothing. -/
theorem handed_of_error {machine : Machine} {fault : Fault} (failed : machine.step.1 = .error fault) :
    machine.handed = [] := by
  unfold handed
  dsimp only
  rw [(step_of_error failed).1]

/-! ## Frames that are left over -/

/-- No finished frame waits to be collected, unless no step will ever collect it. -/
def Settled (machine : Machine) : Prop :=
  machine.memory.lcd.frameReady = true → machine.cpu.fault ≠ none

/-- Whatever was before, a step leaves nothing over. -/
theorem settled_step (machine : Machine) : machine.step.2.Settled := by
  cases result : machine.step.1 with
  | ok spent =>
    rw [(step_of_ok result).2]
    intro left
    rw [frameReady_collectFrame] at left
    cases left
  | error fault =>
    obtain ⟨failed, after⟩ := step_of_error result
    rw [after]
    intro _
    show (machine.cpu.step.run machine.memory).1.cpu.fault ≠ none
    rw [Cpu.fault_of_step failed]
    exact nofun

/-- A processor with a fault makes no step go well. -/
theorem fault_of_ok {machine : Machine} {spent : Nat} (went : machine.step.1 = .ok spent) :
    machine.cpu.fault = none := by
  obtain ⟨result, -⟩ := step_of_ok went
  cases faulty : machine.cpu.fault with
  | none => rfl
  | some fault =>
    rw [Cpu.step_of_fault faulty] at result
    cases result

/-- How many frames a step that went well hands over. -/
theorem length_handed_of_ok {machine : Machine} {spent : Nat} (went : machine.step.1 = .ok spent) :
    machine.handed.length =
      if (machine.cpu.step.run machine.memory).2.lcd.frameReady then 1 else 0 := by
  unfold handed
  dsimp only
  rw [(step_of_ok went).1]
  dsimp only
  split <;> rfl

/-- **A step that goes well hands over the frame it finished**, if nothing was left over. -/
theorem frames_of_ok {machine : Machine} {spent : Nat} (settled : machine.Settled)
    (went : machine.step.1 = .ok spent) :
    machine.step.2.frames = machine.frames + machine.handed.length := by
  -- A frame that waited would mean a fault, and then the step would have been refused.
  have unready : machine.memory.lcd.frameReady = false := by
    rw [← Bool.not_eq_true]
    exact fun left => settled left (fault_of_ok went)
  obtain ⟨ticks, since⟩ := machine.cpu.since_step machine.memory
  rw [frames_step, length_handed_of_ok went]
  cases since with
  | quiet kept still =>
    rw [kept, still, unready]
    rfl
  | entered grown waits =>
    rw [grown, waits]
    rfl

/-- What was left over is handed over in the first step that goes well. -/
theorem handed_of_left {machine : Machine} {spent : Nat}
    (left : machine.memory.lcd.frameReady = true) (went : machine.step.1 = .ok spent) :
    machine.handed.length = 1 := by
  obtain ⟨ticks, since⟩ := machine.cpu.since_step machine.memory
  rw [length_handed_of_ok went]
  cases since with
  | quiet kept still => rw [still, left, if_pos rfl]
  | entered grown waits => rw [waits, if_pos rfl]

end Machine
end DotMatrix
