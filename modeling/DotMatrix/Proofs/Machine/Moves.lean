import DotMatrix.Proofs.MemoryMap.PictureMemory

/-! # What a run does to the memory map

A machine is moved by its steps, and by whatever its owner does to the memory map between them.  For the
memory map a step is nothing but the calls that the processor makes in it, and perhaps a frame that is
taken; so a run of the machine is a longer run of the memory map (`memory_moves`), and what holds of every
operation holds of every moment inside a step, too.  For the memories of the picture this is
`picture_memory_protected`.
-/
namespace DotMatrix
open MemoryMap (Operation)

/-- The operations that are calls lead where the calls lead. -/
theorem MemoryMap.performs_calls (map : MemoryMap) (made : List Call) :
    map.performs (made.map .call) = map.calls made :=
  List.foldl_map

namespace Machine

/-- What moves a machine. -/
inductive Move where
  /-- A step, whether it fails or not. -/
  | step
  /-- Something done to the memory map. -/
  | perform (operation : Operation)

/-- The machine after a move. -/
def move (machine : Machine) : Move → Machine
  | .step => machine.step.2
  | .perform operation => { machine with memory := machine.memory.perform operation }

/-- The machine after several moves. -/
def moves (machine : Machine) (made : List Move) : Machine := made.foldl move machine

/-- What a move does to the memory map, operation by operation. -/
def operations (machine : Machine) : Move → List Operation
  | .step =>
    (machine.cpu.step.record machine.memory).1.map .call ++
      match machine.step.1 with
      | .ok _ => [.takeFrame]
      | .error _ => []
  | .perform operation => [operation]

/-- What several moves do to the memory map, operation by operation. -/
def trail (machine : Machine) : List Move → List Operation
  | [] => []
  | first :: more => machine.operations first ++ (machine.move first).trail more

theorem memory_collectFrame (machine : Machine) :
    machine.collectFrame.memory = machine.memory.perform .takeFrame := by
  unfold collectFrame
  split
  · rfl
  · -- There is no frame to take, and taking it leaves everything as it is.
    rename_i none
    have unready : machine.memory.lcd.frameReady = false := Bool.eq_false_iff.mpr none
    show machine.memory = { machine.memory with lcd := { machine.memory.lcd with frameReady := false } }
    rw [← unready]

/-- The operations of a move lead where the move leads. -/
theorem memory_move (machine : Machine) (made : Move) :
    (machine.move made).memory = machine.memory.performs (machine.operations made) := by
  cases made with
  | perform operation => rfl
  | step =>
    show machine.step.2.memory = machine.memory.performs (_ ++ match machine.step.1 with
      | .ok _ => [.takeFrame]
      | .error _ => [])
    rw [MemoryMap.performs_append, MemoryMap.performs_calls, MemoryMap.calls_record, step_eq]
    dsimp only
    cases (machine.cpu.step.run machine.memory).1.result with
    | ok spent => exact machine.uncollected.memory_collectFrame
    | error fault => rfl

/-- **A run of the machine is a run of the memory map.** -/
theorem memory_moves (machine : Machine) (made : List Move) :
    (machine.moves made).memory = machine.memory.performs (machine.trail made) := by
  induction made generalizing machine with
  | nil => rfl
  | cons first more ih =>
    show ((machine.move first).moves more).memory = _
    rw [ih, memory_move, trail, MemoryMap.performs_append]

/-- The power stays on in a run in which nobody switches it off. -/
theorem reset_not_mem_trail {machine : Machine} {made : List Move} (on : .perform .reset ∉ made) :
    .reset ∉ machine.trail made := by
  induction made generalizing machine with
  | nil => exact List.not_mem_nil
  | cons first more ih =>
    rw [List.mem_cons, not_or] at on
    rw [trail, List.mem_append, not_or]
    refine ⟨?_, ih on.2⟩
    cases first with
    | perform operation =>
      intro member
      exact on.1 (congrArg Move.perform (List.mem_singleton.mp member))
    | step =>
      intro member
      rcases List.mem_append.mp member with call | taken
      · obtain ⟨made, -, equal⟩ := List.mem_map.mp call
        cases equal
      · revert taken
        cases machine.step.1 <;> simp

/-! ## The memories of the picture -/

/-- **How a memory of the picture is kept in a run.** -/
structure Protected (memory : PictureMemory) (machine : Machine) (made : List Move) : Prop where
  /-- The run is that of the operations one after the other. -/
  course : (machine.moves made).memory = machine.memory.performs (machine.trail made)
  /-- The memory is guarded before each of them, and at the end. -/
  guarded : ∀ earlier later, machine.trail made = earlier ++ later →
    memory.Guarded (machine.memory.performs earlier)
  /-- A byte that is not what it was at first was stored or moved by one of them. -/
  changed : ∀ address, memory.Covers address →
    memory.byte (machine.moves made).memory address ≠ memory.byte machine.memory address →
      ∃ earlier operation later, machine.trail made = earlier ++ operation :: later ∧
        memory.Changer (machine.memory.performs earlier) address operation

/-- **The memories of the picture are protected** in every run in which the power stays on, however the
machine was used before. -/
theorem picture_memory_protected (memory : PictureMemory) (machine : Machine)
    (reachable : MemoryMap.Reachable machine.memory) (made : List Move)
    (on : .perform .reset ∉ made) : Protected memory machine made where
  course := machine.memory_moves made
  guarded earlier _ _ := PictureMemory.guarded_of_reachable (reachable.performs earlier) memory
  changed address covers changed := by
    rw [memory_moves] at changed
    exact PictureMemory.changer_of_performs reachable covers (reset_not_mem_trail on) changed

/-- A byte that is stored in video memory while the LCD is off, and read again after a step. -/
theorem video_memory_protected_after_store :
    let first : List Operation := [.call (.write 0xFF40 0)]
    let second : List Operation := first ++ [.call (.write 0x8123 7)]
    let made : List Move := second.map .perform ++ [.step]
    Protected .video afterBoot made ∧ (afterBoot.memory.performs second).read 0x8123 = 7 ∧
      PictureMemory.Changer .video (afterBoot.memory.performs first) 0x8123 (.call (.write 0x8123 7)) := by
  intro first second made
  have kept : Protected .video afterBoot made :=
    picture_memory_protected .video afterBoot .afterBoot made (by simp [made, second, first])
  have covers : PictureMemory.video.Covers 0x8123 := ⟨by decide, by decide⟩
  have before : PictureMemory.Open (afterBoot.memory.performs first) .video :=
    .inl (by decide)
  have after : PictureMemory.Open (afterBoot.memory.performs second) .video :=
    .inl (by decide)
  have course := afterBoot.memory.performs_append first [.call (.write 0x8123 7)]
  have stored : PictureMemory.video.byte (afterBoot.memory.performs second) 0x8123 = 7 := by
    rw [course]
    exact (kept.guarded first _ rfl).stored 0x8123 7 covers before
  have shown := (kept.guarded second _ rfl).shown 0x8123 covers after
  exact ⟨kept, shown.trans stored, .store 7 before⟩

end Machine
end DotMatrix
