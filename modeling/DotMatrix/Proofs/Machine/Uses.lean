import DotMatrix.Machine.Pacing
import DotMatrix.Proofs.Machine.Moves
import DotMatrix.Proofs.Machine.Pieces
import DotMatrix.Proofs.MemoryMap.Ranges

/-! # Uses of a machine

Everything that the owner of a machine can do with it (`Machine.Use`): images are put into the slot and boot
programs over the program window, programs run, and in between the memory map is read, stored into and moved
from outside.  The numbers of the devices keep to their ranges in all of it (`Machine.fit_uses`).
-/
namespace DotMatrix
open MemoryMap (Operation)

/-! ## Steps and runs -/

namespace MemoryMap

theorem Fit.performs {map : MemoryMap} (h : map.Fit) {made : List Operation}
    (lawful : ∀ operation ∈ made, operation.Lawful) : (map.performs made).Fit := by
  induction made generalizing map with
  | nil => exact h
  | cons first more ih =>
    rw [List.forall_mem_cons] at lawful
    exact ih (h.perform first lawful.1) lawful.2

end MemoryMap

namespace Machine
variable {machine : Machine}

theorem fit_step (h : machine.memory.Fit) : machine.step.2.memory.Fit := by
  show (machine.move .step).memory.Fit
  rw [memory_move]
  refine h.performs fun operation member => ?_
  -- A step makes the calls of its transcript, and takes a frame behind them if there is one.
  rcases List.mem_append.mp member with call | taken
  · obtain ⟨made, -, rfl⟩ := List.mem_map.mp call
    trivial
  · revert taken
    cases machine.step.1 with
    | ok =>
      intro taken
      rw [List.mem_singleton.mp taken]
      trivial
    | error => exact fun none => absurd none List.not_mem_nil

/-- What every step keeps and what depends on the memory map only is kept by every run. -/
theorem fit_runUntil {σ : Type} {look : Machine → σ → Bool × σ} {limit spent : Nat} {memory : σ}
    (h : machine.memory.Fit) : (machine.runUntil look limit spent memory).2.2.memory.Fit := by
  fun_induction runUntil look limit spent memory machine with
  | case1 | case4 => exact h
  | case2 spent memory machine later unseen time cycles next took ih =>
    have kept := fit_step h
    rw [took] at kept
    exact ih kept
  | case3 spent memory machine later unseen time fault next took =>
    have kept := fit_step h
    rwa [took] at kept

theorem fit_runUnless {stop : Machine → Bool} {limit spent : Nat} (h : machine.memory.Fit) :
    (machine.runUnless stop limit spent).2.memory.Fit := by
  rw [runUnless_eq]
  exact fit_runUntil h

theorem fit_advance {run : PacedRun} (h : run.machine.memory.Fit) (cycles : Nat) :
    (run.advance cycles).2.machine.memory.Fit := by
  have kept : (run.machine.runForCycles cycles).2.memory.Fit := fit_runUnless h
  unfold PacedRun.advance
  dsimp only
  split <;> rename_i took <;> rw [took] at kept <;> exact kept

theorem machine_present (pacing : Pacing) (elapsed : Nat) (run : PacedRun) :
    (run.present pacing elapsed).2.machine = run.machine := by
  unfold PacedRun.present
  split <;> rfl

/-! ## Uses -/

/-- What the owner of a machine can do with it. -/
inductive Use where
  /-- Read, store, or let an M-cycle pass, from outside. -/
  | call (made : Call)
  /-- Do something with the cartridge in the slot. -/
  | cartridge (operation : Cartridge.Operation)
  /-- Put an image into the slot.  One that is refused leaves the slot as it is. -/
  | load (image : ByteArray) (now : UInt64)
  | loadBoot (image : ByteArray)
  | setSink (sink : Handoff)
  /-- Store anything into the registers of the processor. -/
  | setCpu (cpu : Cpu)
  /-- Lay a boot program over the program window, and leave everything else as it is. -/
  | mapBoot (image : ByteArray)
  /-- Switch off and on everything but the processor. -/
  | reset
  | takeSerial
  | takeFrame
  /-- A step, a run, or buttons put down or up. -/
  | event (event : Event)
  /-- A turn of a paced run that has executed some T-cycles before. -/
  | turn (pacing : Pacing) (elapsed executed : Nat)

/-- Put an image into the slot, if it is not refused. -/
def load (machine : Machine) (image : ByteArray) (now : UInt64) : Machine :=
  match Cartridge.ofImage image now with
  | .ok cart => machine.insert cart
  | .error _ => machine

/-- A machine after it was used. -/
def use (machine : Machine) : Use → Machine
  | .call made => machine.onMemory (·.call made)
  | .cartridge operation => machine.onMemory (·.mapCart (·.perform operation))
  | .load image now => machine.load image now
  | .loadBoot image => machine.loadBoot image
  | .setSink sink => machine.setSink sink
  | .setCpu cpu => { machine with cpu := cpu }
  | .mapBoot image => machine.onMemory (·.mapBoot image)
  | .reset => machine.onMemory (·.reset)
  | .takeSerial => machine.takeSerial.2
  | .takeFrame => machine.onMemory (·.perform .takeFrame)
  | .event event => event.apply machine
  | .turn pacing elapsed executed =>
    (PacedRun.turn pacing elapsed { machine := machine, executed := executed }).2.machine

/-- A machine after it was used several times. -/
def uses (machine : Machine) (made : List Use) : Machine := made.foldl use machine

theorem fit_load (h : machine.memory.Fit) (image : ByteArray) (now : UInt64) :
    (machine.load image now).memory.Fit := by
  unfold load
  cases accepted : Cartridge.ofImage image now with
  | error => exact h
  | ok cart => exact h.perform (.insert cart) (Cartridge.new_of_ofImage accepted).inRange

theorem fit_turn {run : PacedRun} (h : run.machine.memory.Fit) (pacing : Pacing) (elapsed : Nat) :
    (run.turn pacing elapsed).2.machine.memory.Fit := by
  unfold PacedRun.turn
  dsimp only
  split
  · generalize min _ cyclesPerFrame = cycles
    have kept := fit_advance h cycles
    split <;> rename_i took <;> rw [took] at kept
    · exact kept
    · show (PacedRun.present ..).2.machine.memory.Fit
      rwa [machine_present]
  · show (PacedRun.present ..).2.machine.memory.Fit
    rwa [machine_present]

/-- **Every use keeps a machine fit.** -/
theorem fit_use (h : machine.memory.Fit) (use : Use) : (machine.use use).memory.Fit := by
  cases use with
  | call made => exact h.call made
  | cartridge operation => exact h.perform (.changeCart _) fun _ inRange => inRange.perform operation
  | load image now => exact fit_load h image now
  | loadBoot image =>
    have reset := h.perform .reset trivial
    exact reset.perform (.mapBoot image) trivial
  | setSink | setCpu => exact h
  | mapBoot image => exact h.perform (.mapBoot image) trivial
  | reset => exact h.perform .reset trivial
  | takeSerial => exact h.perform .takeSerial trivial
  | takeFrame => exact h.perform .takeFrame trivial
  | event event =>
    cases event with
    | step => exact fit_step h
    | runForCycles cycles => exact fit_runUnless h
    | runUntilFrame =>
      have ready : ({ machine with frameDone := false } : Machine).memory.Fit := h
      exact fit_runUnless ready
    | runUntil look limit memory => exact fit_runUntil h
    | press buttons => exact h.perform (.hold buttons) trivial
  | turn pacing elapsed executed =>
    have fit : ({ machine := machine, executed := executed } : PacedRun).machine.memory.Fit := h
    exact fit_turn fit pacing elapsed

theorem fit_uses (h : machine.memory.Fit) (made : List Use) : (machine.uses made).memory.Fit := by
  induction made generalizing machine with
  | nil => exact h
  | cons first more ih => exact ih (fit_use h first)

end Machine
end DotMatrix
