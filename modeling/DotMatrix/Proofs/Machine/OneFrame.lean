import DotMatrix.Proofs.Bus.Agreement
import DotMatrix.Proofs.Machine.Moves
import DotMatrix.Proofs.Machine.Pieces
import DotMatrix.Proofs.MemoryMap.Display

/-! # Runs for a frame

A run for a frame gives up after the T-cycles of one, which is exactly how far one frame is from the next.
So it matters where in the frame the run begins, and that a step before it may have passed the end of the
last frame already.  The position of the LCD settles it: however far the run has come, the frames finished
meanwhile are those between two positions, and they are one as soon as the time of a frame has passed.
-/
namespace DotMatrix
namespace Machine

/-! ## Machines in use -/

/-- No step of the event fails. -/
def Event.Sound (machine : Machine) (event : Event) : Prop :=
  ∀ stop ∈ event.visited machine, ∀ fault, stop.step.1 ≠ .error fault

/-- A machine that was used in any way, as long as no step failed, and no M-cycle passed but in steps. -/
inductive Driven : Machine → Prop where
  | afterBoot (journal : Journal) : Driven { afterBoot with journal := journal }
  | insert {machine : Machine} (cart : Cartridge) : Driven machine → Driven (machine.insert cart)
  | loadBoot {machine : Machine} (image : ByteArray) : Driven machine → Driven (machine.loadBoot image)
  | setSink {machine : Machine} (sink : Handoff) : Driven machine → Driven (machine.setSink sink)
  /-- Something is read, stored, or done from outside. -/
  | perform {machine : Machine} (operation : MemoryMap.Operation) (untimed : operation ≠ .call .tick) :
    Driven machine → Driven (machine.onMemory (·.perform operation))
  | event {machine : Machine} (event : Event) (sound : event.Sound machine) :
    Driven machine → Driven (event.apply machine)

/-- No finished frame is waiting, and the LCD is one that was driven in some way. -/
structure Ready (machine : Machine) : Prop where
  reachable : Lcd.Reachable machine.memory.lcd
  unready : machine.memory.lcd.frameReady = false

/-- What a step that went well does to a machine in which no finished frame is waiting: it finishes none,
or one, of which it takes note. -/
theorem noted_step {machine next : Machine} {spent : Nat}
    (unready : machine.memory.lcd.frameReady = false) (took : machine.step = (.ok spent, next)) :
    next.memory.lcd.frameReady = false ∧
      (next.frames = machine.frames ∧ next.frameDone = machine.frameDone ∨
        next.frames = machine.frames + 1 ∧ next.frameDone = true) := by
  have went : machine.step.1 = .ok spent := by rw [took]
  obtain ⟨result, after⟩ := step_of_ok went
  rw [took] at after
  obtain ⟨ticks, since⟩ := machine.cpu.since_step machine.memory
  have lcd : machine.uncollected.memory.lcd = (machine.cpu.step.run machine.memory).2.lcd := rfl
  rw [← lcd] at since
  subst after
  refine ⟨frameReady_collectFrame _, ?_⟩
  rw [frames_collectFrame]
  cases since with
  | quiet kept still =>
    have none : machine.uncollected.memory.lcd.frameReady ≠ true := by
      rw [still, unready]
      decide
    refine .inl ⟨kept, ?_⟩
    rw [collectFrame, if_neg none]
    rfl
  | entered grown waits =>
    refine .inr ⟨grown, ?_⟩
    rw [collectFrame, if_pos waits]

/-- What a step that went well does to the memory map, and what it costs. -/
theorem memory_step {machine next : Machine} {spent : Nat} (took : machine.step = (.ok spent, next)) :
    next.memory = (machine.memory.calls (machine.cpu.step.record machine.memory).1).perform .takeFrame ∧
      spent = 4 * (machine.cpu.step.record machine.memory).1.count .tick := by
  have went : machine.step.1 = .ok spent := by rw [took]
  have course := machine.memory_move .step
  rw [operations, went, MemoryMap.performs_append, MemoryMap.performs_calls] at course
  have after : (machine.move .step).memory = next.memory := congrArg (·.2.memory) took
  obtain ⟨result, -⟩ := step_of_ok went
  rw [← Dialogue.record_snd] at result
  have books := (Cpu.tallies_step machine.cpu).of_record machine.memory
  exact ⟨after.symm.trans course, books.reported spent result⟩

namespace Ready
variable {machine next : Machine}

theorem step {spent : Nat} (h : machine.Ready) (took : machine.step = (.ok spent, next)) :
    next.Ready := by
  refine ⟨?_, (noted_step h.unready took).1⟩
  rw [(memory_step took).1]
  exact (MemoryMap.reachable_lcd_calls h.reachable _).takeFrameReady

theorem run {visited : List Machine} (h : machine.Ready) (ran : Run machine visited next)
    (sound : ∀ stop ∈ visited, ∀ fault, stop.step.1 ≠ .error fault) : next.Ready := by
  induction ran with
  | rest => exact h
  | touch _ lcd _ _ ih => exact ih ⟨lcd ▸ h.reachable, lcd ▸ h.unready⟩ sound
  | @step machine after visited _ ih =>
    rw [List.forall_mem_cons] at sound
    refine ih ?_ sound.2
    cases went : machine.step.1 with
    | error fault => exact absurd went (sound.1 fault)
    | ok spent =>
      have took : machine.step = (.ok spent, machine.step.2) := by rw [← went]
      exact h.step took

end Ready

/-- **Machines in use are ready for a frame**: none is left over, since every step collects its own. -/
theorem Driven.ready {machine : Machine} (h : Driven machine) : machine.Ready := by
  induction h with
  | afterBoot => exact ⟨.afterBoot .new, rfl⟩
  | loadBoot => exact ⟨.new, rfl⟩
  | insert _ _ ih | setSink _ _ ih => exact ⟨ih.reachable, ih.unready⟩
  | perform operation untimed _ ih =>
    exact ⟨MemoryMap.reachable_lcd_perform ih.reachable operation,
      MemoryMap.frameReady_perform ih.unready untimed⟩
  | event event sound _ ih => exact ih.run (run_event event _) sound

/-! ## Waiting for a frame -/

/-- The next step of the machine leaves the power switch of the LCD on, or off, and does not fail. -/
structure Steady (on : Bool) (machine : Machine) : Prop where
  leaves : ∀ call ∈ (machine.cpu.step.record machine.memory).1, call.Leaves on
  sound : ∀ fault, machine.step.1 ≠ .error fault

/-- The machines at which a run for a frame makes a step, when `spent` T-cycles have passed. -/
abbrev visitedForFrame (spent : Nat) (machine : Machine) : List Machine :=
  visitedUntil (fun machine () => (machine.frameDone, ())) cyclesPerFrame spent () machine

section
variable {machine next : Machine} {spent : Nat}

/-- A steady step moves an LCD that is on by the time that it takes. -/
theorem position_step {finished cycles : Nat} (h : Lcd.Position finished cycles machine.memory.lcd)
    (steady : machine.Steady true) (took : machine.step = (.ok spent, next)) :
    Lcd.Position finished (cycles + spent) next.memory.lcd := by
  obtain ⟨memory, cost⟩ := memory_step took
  have moved := MemoryMap.position_calls h steady.leaves
  rw [memory, cost]
  exact moved.congr rfl rfl rfl rfl rfl

/-- A steady step leaves an LCD dark that is off. -/
theorem dark_step {frames : Nat} (h : machine.memory.Dark frames) (steady : machine.Steady false)
    (took : machine.step = (.ok spent, next)) : next.memory.Dark frames := by
  have dark := h.calls steady.leaves
  rw [(memory_step took).1]
  exact ⟨dark.off, dark.frames⟩

end

/-- **How a run for a frame ends** if no step fails: with a frame, or because its time is over.  What steady
steps keep, `spent` T-cycles into the run, holds at the end. -/
theorem frame_or_late {on : Bool} {holds : Nat → Machine → Prop}
    (keeps : ∀ spent machine cycles next, holds spent machine → machine.Steady on →
      machine.step = (.ok cycles, next) → holds (spent + cycles) next)
    {spent : Nat} {machine : Machine} (unready : machine.memory.lcd.frameReady = false)
    (undone : machine.frameDone = false) (begins : holds spent machine)
    (early : spent < cyclesPerFrame + 24)
    (steady : ∀ stop ∈ machine.visitedForFrame spent, stop.Steady on) :
    ∃ total after, machine.runUnless frameDone cyclesPerFrame spent = (.ok total, after) ∧
      holds total after ∧ total < cyclesPerFrame + 24 ∧
      (after.frames = machine.frames + 1 ∨ after.frames = machine.frames ∧ cyclesPerFrame ≤ total) := by
  have unseen {machine : Machine} (undone : machine.frameDone = false) :
      (fun machine () => (machine.frameDone, ()) : Machine → Unit → Bool × Unit) machine () =
        (false, ()) := by
    simp only [undone]
  fun_induction runUnless frameDone cyclesPerFrame spent machine with
  | case1 spent machine begun cycles next took ih =>
    have time : spent < cyclesPerFrame := by simpa [undone] using begun
    have cost := cost_le took
    rw [visitedForFrame, visitedUntil_of_ok (unseen undone) time took, List.forall_mem_cons] at steady
    have later := keeps _ _ _ _ begins steady.1 took
    obtain ⟨unready', ⟨kept, same⟩ | ⟨grown, done⟩⟩ := noted_step unready took
    · rw [← kept]
      exact ih unready' (same.trans undone) later (by omega) steady.2
    · have stops : next.runUnless frameDone cyclesPerFrame (spent + cycles) =
          (.ok (spent + cycles), next) := by
        rw [runUnless, if_neg (by simp [done])]
      exact ⟨_, _, stops, later, by omega, .inl grown⟩
  | case2 spent machine begun fault next took =>
    have time : spent < cyclesPerFrame := by simpa [undone] using begun
    rw [visitedForFrame, visitedUntil_of_error (unseen undone) time took, List.forall_mem_cons] at steady
    exact absurd (congrArg Prod.fst took) (steady.1.sound fault)
  | case3 spent machine ends =>
    have late : cyclesPerFrame ≤ spent := by simpa [undone] using ends
    exact ⟨_, _, rfl, begins, early, .inr ⟨rfl, late⟩⟩

/-- **One call, one frame**: what a run for a frame does to a machine with the LCD on, or off. -/
structure FrameRun (on : Bool) (machine : Machine) (spent : Nat) (after : Machine) : Prop where
  ran : machine.runUntilFrame = (.ok spent, after)
  frames : after.frames = machine.frames + on.toNat
  cycles : after.cpu.cycles = machine.cpu.cycles + spent
  short : spent < 70224 + 24
  /-- Without a frame it takes all of its time. -/
  long : on = false → 70224 ≤ spent

/-- **A run for a frame finishes exactly one frame while the LCD is on**, and none while it is off, from
any moment of the frame and whatever the processor does, as long as no step fails and the program leaves
the power switch of the LCD alone. -/
theorem one_frame {machine : Machine} (driven : Driven machine) {on : Bool}
    (lit : machine.memory.lcd.control.enabled = on)
    (steady : ∀ stop ∈ Event.visited machine .runUntilFrame, stop.Steady on) :
    ∃ spent after, FrameRun on machine spent after := by
  have ready := driven.ready
  cases on with
  | true =>
    obtain ⟨finished, start, now⟩ := ready.reachable.position lit
    obtain ⟨spent, after, ran, later, short, frames⟩ :=
      @frame_or_late true (fun spent machine => Lcd.Position finished (start + spent) machine.memory.lcd)
        (fun spent machine cycles next h steady took => Nat.add_assoc .. ▸ position_step h steady took)
        0 { machine with frameDone := false } ready.unready rfl now (by decide) steady
    refine ⟨spent, after, ran, ?_, (cycles_runUnless ran).2, short, nofun⟩
    -- Without a frame the time of one would have passed between two positions with equal counts.
    rcases frames with grown | ⟨kept, late⟩
    · exact grown
    · have count := now.frames_eq
      have count' := later.frames_eq
      rw [Lcd.entries_eq] at count count'
      change after.memory.lcd.frames = machine.memory.lcd.frames at kept
      unfold cyclesPerFrame at late
      omega
  | false =>
    obtain ⟨spent, after, ran, dark, short, frames⟩ :=
      @frame_or_late false (fun _ now => now.memory.Dark machine.frames)
        (fun spent machine cycles next h steady took => dark_step h steady took)
        0 { machine with frameDone := false } ready.unready rfl ⟨lit, rfl⟩ (by decide) steady
    have kept : after.frames = machine.frames := dark.frames
    refine ⟨spent, after, ran, kept, (cycles_runUnless ran).2, short, fun _ => ?_⟩
    rcases frames with grown | ⟨-, late⟩
    · change after.frames = machine.frames + 1 at grown
      omega
    · exact late

/-! ## A machine asleep -/

/-- What every step that goes well keeps holds wherever a run makes a step. -/
theorem forall_mem_visitedUntil {σ : Type} {look : Machine → σ → Bool × σ} {limit spent : Nat}
    {memory : σ} {machine : Machine} {holds : Machine → Prop}
    (keeps : ∀ machine cycles next, holds machine → machine.step = (.ok cycles, next) → holds next)
    (begins : holds machine) : ∀ stop ∈ visitedUntil look limit spent memory machine, holds stop := by
  fun_induction visitedUntil look limit spent memory machine with
  | case2 spent memory machine later unseen time cycles next took ih =>
    exact List.forall_mem_cons.mpr ⟨begins, ih (keeps machine cycles next begins took)⟩
  | case3 => exact List.forall_mem_singleton.mpr begins
  | case1 | case4 => exact fun stop member => absurd member List.not_mem_nil

/-- A machine that was stopped, with no button down. -/
structure Asleep (machine : Machine) : Prop where
  healthy : machine.cpu.fault = none
  stopped : machine.cpu.state = .stopped
  released : machine.memory.buttons = {}

namespace Asleep
variable {machine : Machine}

/-- A step of such a machine samples the buttons and lets one M-cycle pass. -/
theorem record (h : machine.Asleep) : machine.cpu.step.record machine.memory =
    ([.poll, .tick], Cpu.finish machine.cpu.cycles .wait { machine.cpu with cycles := machine.cpu.cycles + 4 },
      machine.memory.poll.tick) := by
  have unheld : Bus.buttonHeld machine.memory.poll = false := by
    show (machine.memory.buttons.bits != 0) = false
    rw [h.released]
    rfl
  simp only [Cpu.step, h.healthy, h.stopped, Dialogue.record, Cpu.idle]
  rw [show Bus.poll machine.memory = machine.memory.poll from rfl, unheld]
  rfl

/-- It goes well and leaves the power switch of the LCD alone. -/
theorem steady (h : machine.Asleep) (on : Bool) : machine.Steady on := by
  refine ⟨?_, ?_⟩
  · rw [h.record]
    exact List.forall_mem_cons.mpr ⟨trivial, List.forall_mem_singleton.mpr trivial⟩
  · intro fault failed
    obtain ⟨result, -⟩ := step_of_error failed
    rw [← Dialogue.record_snd, h.record] at result
    cases result

/-- And the machine sleeps on. -/
theorem step {cycles : Nat} {next : Machine} (h : machine.Asleep)
    (took : machine.step = (.ok cycles, next)) : next.Asleep := by
  have went : machine.step.1 = .ok cycles := by rw [took]
  have after : next = machine.uncollected.collectFrame := by
    rw [← (step_of_ok went).2, took]
  have cpu : next.cpu = { machine.cpu with cycles := machine.cpu.cycles + 4 } := by
    rw [after, cpu_collectFrame]
    show (machine.cpu.step.run machine.memory).1.cpu = _
    rw [← Dialogue.record_snd, h.record]
    rfl
  have buttons : next.memory.buttons = machine.memory.poll.tick.buttons := by
    rw [(memory_step took).1, MemoryMap.calls_record, ← Dialogue.record_snd, h.record]
    rfl
  refine ⟨?_, ?_, ?_⟩
  · rw [cpu]
    exact h.healthy
  · rw [cpu]
    exact h.stopped
  · rw [buttons, machine.memory.poll.undisturbed_tick.buttons]
    exact h.released

end Asleep

/-- A machine that was stopped by its boot program before the LCD was switched on: the run goes on for as
long as the LCD takes. -/
theorem one_frame_asleep :
    let begun := (afterBoot.loadBoot ⟨#[0x10]⟩).onMemory (·.perform (.call (.write 0xFF40 0x80)))
    let machine := begun.step.2
    machine.cpu.state = .stopped ∧ ∃ spent after, FrameRun true machine spent after := by
  intro begun machine
  have went : begun.step.1 = .ok 4 := by decide
  have sound : Event.step.Sound begun := by
    intro stop member fault failed
    obtain rfl := List.mem_singleton.mp member
    rw [went] at failed
    cases failed
  have untimed : MemoryMap.Operation.call (.write 0xFF40 0x80) ≠ .call .tick := by
    intro same
    cases same
  have driven : Driven machine := .event .step sound (.perform _ untimed (.loadBoot _ (.afterBoot {})))
  have asleep : Asleep { machine with frameDone := false } := ⟨by decide, by decide, by decide⟩
  refine ⟨asleep.stopped, one_frame driven (by decide) fun stop member => ?_⟩
  have sleeps : stop.Asleep := forall_mem_visitedUntil (fun _ _ _ => Asleep.step) asleep stop member
  exact sleeps.steady true

end Machine
end DotMatrix
