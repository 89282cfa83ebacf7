import DotMatrix.Cpu.Work

/-! # Steps take time

What a step reports is four times the M-cycles it passes on to the bus, and the processor counts the
same (`tallies_step`). On a bus that keeps to the five sources every step that does not fail passes at
least one M-cycle (`four_le_of_step`). Runs that are bounded by a number of cycles end because of it.
-/
namespace DotMatrix

namespace Microcode

/-- A fetch passes an M-cycle. -/
theorem fetch_ticks (cpu : Cpu) : (fetch cpu).Meets fun calls _ => .tick ∈ calls :=
  fun _ => .tail _ (.head _)

/-- A dispatch passes an M-cycle. -/
theorem dispatch_ticks (source : Interrupt) (cpu : Cpu) :
    (dispatch source cpu).Meets fun calls _ => .tick ∈ calls :=
  .tail _ (.head _)

end Microcode

namespace Cpu
open Microcode

/-- The books of a step that began when `start` cycles had passed. -/
structure Tallies (start : Nat) (calls : List Call) (outcome : Outcome) : Prop where
  counted : outcome.cpu.cycles = start + 4 * calls.count .tick
  reported : ∀ spent, outcome.result = .ok spent → spent = 4 * calls.count .tick
  moved : ∀ spent, outcome.result = .ok spent → outcome.deed ≠ .overlook → .tick ∈ calls
  faulted : ∀ fault, outcome.result = .error fault → outcome.cpu.fault = some fault

theorem tallies_finish {start : Nat} {calls : List Call} {deed : Deed} {after : Cpu}
    (counted : after.cycles = start + 4 * calls.count .tick)
    (moved : deed ≠ .overlook → .tick ∈ calls) :
    Tallies start calls (finish start deed after) where
  counted := counted
  reported spent h := by
    simp only [finish, Except.ok.injEq] at h
    omega
  moved _ _ := moved
  faulted := nofun

theorem tallies_instruct (cpu : Cpu) : cpu.instruct.Meets (Tallies cpu.cycles) := by
  have fetched := ((inferInstance : Works true fetch).work cpu).and (fetch_ticks cpu)
  refine fetched.bind fun calls out done => ?_
  refine ((inferInstance : Works true (Microcode.execute out.1)).work out.2).bind
    fun more after worked => ?_
  have counted := (done.1.seq worked).cycles_eq
  have ticked : .tick ∈ calls ++ more := List.mem_append_left _ done.2
  rcases after with ⟨_ | _, after⟩
  · refine ⟨?_, nofun, nofun, fun fault h => congrArg some (Except.error.inj h)⟩
    rw [List.append_nil]
    exact counted
  · dsimp only
    split <;> exact tallies_finish (by simpa using counted) fun _ => by simpa using ticked

theorem tallies_proceed (cpu : Cpu) : cpu.proceed.Meets (Tallies cpu.cycles) := by
  intro mask
  dsimp only
  split
  · split
    · rename_i source _
      have served := ((inferInstance : Works true (dispatch source)).work cpu).and
        (dispatch_ticks source cpu)
      refine served.bind fun calls out done => ?_
      have counted := done.1.cycles_eq
      exact tallies_finish (by simpa using counted) fun _ => by simpa using done.2
    · exact tallies_finish rfl fun h => absurd rfl h
  · exact tallies_instruct cpu

/-- Calls that take no time do not change the books. -/
theorem Tallies.cons {start : Nat} {calls : List Call} {outcome : Outcome} {call : Call}
    (h : Tallies start calls outcome) (timeless : call ≠ .tick) :
    Tallies start (call :: calls) outcome where
  counted := by
    rw [List.count_cons_of_ne timeless]
    exact h.counted
  reported := by
    rw [List.count_cons_of_ne timeless]
    exact h.reported
  moved spent went seen := List.mem_cons_of_mem _ (h.moved spent went seen)
  faulted := h.faulted

theorem meets_poll {start : Nat} {rest : Dialogue Outcome} (h : rest.Meets (Tallies start)) :
    (Dialogue.poll rest).Meets (Tallies start) := by
  have polled : rest.Meets fun calls => Tallies start (.poll :: calls) :=
    h.mono fun _ _ books => books.cons nofun
  exact polled

/-- **The books of every step balance.** -/
theorem tallies_step (cpu : Cpu) : cpu.step.Meets (Tallies cpu.cycles) := by
  unfold step
  split
  · rename_i fault stopped
    exact ⟨rfl, nofun, nofun, fun _ h => stopped.trans (congrArg some (Except.error.inj h))⟩
  · refine meets_poll ?_
    split
    · exact tallies_proceed cpu
    · intro mask
      refine tallies_finish ?_ fun _ => .head _
      split <;> rfl
    · intro held
      dsimp only
      split
      · exact tallies_proceed { cpu with state := .running }
      · exact tallies_finish rfl fun _ => .head _

/-- What a step reports is what the processor counts. -/
theorem cycles_of_step {β : Type} [Bus β] {cpu : Cpu} {bus : β} {spent : Nat}
    (h : (cpu.step.run bus).1.result = .ok spent) :
    (cpu.step.run bus).1.cpu.cycles = cpu.cycles + spent := by
  have books := (tallies_step cpu).of_record bus
  rw [Dialogue.record_snd] at books
  rw [books.counted, books.reported spent h]

/-- A step that fails leaves its fault behind. -/
theorem fault_of_step {β : Type} [Bus β] {cpu : Cpu} {bus : β} {fault : Fault}
    (h : (cpu.step.run bus).1.result = .error fault) :
    (cpu.step.run bus).1.cpu.fault = some fault := by
  have books := (tallies_step cpu).of_record bus
  rw [Dialogue.record_snd] at books
  exact books.faulted fault h

/-- After a fault every step is refused. -/
theorem step_of_fault {cpu : Cpu} {fault : Fault} (h : cpu.fault = some fault) :
    cpu.step = .done ⟨.error fault, cpu, .refuse⟩ := by
  unfold step
  rw [h]

/-! ## No empty steps -/

theorem deed_instruct (cpu : Cpu) : cpu.instruct.Meets fun _ outcome => outcome.deed ≠ .overlook := by
  refine (fetch_ticks cpu).bind fun _ out _ => ?_
  refine ((inferInstance : Works true (Microcode.execute out.1)).work out.2).bind
    fun _ after _ => ?_
  rcases after with ⟨_ | _, after⟩
  · exact Deed.noConfusion
  · dsimp only
    split <;> exact Deed.noConfusion

section
variable {β : Type} [Bus β] [Bus.Lawful β]

theorem deed_proceed (cpu : Cpu) (bus : β) : (cpu.proceed.run bus).1.deed ≠ .overlook := by
  unfold proceed
  dsimp only [Dialogue.run]
  split
  · split
    · refine @Dialogue.Meets.of_run Outcome β _ (fun outcome => outcome.deed ≠ .overlook) _ ?_ bus
      refine (dispatch_ticks _ cpu).bind fun _ _ _ => ?_
      exact Deed.noConfusion
    · rename_i waits _ unnamed
      -- The mask has no bits besides the five, so it is zero if it names no source.
      rw [Interrupt.highest?_eq_none_iff, Bus.Lawful.pending_and] at unnamed
      simp [unnamed] at waits
  · exact (deed_instruct cpu).of_run bus

/-- A bus that keeps to the five sources never makes a step an empty one. -/
theorem deed_step (cpu : Cpu) (bus : β) : (cpu.step.run bus).1.deed ≠ .overlook := by
  unfold step
  split
  · exact Deed.noConfusion
  · dsimp only [Dialogue.run]
    split
    · exact deed_proceed cpu _
    · exact Deed.noConfusion
    · dsimp only [Dialogue.run]
      split
      · exact deed_proceed _ _
      · exact Deed.noConfusion

/-- **A step that does not fail passes at least one M-cycle.** -/
theorem four_le_of_step {cpu : Cpu} {bus : β} {spent : Nat}
    (h : (cpu.step.run bus).1.result = .ok spent) : 4 ≤ spent := by
  have books := (tallies_step cpu).of_record bus
  rw [Dialogue.record_snd] at books
  have ticked := List.count_pos_iff.mpr (books.moved spent h (deed_step cpu bus))
  have paid := books.reported spent h
  omega

end
end Cpu
end DotMatrix
