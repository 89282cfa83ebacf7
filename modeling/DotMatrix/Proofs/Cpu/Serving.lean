import DotMatrix.Cpu.Work

/-! # Which requests a step takes

The processor withdraws a request in one place only, at the start of a dispatch; instructions are work
behind a closed gate, or one of the three that reach the gate without taking anything.  So whatever the
bus answers, the outcome of a step names the source of every request that was taken in it (`taken_step`).
-/
namespace DotMatrix

namespace Microcode

/-- Behind a closed gate no request is taken. -/
theorem Work.acknowledge_notMem {before after : Cpu} {calls : List Call}
    (h : Work false before calls after) (source : Interrupt) : .acknowledge source ∉ calls := by
  induction h with
  | acknowledge _ _ open_gate => cases open_gate
  | seq _ _ first second => simp [first, second]
  | _ => simp

/-- No instruction takes a request. -/
theorem acknowledge_notMem_perform (instruction : Instruction) (cpu : Cpu) :
    (instruction.perform cpu).Meets fun calls _ => ∀ source, .acknowledge source ∉ calls := by
  by_cases noDi : instruction = .disableInterrupts
  · subst noDi
    exact fun _ => List.not_mem_nil
  by_cases noEi : instruction = .enableInterrupts
  · subst noEi
    exact fun _ => List.not_mem_nil
  by_cases noReti : instruction = .retInterrupt
  · subst noReti
    have returned := (inferInstance : Works false returnToCaller).work cpu
    refine returned.bind fun calls _ done source => ?_
    rw [List.append_nil]
    exact done.acknowledge_notMem source
  · exact ((works_perform noDi noEi noReti).work cpu).mono fun _ _ done => done.acknowledge_notMem

/-- A dispatch takes the request of the source it serves, and no other. -/
theorem eq_of_acknowledge_dispatch (source : Interrupt) (cpu : Cpu) :
    (dispatch source cpu).Meets fun calls _ => ∀ other, .acknowledge other ∈ calls → other = source := by
  intro other member
  simpa using member

end Microcode

namespace Cpu
open Microcode

theorem acknowledge_notMem_instruct (cpu : Cpu) :
    cpu.instruct.Meets fun calls _ => ∀ source, .acknowledge source ∉ calls := by
  have fetched := (inferInstance : Works false fetch).work cpu
  refine fetched.bind fun calls out fetched => ?_
  have executed : (Microcode.execute out.1 out.2).Meets fun more _ =>
      ∀ source, .acknowledge source ∉ more := by
    cases named : Instruction.decode out.1 with
    | none =>
      simp only [Microcode.execute, named]
      exact fun _ => List.not_mem_nil
    | some instruction => exact meets_execute named (acknowledge_notMem_perform instruction out.2)
  refine executed.bind fun more after executed => ?_
  have none : ∀ source, .acknowledge source ∉ calls ++ (more ++ []) := fun source => by
    simp [fetched.acknowledge_notMem source, executed source]
  rcases after with ⟨_ | _, after⟩
  · exact none
  · dsimp only
    split <;> exact none

/-- The outcome of a step names the source of every request that was taken. -/
def Taken (calls : List Call) (outcome : Outcome) : Prop :=
  ∀ source, .acknowledge source ∈ calls → outcome.deed = .dispatch source

theorem taken_proceed (cpu : Cpu) : cpu.proceed.Meets Taken := by
  intro mask
  dsimp only
  split
  · split
    · rename_i source _
      refine (eq_of_acknowledge_dispatch source cpu).bind fun calls out done other member => ?_
      rw [List.append_nil] at member
      rw [done other member]
      rfl
    · exact fun _ => nofun
  · exact (acknowledge_notMem_instruct cpu).mono fun _ _ none source member =>
      absurd member (none source)

/-- **Only a dispatch takes a request**, that of the source it serves. -/
theorem taken_step (cpu : Cpu) : cpu.step.Meets Taken := by
  have polled {rest : Dialogue Outcome} (h : rest.Meets Taken) : (Dialogue.poll rest).Meets Taken :=
    h.mono fun _ _ taken source member => taken source (by simpa using member)
  unfold step
  split
  · exact fun _ => nofun
  · refine polled ?_
    split
    · exact taken_proceed cpu
    · exact fun mask source member => by simp at member
    · intro held
      dsimp only
      split
      · exact taken_proceed _
      · exact fun source member => by simp at member

end Cpu
end DotMatrix
