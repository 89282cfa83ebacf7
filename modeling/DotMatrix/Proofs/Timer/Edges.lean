import DotMatrix.Proofs.Timer.FreeRun

/-! # What clocks the counter

The clock signal falls when the chosen bit of the divider falls, when the divider is cleared, when the
switch is turned off, or when another bit is chosen.  The timer does not look for these occasions one by
one: every use of it is a change of the registers that has nothing to do with the clock (`unclocked`),
after which the signal is compared with the one last seen (`use_eq_sample`).  As the timer has always
seen its signal, the counter moves exactly if the signal falls.
-/
namespace DotMatrix
namespace Timer

/-! ## Uses -/

/-- What can be done to a timer. -/
inductive Use where
  /-- One T-cycle. -/
  | tick
  | write (address : UInt16) (value : UInt8)
  | resetDivider
  deriving DecidableEq

/-- The timer after a use. -/
def use (timer : Timer) : Use → Timer
  | .tick => timer.tick.1
  | .write address value => timer.write address value
  | .resetDivider => timer.resetDivider

/-- The timer after several uses, one after the other. -/
def uses (timer : Timer) (made : List Use) : Timer := made.foldl use timer

/-- What a use does apart from the clock: in a T-cycle a reload may be due, and the divider counts; a
store reaches its register. -/
def unclocked (timer : Timer) : Use → Timer
  | .tick => { timer.settle.1 with divider := timer.divider + 1 }
  | .write 0xFF04 _ => { timer with divider := 0 }
  | .write 0xFF05 value => timer.setCounter value
  | .write 0xFF06 value => timer.setModulo value
  | .write 0xFF07 value => { timer with control := value &&& 0x07 }
  | .write _ _ => timer
  | .resetDivider => { timer with divider := 0 }

/-- The clock signal is high before a use and low after it. -/
def Falls (timer : Timer) (made : Use) : Prop :=
  timer.level = true ∧ (timer.use made).level = false

instance (timer : Timer) (made : Use) : Decidable (timer.Falls made) :=
  inferInstanceAs (Decidable (_ ∧ _))

theorem Reachable.use {timer : Timer} (h : Reachable timer) (made : Use) :
    Reachable (timer.use made) := by
  cases made with
  | tick => exact h.tick
  | write address value => exact h.write address value
  | resetDivider => exact h.write 0xFF04 0

theorem Reachable.uses {timer : Timer} (h : Reachable timer) (made : List Use) :
    Reachable (timer.uses made) := by
  induction made generalizing timer with
  | nil => exact h
  | cons first more ih => exact ih (h.use first)

/-! ## What a use does apart from the clock -/

/-- A store to the counter takes effect and ends a countdown, unless it comes right after the
reload. -/
theorem setCounter_eq {timer : Timer} (undone : timer.reload ≠ .done) (value : UInt8) :
    timer.setCounter value = { timer with counter := value, reload := .idle } := by
  unfold setCounter
  split
  · rename_i reload
    exact absurd reload undone
  · rfl

/-- All that a use can do to a timer apart from the clock. -/
inductive Unclocked (timer : Timer) (made : Use) : Prop where
  | counted (time : made = .tick)
    (after : timer.unclocked made = { timer.settle.1 with divider := timer.divider + 1 })
  | cleared (after : timer.unclocked made = { timer with divider := 0 })
  | counter (value : UInt8) (stored : made = .write 0xFF05 value)
    (after : timer.unclocked made = { timer with counter := value, reload := .idle })
  /-- Right after a reload the counter follows the reload value. -/
  | late (value : UInt8) (done : timer.reload = .done)
    (after : timer.unclocked made = { timer with modulo := value, counter := value })
  | modulo (value : UInt8) (after : timer.unclocked made = { timer with modulo := value })
  | control (value : UInt8) (after : timer.unclocked made = { timer with control := value &&& 0x07 })
  | none (after : timer.unclocked made = timer)

theorem unclocking (timer : Timer) (made : Use) : Unclocked timer made := by
  fun_cases unclocked timer made with
  | case1 => exact .counted rfl rfl
  | case2 => exact .cleared rfl
  | case3 value =>
    by_cases done : timer.reload = .done
    · refine .none ?_
      show timer.setCounter value = timer
      unfold setCounter
      rw [done]
    · exact .counter value rfl (setCounter_eq done value)
  | case4 value =>
    by_cases done : timer.reload = .done
    · exact .late value done (if_pos (beq_iff_eq.mpr done))
    · exact .modulo value (if_neg (mt eq_of_beq done))
  | case5 value => exact .control value rfl
  | case6 address value => exact .none (by simp_all [unclocked])
  | case7 => exact .cleared rfl

/-! ## Looking at the signal -/

/-- A clock adds one; from the highest value this gives zero. -/
theorem increment_counter (timer : Timer) : timer.increment.counter = timer.counter + 1 := by
  unfold increment
  split
  · rename_i full
    rw [eq_of_beq full]
    rfl
  · rfl

/-- A clock starts a countdown if it finds the counter at its highest value. -/
theorem increment_reload (timer : Timer) :
    timer.increment.reload = if timer.counter = 0xFF then .pending 4 else timer.reload := by
  unfold increment
  by_cases full : timer.counter = 0xFF
  · rw [if_pos full, if_pos (beq_iff_eq.mpr full)]
    rfl
  · rw [if_neg full, if_neg (mt beq_iff_eq.mp full)]

theorem sample_eq (timer : Timer) : timer.sample =
    { (if timer.signal = true ∧ timer.level = false then timer.increment else timer) with
      signal := timer.level } := by
  unfold sample
  by_cases fell : timer.signal = true ∧ timer.level = false
  · obtain ⟨high, low⟩ := fell
    simp [high, low]
  · rw [if_neg fell]
    dsimp only
    rw [if_neg (by simpa using fell)]

/-- The counter moves on by one if the signal fell. -/
theorem sample_counter (timer : Timer) : timer.sample.counter =
    timer.counter + if timer.signal = true ∧ timer.level = false then 1 else 0 := by
  rw [sample_eq]
  by_cases fell : timer.signal = true ∧ timer.level = false
  · rw [if_pos fell, if_pos fell]
    exact timer.increment_counter
  · rw [if_neg fell, if_neg fell]
    exact (UInt8.add_zero _).symm

theorem sample_reload (timer : Timer) : timer.sample.reload =
    if (timer.signal = true ∧ timer.level = false) ∧ timer.counter = 0xFF then .pending 4
    else timer.reload := by
  rw [sample_eq]
  by_cases fell : timer.signal = true ∧ timer.level = false
  · rw [if_pos fell]
    simp only [fell, and_self, true_and]
    exact timer.increment_reload
  · rw [if_neg fell, if_neg fun both => fell both.1]

/-- The clock reaches nothing but the counter and the countdown. -/
theorem sample_kept (timer : Timer) : timer.sample.divider = timer.divider ∧
    timer.sample.modulo = timer.modulo ∧ timer.sample.control = timer.control := by
  rw [sample_eq]
  dsimp only
  split
  · exact ⟨timer.increment_divider, timer.increment_modulo, timer.increment_control⟩
  · exact ⟨rfl, rfl, rfl⟩

/-- Looking at the signal does not change it. -/
theorem level_sample (timer : Timer) : timer.sample.level = timer.level :=
  level_congr timer.sample_kept.2.2 timer.sample_kept.1

/-- Where the signal is the one last seen, looking at it does nothing. -/
theorem sample_of_seen {timer : Timer} (seen : timer.signal = timer.level) : timer.sample = timer := by
  have steady : ¬ (timer.signal = true ∧ timer.level = false) := by simp [seen]
  rw [sample_eq, if_neg steady, ← seen]

/-- **Clearing the divider looks at the signal** like anything else that changes it. -/
theorem resetDivider_eq (timer : Timer) :
    timer.resetDivider = { timer with divider := 0 }.sample := by
  rw [sample_eq, level_cleared rfl]
  unfold resetDivider
  by_cases high : timer.signal = true
  · rw [if_pos high, if_pos ⟨high, rfl⟩]
    unfold increment
    dsimp only
    split <;> rfl
  · rw [if_neg high, if_neg fun both => high both.1]
    rw [Bool.not_eq_true] at high
    rw [← high]

/-! ## Every use looks at the signal -/

/-- Apart from the clock nothing touches the signal last seen. -/
theorem unclocked_signal (timer : Timer) (made : Use) :
    (timer.unclocked made).signal = timer.signal := by
  cases timer.unclocking made with
  | counted _ after =>
    rw [after]
    exact timer.settle_kept.2.2.2
  | cleared after | counter _ _ after | late _ _ after | modulo _ after | control _ after
    | none after => rw [after]

/-- The counter and the reload value have no part in the signal. -/
theorem level_setCounter (timer : Timer) (value : UInt8) :
    (timer.setCounter value).level = timer.level := by
  unfold setCounter
  split <;> rfl

theorem level_setModulo (timer : Timer) (value : UInt8) :
    (timer.setModulo value).level = timer.level := by
  unfold setModulo
  split <;> rfl

/-- **A use is a change of the registers and a look at the signal.** -/
theorem use_eq_sample {timer : Timer} (coherent : timer.signal = timer.level) (made : Use) :
    timer.use made = (timer.unclocked made).sample := by
  -- Where the signal cannot have changed, the look at it does nothing.
  have still (same : (timer.unclocked made).level = timer.level) :
      (timer.unclocked made).sample = timer.unclocked made :=
    sample_of_seen ((timer.unclocked_signal made).trans (coherent.trans same.symm))
  cases made with
  | tick =>
    show { timer.settle.1 with divider := timer.settle.1.divider + 1 }.sample = _
    rw [timer.settle_kept.1]
    rfl
  | resetDivider => exact timer.resetDivider_eq
  | write address value =>
    show timer.write address value = _
    unfold write
    split
    · exact timer.resetDivider_eq
    · exact (still (timer.level_setCounter value)).symm
    · exact (still (timer.level_setModulo value)).symm
    · rfl
    · have nowhere : timer.unclocked (.write address value) = timer := by
        unfold unclocked
        split <;> simp_all
      rw [still (by rw [nowhere]), nowhere]

/-- The signal falls if the registers no longer give it. -/
theorem falls_iff_unclocked {timer : Timer} (coherent : timer.signal = timer.level) (made : Use) :
    timer.Falls made ↔
      (timer.unclocked made).signal = true ∧ (timer.unclocked made).level = false := by
  unfold Falls
  rw [use_eq_sample coherent, level_sample, unclocked_signal, coherent]

/-! ## The counter -/

/-- **What clocks the counter** in one use of the timer. -/
structure Clocking (timer : Timer) (made : Use) : Prop where
  /-- The signal last seen is the one there is: the chosen bit of the divider, seen through the
  switch. -/
  coherent : timer.signal = timer.level
  /-- The counter moves on by one if the signal falls, and only then.  A store or a reload in the same
  use comes first. -/
  counter : (timer.use made).counter =
    (timer.unclocked made).counter + if timer.Falls made then 1 else 0
  /-- A countdown begins if the counter moves on from its highest value, and only then. -/
  reload : (timer.use made).reload =
    if timer.Falls made ∧ (timer.unclocked made).counter = 0xFF then .pending 4
    else (timer.unclocked made).reload
  /-- The clock reaches nothing else. -/
  others : (timer.use made).divider = (timer.unclocked made).divider ∧
    (timer.use made).modulo = (timer.unclocked made).modulo ∧
    (timer.use made).control = (timer.unclocked made).control

theorem Reachable.clocking {timer : Timer} (h : Reachable timer) (made : Use) :
    Clocking timer made := by
  have falls := falls_iff_unclocked h.coherent made
  refine ⟨h.coherent, ?_, ?_, ?_⟩
  · rw [use_eq_sample h.coherent, sample_counter]
    simp only [falls]
  · rw [use_eq_sample h.coherent, sample_reload]
    simp only [falls]
  · rw [use_eq_sample h.coherent]
    exact sample_kept _

/-- **The counter is clocked by falling edges**, and by nothing else, however a timer with any divider
was used before. -/
theorem clocking_of_uses (divider : UInt16) (past : List Use) (made : Use) :
    Clocking (({ divider := divider } : Timer).uses past) made :=
  ((Reachable.new divider).uses past).clocking made

end Timer
end DotMatrix
