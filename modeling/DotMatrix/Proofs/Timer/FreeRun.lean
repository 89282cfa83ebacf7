import DotMatrix.Timer

/-! # The timer left to itself

Between two stores to its registers the timer depends on nothing but the number of T-cycles that have
passed.  The divider counts them; the counter is clocked each time the chosen bit of the divider falls,
which is once in each period; and the clocks at which it overflows follow one another at the distance
that the reload value leaves.

The invariant (`Course`) has three cases: the counter has not overflowed yet, it overflowed less than
four T-cycles ago, or it runs from the reload value.  A period is longer than the four T-cycles, so that
no clock falls into an overflow.
-/
namespace DotMatrix
namespace Timer

/-! ## The clock signal -/

/-- A timer that came about by driving a new one, with the divider in any phase: time passed, and
registers written.  The divider is cleared by a store to it. -/
inductive Reachable : Timer → Prop where
  | new (divider : UInt16) : Reachable { divider := divider }
  | tick {timer : Timer} : Reachable timer → Reachable timer.tick.1
  | write {timer : Timer} (address : UInt16) (value : UInt8) :
    Reachable timer → Reachable (timer.write address value)

/-- The level is a matter of the control register and the divider. -/
theorem level_congr {timer other : Timer} (control : other.control = timer.control)
    (divider : other.divider = timer.divider) : other.level = timer.level := by
  unfold level clockBit
  rw [control, divider]

@[simp]
theorem increment_divider (timer : Timer) : timer.increment.divider = timer.divider := by
  unfold increment
  split <;> rfl

@[simp]
theorem increment_control (timer : Timer) : timer.increment.control = timer.control := by
  unfold increment
  split <;> rfl

@[simp]
theorem increment_modulo (timer : Timer) : timer.increment.modulo = timer.modulo := by
  unfold increment
  split <;> rfl

/-- The signal last seen is the one there is. -/
theorem coherent_sample (timer : Timer) : timer.sample.signal = timer.sample.level := by
  have seen : timer.sample.signal = timer.level := by
    unfold sample
    dsimp only
    split <;> rfl
  rw [seen]
  refine (level_congr ?_ ?_).symm
  · unfold sample
    dsimp only
    split
    · exact timer.increment_control
    · rfl
  · unfold sample
    dsimp only
    split
    · exact timer.increment_divider
    · rfl

theorem coherent_tick (timer : Timer) : timer.tick.1.signal = timer.tick.1.level :=
  coherent_sample _

/-- A cleared divider gives no signal. -/
theorem level_cleared {timer : Timer} (cleared : timer.divider = 0) : timer.level = false := by
  unfold level
  rw [cleared]
  simp

/-- **The timer has always seen its clock signal**, whatever was done to it. -/
theorem Reachable.coherent {timer : Timer} (h : Reachable timer) : timer.signal = timer.level := by
  induction h with
  | new divider => simp [level]
  | tick _ _ => exact coherent_tick _
  | @write timer address value _ ih =>
    unfold Timer.write
    split
    · unfold resetDivider
      split
      · exact (level_cleared rfl).symm
      · rename_i low
        rw [level_cleared rfl]
        exact Bool.eq_false_iff.mpr low
    · unfold setCounter
      split <;> exact ih
    · unfold setModulo
      split <;> exact ih
    · exact coherent_sample _
    · exact ih

/-- The clock signal falls in the T-cycle to come, which clocks the counter. -/
def falls (timer : Timer) : Bool :=
  timer.signal && !{ timer with divider := timer.divider + 1 }.level

/-! ## One T-cycle -/

/-- No overflow is in progress. -/
def Clear (timer : Timer) : Prop := ∀ cycles, timer.reload ≠ .pending cycles

theorem settle_clear {timer : Timer} (clear : timer.Clear) :
    timer.settle = ({ timer with reload := .idle }, []) := by
  unfold settle
  split <;> rename_i reload
  · rw [← reload]
  · exact absurd reload (clear 1)
  · exact absurd reload (clear _)
  · rfl

theorem settle_pending {timer : Timer} {cycles : Nat} (pending : timer.reload = .pending cycles)
    (early : cycles ≠ 1) :
    timer.settle = ({ timer with reload := .pending (cycles - 1) }, []) := by
  unfold settle
  split <;> rename_i reload <;> rw [pending] at reload <;> cases reload
  · exact absurd rfl early
  · rfl

theorem settle_due {timer : Timer} (due : timer.reload = .pending 1) :
    timer.settle = ({ timer with counter := timer.modulo, reload := .done }, [.timer]) := by
  simp only [settle, due]

/-- What bringing an overflow further leaves alone. -/
theorem settle_kept (timer : Timer) :
    timer.settle.1.divider = timer.divider ∧ timer.settle.1.modulo = timer.modulo ∧
      timer.settle.1.control = timer.control ∧ timer.settle.1.signal = timer.signal := by
  unfold settle
  split <;> exact ⟨rfl, rfl, rfl, rfl⟩

theorem tick_kept (timer : Timer) :
    timer.tick.1.divider = timer.divider + 1 ∧ timer.tick.1.modulo = timer.modulo ∧
      timer.tick.1.control = timer.control ∧ timer.tick.2 = timer.settle.2 := by
  obtain ⟨divider, modulo, control, -⟩ := timer.settle_kept
  rw [← divider, ← modulo, ← control]
  unfold tick sample
  dsimp only
  split
  · exact ⟨increment_divider _, increment_modulo _, increment_control _, rfl⟩
  · exact ⟨rfl, rfl, rfl, rfl⟩

/-- After an overflow was brought further, the counter moves if the clock signal falls. -/
theorem tick_counter (timer : Timer) :
    timer.tick.1.counter =
        (if timer.falls then timer.settle.1.increment else timer.settle.1).counter ∧
      timer.tick.1.reload =
        (if timer.falls then timer.settle.1.increment else timer.settle.1).reload := by
  obtain ⟨divider, -, control, signal⟩ := timer.settle_kept
  have level : { timer.settle.1 with divider := timer.settle.1.divider + 1 }.level =
      { timer with divider := timer.divider + 1 }.level :=
    level_congr control (congrArg (· + 1) divider)
  unfold tick sample falls
  dsimp only
  rw [level, signal]
  split
  · unfold increment
    dsimp only
    split <;> exact ⟨rfl, rfl⟩
  · exact ⟨rfl, rfl⟩

/-! ## Clocks -/

/-- T-cycles from one clock of the counter to the next. -/
def period (timer : Timer) : Nat :=
  match timer.control &&& 0x03 with
  | 0 => 1024
  | 1 => 16
  | 2 => 64
  | _ => 256

/-- A period is as long as the chosen bit takes to rise and to fall. -/
theorem period_cases (timer : Timer) :
    (timer.clockBit = 3 ∧ timer.period = 16) ∨ (timer.clockBit = 5 ∧ timer.period = 64) ∨
      (timer.clockBit = 7 ∧ timer.period = 256) ∨ (timer.clockBit = 9 ∧ timer.period = 1024) := by
  unfold clockBit period
  generalize timer.control = control
  revert control
  exact forall_byte (by decide +kernel)

/-- The clock signal is high in the second half of each period. -/
theorem level_eq {timer : Timer} (enabled : timer.control &&& 0x04 ≠ 0) :
    timer.level = decide (timer.period / 2 ≤ timer.divider.toNat % timer.period) := by
  have high : (timer.control &&& 0x04 != 0) = true := bne_iff_ne.mpr enabled
  unfold level
  rw [high, Bool.true_and, Bool.eq_iff_iff, beq_iff_eq, decide_eq_true_eq]
  rcases timer.period_cases with ⟨bit, period⟩ | ⟨bit, period⟩ | ⟨bit, period⟩ | ⟨bit, period⟩ <;>
    rw [bit, period] <;> simp only [Nat.pow_eq, Nat.reducePow] <;> omega

/-- **A running timer is clocked at the end of each period** of the divider. -/
theorem falls_iff {timer : Timer} (coherent : timer.signal = timer.level)
    (enabled : timer.control &&& 0x04 ≠ 0) :
    timer.falls = true ↔ (timer.divider.toNat + 1) % timer.period = 0 := by
  have next : (timer.divider + 1).toNat = (timer.divider.toNat + 1) % 65536 := UInt16.toNat_add ..
  have after : { timer with divider := timer.divider + 1 }.level =
      decide (timer.period / 2 ≤ (timer.divider + 1).toNat % timer.period) := level_eq enabled
  unfold falls
  rw [after, coherent, level_eq enabled, Bool.and_eq_true, Bool.not_eq_true', decide_eq_true_eq,
    decide_eq_false_iff_not, next]
  rcases timer.period_cases with ⟨-, period⟩ | ⟨-, period⟩ | ⟨-, period⟩ | ⟨-, period⟩ <;>
    rw [period] <;> omega

section Arithmetic
variable (timer : Timer)

/-- How often the counter is clocked in the first `cycles` T-cycles. -/
def clocks (cycles : Nat) : Nat :=
  (timer.divider.toNat + cycles) / timer.period - timer.divider.toNat / timer.period

/-- The counter overflows on this clock, counted from one: on the first that finds the counter at its
highest value, and from then on each time the counter has run up from the reload value. -/
def OverflowsOn (clock : Nat) : Prop :=
  256 - timer.counter.toNat ≤ clock ∧
    (clock - (256 - timer.counter.toNat)) % (256 - timer.modulo.toNat) = 0

/-- The T-cycle, counted from one, clocks the counter and makes it overflow. -/
def OverflowAt (cycle : Nat) : Prop :=
  timer.clocks cycle = timer.clocks (cycle - 1) + 1 ∧ timer.OverflowsOn (timer.clocks cycle)

instance (clock : Nat) : Decidable (timer.OverflowsOn clock) :=
  inferInstanceAs (Decidable (_ ∧ _))

instance (cycle : Nat) : Decidable (timer.OverflowAt cycle) :=
  inferInstanceAs (Decidable (_ ∧ _))

/-- T-cycles that the current period of the divider is old. -/
def age (cycles : Nat) : Nat := (timer.divider.toNat + cycles) % timer.period

theorem clocks_zero : timer.clocks 0 = 0 := Nat.sub_self _

/-- A T-cycle ends a period and clocks the counter, or does neither. -/
theorem clocks_succ (cycles : Nat) :
    (timer.clocks (cycles + 1) = timer.clocks cycles + 1 ∧ 15 ≤ timer.age cycles ∧
        timer.age (cycles + 1) = 0) ∨
      (timer.clocks (cycles + 1) = timer.clocks cycles ∧
        timer.age (cycles + 1) = timer.age cycles + 1) := by
  unfold clocks age
  rcases timer.period_cases with ⟨-, period⟩ | ⟨-, period⟩ | ⟨-, period⟩ | ⟨-, period⟩ <;>
    rw [period] <;> omega

/-- The counter is at least one clock from overflowing. -/
theorem OverflowsOn.pos {clock : Nat} (h : timer.OverflowsOn clock) : 0 < clock := by
  have small := timer.counter.toNat_lt
  have reached := h.1
  omega

/-- **A recent overflow was that of the last clock**, which is as long ago as the period is old. -/
theorem overflowAt_sub (cycles : Nat) {late : Nat} (recent : late < reloadDelay) :
    timer.OverflowAt (cycles - late) ↔
      timer.age cycles = late ∧ timer.OverflowsOn (timer.clocks cycles) := by
  induction cycles generalizing late with
  | zero =>
    have early : ¬ timer.OverflowsOn (timer.clocks 0) := fun overflows => by
      have pos := overflows.pos
      rw [clocks_zero] at pos
      cases pos
    rw [Nat.zero_sub]
    exact iff_of_false (fun edge => early edge.2) fun both => early both.2
  | succ cycles ih =>
    have step := timer.clocks_succ cycles
    cases late with
    | zero =>
      unfold OverflowAt
      refine and_congr_left fun _ => ?_
      rw [Nat.sub_zero, Nat.add_sub_cancel]
      omega
    | succ late =>
      unfold reloadDelay at recent
      rw [Nat.add_sub_add_right, ih (Nat.lt_of_succ_lt recent)]
      rcases step with ⟨-, old, new⟩ | ⟨same, older⟩
      · exact iff_of_false (fun both => by omega) fun both => by omega
      · rw [same, older, Nat.add_right_cancel_iff]

end Arithmetic

/-! ## The course of the counter -/

/-- Where the counter is after so many T-cycles. -/
inductive Course (timer : Timer) (cycles : Nat) (now : Timer) : Prop where
  /-- It has not overflowed yet. -/
  | rising (before : timer.clocks cycles < 256 - timer.counter.toNat)
    (counter : now.counter.toNat = timer.counter.toNat + timer.clocks cycles) (clear : now.Clear)
  /-- It overflowed and has not been reloaded. -/
  | overflown (late : Nat) (recent : late < reloadDelay) (edge : timer.OverflowAt (cycles - late))
    (counter : now.counter = 0) (pending : now.reload = .pending (reloadDelay - late))
  /-- It runs from the reload value. -/
  | reloaded (after : 256 - timer.counter.toNat ≤ timer.clocks cycles)
    (settled : ∀ late < reloadDelay, ¬ timer.OverflowAt (cycles - late))
    (counter : now.counter.toNat = timer.modulo.toNat +
      (timer.clocks cycles - (256 - timer.counter.toNat)) % (256 - timer.modulo.toNat))
    (clear : now.Clear)

/-- A remainder goes up by one or wraps to zero. -/
theorem succ_mod (number : Nat) {size : Nat} (pos : 0 < size) :
    (number % size + 1 = size ∧ (number + 1) % size = 0) ∨
      (number % size + 1 < size ∧ (number + 1) % size = number % size + 1) := by
  have below := Nat.mod_lt number pos
  rw [← Nat.mod_add_mod]
  rcases Nat.lt_or_eq_of_le (Nat.succ_le_of_lt below) with more | full
  · exact .inr ⟨more, Nat.mod_eq_of_lt more⟩
  · exact .inl ⟨full, by rw [show number % size + 1 = size from full, Nat.mod_self]⟩

/-- What a clock does to the counter. -/
theorem increment_cases (timer : Timer) :
    (timer.counter.toNat = 255 ∧ timer.increment.counter = 0 ∧
        timer.increment.reload = .pending reloadDelay) ∨
      (timer.counter.toNat < 255 ∧ timer.increment.counter.toNat = timer.counter.toNat + 1 ∧
        timer.increment.reload = timer.reload) := by
  unfold increment
  split
  · rename_i full
    exact .inl ⟨congrArg UInt8.toNat (eq_of_beq full), rfl, rfl⟩
  · rename_i more
    have small := timer.counter.toNat_lt
    have ne : timer.counter.toNat ≠ 255 := fun full =>
      more (beq_iff_eq.mpr (UInt8.toNat_inj.mp full))
    refine .inr ⟨by omega, ?_, rfl⟩
    rw [UInt8.toNat_add]
    exact Nat.mod_eq_of_lt (show timer.counter.toNat + 1 < 256 by omega)

theorem Clear.idle {timer : Timer} (idle : timer.reload = .idle) : timer.Clear := by
  intro cycles pending
  rw [idle] at pending
  cases pending

namespace Course
variable {timer now : Timer} {cycles : Nat}

/-- In the first four T-cycles of a period the counter is not clocked, so a clock finds no overflow in
progress. -/
theorem clear (h : Course timer cycles now) (old : 15 ≤ timer.age cycles) : now.Clear := by
  cases h with
  | rising _ _ clear => exact clear
  | overflown late recent edge _ _ =>
    have young := ((timer.overflowAt_sub cycles recent).mp edge).1
    unfold reloadDelay at recent
    omega
  | reloaded _ _ _ clear => exact clear

/-- **A clock** moves the counter on, or makes it overflow where the schedule says so. -/
theorem clocked (h : Course timer cycles now) (falls : now.falls = true)
    (next : timer.clocks (cycles + 1) = timer.clocks cycles + 1) (old : 15 ≤ timer.age cycles)
    (new : timer.age (cycles + 1) = 0) : Course timer (cycles + 1) now.tick.1 := by
  have clear := h.clear old
  obtain ⟨counter, reload⟩ := now.tick_counter
  rw [if_pos falls, settle_clear clear] at counter reload
  have small := timer.counter.toNat_lt
  have overflown (full : { now with reload := .idle }.increment.counter = 0 ∧
      { now with reload := .idle }.increment.reload = .pending reloadDelay)
      (overflows : timer.OverflowsOn (timer.clocks (cycles + 1))) :
      Course timer (cycles + 1) now.tick.1 :=
    .overflown 0 (by decide) ((timer.overflowAt_sub (cycles + 1) (by decide)).mpr ⟨new, overflows⟩)
      (counter.trans full.1) (reload.trans full.2)
  have moved := increment_cases { now with reload := .idle }
  dsimp only at moved
  cases h with
  | rising before was _ =>
    rcases moved with ⟨full, overflow⟩ | ⟨more, moves, idle⟩
    · refine overflown overflow ⟨by omega, ?_⟩
      rw [show timer.clocks (cycles + 1) - (256 - timer.counter.toNat) = 0 by omega, Nat.zero_mod]
    · refine .rising (by omega) ?_ (.idle (reload.trans idle))
      rw [counter, moves]
      omega
  | overflown late recent edge _ pending => exact absurd pending (clear _)
  | reloaded after _ was _ =>
    have room := timer.modulo.toNat_lt
    have wraps := succ_mod (timer.clocks cycles - (256 - timer.counter.toNat))
      (show 0 < 256 - timer.modulo.toNat by omega)
    have count : timer.clocks (cycles + 1) - (256 - timer.counter.toNat) =
        timer.clocks cycles - (256 - timer.counter.toNat) + 1 := by omega
    rcases moved with ⟨full, overflow⟩ | ⟨more, moves, idle⟩
    · refine overflown overflow ⟨by omega, ?_⟩
      rw [count]
      omega
    · refine .reloaded (by omega) ?_ ?_ (.idle (reload.trans idle))
      · intro late recent edge
        have again := ((timer.overflowAt_sub (cycles + 1) recent).mp edge).2.2
        rw [count] at again
        omega
      · rw [counter, moves, count]
        omega

/-- **Without a clock** only an overflow goes on. -/
theorem unclocked (h : Course timer cycles now) (modulo : now.modulo = timer.modulo)
    (still : now.falls = false) (same : timer.clocks (cycles + 1) = timer.clocks cycles)
    (older : timer.age (cycles + 1) = timer.age cycles + 1) :
    Course timer (cycles + 1) now.tick.1 := by
  obtain ⟨counter, reload⟩ := now.tick_counter
  rw [if_neg (by rw [still]; decide)] at counter reload
  cases h with
  | rising before was clear =>
    rw [settle_clear clear] at counter reload
    refine .rising (by omega) ?_ (.idle reload)
    rw [counter, same]
    exact was
  | overflown late recent edge was pending =>
    by_cases due : late + 1 < reloadDelay
    · have early : reloadDelay - late ≠ 1 := by omega
      rw [settle_pending pending early] at counter reload
      refine .overflown (late + 1) due ?_ (counter.trans was) ?_
      · rwa [Nat.add_sub_add_right]
      · rw [reload, Nat.sub_sub]
    · have last : reloadDelay - late = 1 := by omega
      rw [last] at pending
      rw [settle_due pending] at counter reload
      obtain ⟨young, overflows⟩ := (timer.overflowAt_sub cycles recent).mp edge
      refine .reloaded (same ▸ overflows.1) ?_ ?_ ?_
      · intro other recent' edge'
        have young' := ((timer.overflowAt_sub (cycles + 1) recent').mp edge').1
        omega
      · rw [counter, same, overflows.2, modulo]
        rfl
      · intro cycles pending
        rw [reload] at pending
        cases pending
  | reloaded after settled was clear =>
    rw [settle_clear clear] at counter reload
    refine .reloaded (same ▸ after) ?_ ?_ (.idle reload)
    · intro late recent edge
      obtain ⟨young, overflows⟩ := (timer.overflowAt_sub (cycles + 1) recent).mp edge
      rw [same] at overflows
      have recent' : timer.age cycles < reloadDelay := by omega
      exact settled _ recent' ((timer.overflowAt_sub cycles recent').mpr ⟨rfl, overflows⟩)
    · rw [counter, same]
      exact was

theorem start (clear : timer.Clear) : Course timer 0 timer := by
  have small := timer.counter.toNat_lt
  have none := timer.clocks_zero
  refine .rising (by omega) ?_ clear
  rw [none, Nat.add_zero]

/-- The counter as a number. -/
theorem counter_eq (h : Course timer cycles now) : now.counter.toNat =
    if timer.clocks cycles < 256 - timer.counter.toNat then
      timer.counter.toNat + timer.clocks cycles
    else if ∃ late, late < reloadDelay ∧ timer.OverflowAt (cycles - late) then 0
    else timer.modulo.toNat +
      (timer.clocks cycles - (256 - timer.counter.toNat)) % (256 - timer.modulo.toNat) := by
  cases h with
  | rising before counter _ => rw [if_pos before, counter]
  | overflown late recent edge counter _ =>
    have reached := ((timer.overflowAt_sub cycles recent).mp edge).2.1
    rw [if_neg (Nat.not_lt.mpr reached), if_pos ⟨late, recent, edge⟩, counter]
    rfl
  | reloaded after settled counter _ =>
    rw [if_neg (Nat.not_lt.mpr after), if_neg, counter]
    rintro ⟨late, recent, edge⟩
    exact settled late recent edge

/-- How long ago an overflow was is what is left of it. -/
theorem pending_iff (h : Course timer cycles now) (late : Nat) (recent : late < reloadDelay) :
    now.reload = .pending (reloadDelay - late) ↔ timer.OverflowAt (cycles - late) := by
  cases h with
  | rising before _ clear =>
    refine iff_of_false (clear _) fun edge => ?_
    have reached := ((timer.overflowAt_sub cycles recent).mp edge).2.1
    omega
  | overflown since recent' edge _ pending =>
    obtain ⟨age, overflows⟩ := (timer.overflowAt_sub cycles recent').mp edge
    rw [pending, timer.overflowAt_sub cycles recent, Reload.pending.injEq]
    constructor
    · intro left
      exact ⟨by omega, overflows⟩
    · rintro ⟨age', -⟩
      omega
  | reloaded _ settled _ clear => exact iff_of_false (clear _) (settled late recent)

/-- **The interrupt is asked for when the overflow is four T-cycles old**, and only then. -/
theorem asks (h : Course timer cycles now) :
    now.tick.2 = if timer.OverflowAt (cycles + 1 - reloadDelay) then [.timer] else [] := by
  have due := h.pending_iff 3 (by decide)
  rw [now.tick_kept.2.2.2, show cycles + 1 - reloadDelay = cycles - 3 from Nat.add_sub_add_right ..]
  by_cases last : timer.OverflowAt (cycles - 3)
  · rw [if_pos last, settle_due (due.mpr last)]
  · rw [if_neg last]
    cases h with
    | rising _ _ clear | reloaded _ _ _ clear => rw [settle_clear clear]
    | overflown late _ _ _ pending =>
      have early : reloadDelay - late ≠ 1 := fun one =>
        last (due.mp (pending.trans (congrArg Reload.pending one)))
      rw [settle_pending pending early]

end Course

/-! ## The whole run -/

/-- The timer in the middle of a run without stores. -/
structure Running (timer : Timer) (cycles : Nat) (now : Timer) : Prop where
  control : now.control = timer.control
  modulo : now.modulo = timer.modulo
  divider : now.divider.toNat = (timer.divider.toNat + cycles) % 65536
  coherent : now.signal = now.level
  course : Course timer cycles now

namespace Running
variable {timer now : Timer} {cycles : Nat}

/-- The clock signal falls where the schedule has a clock. -/
theorem falls_iff (h : Running timer cycles now) (enabled : timer.control &&& 0x04 ≠ 0) :
    now.falls = true ↔ timer.clocks (cycles + 1) = timer.clocks cycles + 1 := by
  have period : now.period = timer.period := by
    unfold period
    rw [h.control]
  have age : (now.divider.toNat + 1) % now.period = timer.age (cycles + 1) := by
    rw [h.divider, period, age]
    rcases timer.period_cases with ⟨-, period⟩ | ⟨-, period⟩ | ⟨-, period⟩ | ⟨-, period⟩ <;>
      rw [period] <;> omega
  have step := timer.clocks_succ cycles
  rw [Timer.falls_iff h.coherent (h.control ▸ enabled), age]
  omega

theorem tick (h : Running timer cycles now) (enabled : timer.control &&& 0x04 ≠ 0) :
    Running timer (cycles + 1) now.tick.1 := by
  obtain ⟨divider, modulo, control, -⟩ := now.tick_kept
  refine ⟨control.trans h.control, modulo.trans h.modulo, ?_, now.coherent_tick, ?_⟩
  · rw [divider, UInt16.toNat_add, h.divider]
    exact Nat.mod_add_mod ..
  · have falls := h.falls_iff enabled
    rcases timer.clocks_succ cycles with ⟨next, old, new⟩ | ⟨same, older⟩
    · exact h.course.clocked (falls.mpr next) next old new
    · refine h.course.unclocked h.modulo ?_ same older
      rw [← Bool.not_eq_true, falls]
      omega

end Running

theorem advance_succ (timer : Timer) (cycles : Nat) :
    timer.advance (cycles + 1) =
      ((timer.advance cycles).1.tick.1,
        (timer.advance cycles).2 ++ (timer.advance cycles).1.tick.2) := by
  unfold advance
  rw [Interrupt.collect_add, Interrupt.collect_succ, Interrupt.collect_zero, List.append_nil]

theorem running {timer : Timer} (coherent : timer.signal = timer.level) (clear : timer.Clear)
    (enabled : timer.control &&& 0x04 ≠ 0) (cycles : Nat) :
    Running timer cycles (timer.advance cycles).1 := by
  induction cycles with
  | zero =>
    have small := timer.divider.toNat_lt
    exact ⟨rfl, rfl, (Nat.mod_eq_of_lt small).symm, coherent, .start clear⟩
  | succ cycles ih =>
    rw [advance_succ]
    exact ih.tick enabled

/-- **The timer in closed form**, after so many T-cycles without stores. -/
structure FreeRun (timer : Timer) (cycles : Nat) : Prop where
  divider : (timer.advance cycles).1.divider.toNat = (timer.divider.toNat + cycles) % 65536
  /-- The T-cycles in which the clock signal fell. -/
  clocked : (List.range cycles).countP (fun before => (timer.advance before).1.falls) =
    timer.clocks cycles
  /-- The last T-cycle was one in which the counter overflowed. -/
  edge : (timer.advance cycles).1.reload = .pending reloadDelay ↔ timer.OverflowAt cycles
  counter : (timer.advance cycles).1.counter.toNat =
    if timer.clocks cycles < 256 - timer.counter.toNat then
      timer.counter.toNat + timer.clocks cycles
    else if ∃ late, late < reloadDelay ∧ timer.OverflowAt (cycles - late) then 0
    else timer.modulo.toNat +
      (timer.clocks cycles - (256 - timer.counter.toNat)) % (256 - timer.modulo.toNat)
  /-- The interrupts that the next T-cycle asks for. -/
  asks : (timer.advance cycles).1.tick.2 =
    if timer.OverflowAt (cycles + 1 - reloadDelay) then [.timer] else []

/-- Time that passes in several calls, and all interrupts asked for meanwhile. -/
def advances : List Nat → Timer → Timer × List Interrupt
  | [], timer => (timer, [])
  | cycles :: calls, timer =>
    ((advances calls (timer.advance cycles).1).1,
      (timer.advance cycles).2 ++ (advances calls (timer.advance cycles).1).2)

/-- The pieces in which time passes do not matter. -/
theorem advances_eq (calls : List Nat) (timer : Timer) :
    advances calls timer = timer.advance (calls.foldr (· + ·) 0) := by
  induction calls generalizing timer with
  | nil => rfl
  | cons cycles calls ih =>
    rw [advances, ih, List.foldr_cons]
    exact (Interrupt.collect_add tick cycles _ timer).symm

/-- **A running timer follows its closed form**, in whatever pieces time passes, as long as nothing is
stored to it. -/
theorem free_run {timer : Timer} (reachable : Reachable timer) (clear : timer.Clear)
    (enabled : timer.control &&& 0x04 ≠ 0) (calls : List Nat) :
    advances calls timer = timer.advance (calls.foldr (· + ·) 0) ∧
      FreeRun timer (calls.foldr (· + ·) 0) := by
  refine ⟨advances_eq calls timer, ?_⟩
  generalize calls.foldr (· + ·) 0 = cycles
  have runs := running reachable.coherent clear enabled
  refine ⟨(runs cycles).divider, ?_, (runs cycles).course.pending_iff 0 (by decide),
    (runs cycles).course.counter_eq, (runs cycles).course.asks⟩
  induction cycles with
  | zero => exact (Nat.sub_self _).symm
  | succ cycles ih =>
    rw [List.range_succ, List.countP_append, ih, List.countP_singleton]
    have falls := (runs cycles).falls_iff enabled
    split
    · rename_i fell
      exact (falls.mp fell).symm
    · rename_i still
      have none : timer.clocks (cycles + 1) ≠ timer.clocks cycles + 1 := mt falls.mpr still
      have steady := timer.clocks_succ cycles
      omega

/-- With the highest reload value the counter overflows on every clock; here on the ninth T-cycle and
on each sixteenth after it. -/
theorem free_run_reload_highest :
    let timer : Timer := { divider := 7, counter := 0xFF, modulo := 0xFF, control := 0x05 }
    (advances [5, 4] timer).1.reload = .pending 4 ∧ (advances [12] timer).1.counter = 0 ∧
      (advances [12] timer).1.tick.2 = [.timer] ∧ (advances [9, 4] timer).1.counter = 0xFF ∧
      (advances [25] timer).1.reload = .pending 4 := by
  intro timer
  have reachable : Reachable timer :=
    .write 0xFF05 0xFF (.write 0xFF06 0xFF (.write 0xFF07 0x05 (.new 7)))
  have clear : timer.Clear := .idle rfl
  have run := free_run reachable clear (by decide)
  refine ⟨?_, ?_, ?_, ?_, ?_⟩
  · rw [(run [5, 4]).1]
    exact (run [5, 4]).2.edge.mpr (by decide)
  · rw [(run [12]).1]
    exact UInt8.toNat_inj.mp ((run [12]).2.counter.trans (by decide))
  · rw [(run [12]).1]
    exact (run [12]).2.asks.trans (by decide)
  · rw [(run [9, 4]).1]
    exact UInt8.toNat_inj.mp ((run [9, 4]).2.counter.trans (by decide))
  · rw [(run [25]).1]
    exact (run [25]).2.edge.mpr (by decide)

end Timer
end DotMatrix
