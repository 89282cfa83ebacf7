import DotMatrix.Cartridge.Clock

/-! # Keeping time

The clock of a cartridge counts only when it is asked to, and what does not make up a second is kept as
a fraction.  So it must not matter how often it is asked: a clock that runs shows, after any number of
latches, what it showed before and the time from the last count to the last latch (`Ahead`).  Adding to
the counters is ticking once for each second, with all that a tick carries over (`advance_succ`).  The
proof puts counters and fraction together to one number of nanoseconds and shows that being ahead adds
up (`Ahead.trans`); the days start again after 512 of them, which the carry remembers.

A clock that stands still moves only the instant of its last count, so that the time of the halt is
missing when it runs again.
-/
namespace DotMatrix
namespace Calendar

/-! ## Counters in range -/

/-- The counters show a time of day, and the days fit into their nine bits. -/
structure Proper (time : Calendar) : Prop where
  seconds : time.seconds < 60
  minutes : time.minutes < 60
  hours : time.hours < 24
  days : time.days < 512

variable {time : Calendar}

theorem Proper.inRange (h : time.Proper) : time.inRange = true := by
  simp [Calendar.inRange, h.seconds, h.minutes, h.hours]

theorem Proper.total_lt (h : time.Proper) : time.total < period := by
  obtain ⟨seconds, minutes, hours, days⟩ := h
  unfold total period
  omega

/-- Whatever number is shown, the counters are in range. -/
theorem proper_setTotal (time : Calendar) (seconds : Nat) : (time.setTotal seconds).Proper := by
  constructor <;> exact Nat.mod_lt _ (by decide)

/-- The number shown, without the days that do not fit. -/
theorem total_setTotal (time : Calendar) (seconds : Nat) :
    (time.setTotal seconds).total = seconds % period := by
  simp only [total, setTotal, period]
  omega

theorem carry_setTotal (time : Calendar) (seconds : Nat) :
    (time.setTotal seconds).carry = true ↔ time.carry = true ∨ period ≤ seconds := by
  simp [setTotal]

theorem halted_setTotal (time : Calendar) (seconds : Nat) :
    (time.setTotal seconds).halted = time.halted := rfl

/-- Showing what is shown already changes nothing. -/
theorem Proper.setTotal_total (h : time.Proper) : time.setTotal time.total = time := by
  have below := h.total_lt
  obtain ⟨seconds, minutes, hours, days⟩ := h
  obtain ⟨second, minute, hour, day, halted, carry⟩ := time
  simp only [total] at *
  simp only [setTotal, mk.injEq, true_and]
  refine ⟨by omega, by omega, by omega, by omega, ?_⟩
  rw [decide_eq_false (Nat.not_le.mpr below), Bool.or_false]

/-- **Counters in range are advanced by adding**, however many seconds there are. -/
theorem Proper.advance_eq (h : time.Proper) (seconds : Nat) :
    time.advance seconds = time.setTotal (time.total + seconds) := by
  cases seconds with
  | zero => exact h.setTotal_total.symm
  | succ seconds =>
    rw [advance, if_pos h.inRange, Nat.add_assoc]

/-! ## Days in nine bits -/

theorem days_dayTick (time : Calendar) : time.dayTick.days < 512 := by
  unfold dayTick
  split
  · exact Nat.succ_lt_succ ‹_›
  · exact (by decide : 0 < 512)

theorem days_secondTick (h : time.days < 512) : time.secondTick.days < 512 := by
  unfold secondTick minuteTick hourTick
  split
  · split
    · split
      · exact days_dayTick _
      · exact h
    · exact h
  · exact h

theorem days_write (h : time.days < 512) (register : ClockRegister) (value : UInt8) :
    (time.write register value).days < 512 := by
  have small := value.toNat_lt
  cases register with
  | seconds | minutes | hours => exact h
  | days | control =>
    simp only [write]
    omega

/-! ## One second at a time -/

/-- Showing one number and adding to what is shown is showing the sum. -/
theorem setTotal_setTotal (time : Calendar) (first second : Nat) :
    (time.setTotal first).setTotal ((time.setTotal first).total + second) =
      time.setTotal (first + second) := by
  rw [total_setTotal]
  have carry : (period ≤ first ∨ period ≤ first % period + second) ↔ period ≤ first + second := by
    unfold period
    omega
  simp only [setTotal, mk.injEq, Bool.or_assoc, ← Bool.decide_or, decide_eq_decide.mpr carry,
    and_true]
  unfold period
  omega

/-- **A tick of counters in range**, with all it carries over, shows one second more. -/
theorem Proper.secondTick_eq (h : time.Proper) : time.secondTick = time.setTotal (time.total + 1) := by
  obtain ⟨seconds, minutes, hours, days⟩ := h
  obtain ⟨second, minute, hour, day, halted, carry⟩ := time
  simp only [secondTick, minuteTick, hourTick, dayTick, setTotal, total, period] at *
  -- Each counter either carries over to the next or ends the tick.
  repeat' split
  all_goals
    simp only [Nat.reduceMul, Nat.reduceLeDiff, mk.injEq, Bool.eq_self_or, Bool.true_eq,
      Bool.or_eq_true, decide_eq_true_eq, true_and]
    omega

/-- **To advance is to tick**, once for each second, whether the counters are in range or not. -/
theorem advance_succ (days : time.days < 512) (seconds : Nat) :
    time.advance (seconds + 1) = time.secondTick.advance seconds := by
  by_cases inRange : time.inRange = true
  · have proper : time.Proper := by
      simp only [Calendar.inRange, Bool.and_eq_true, decide_eq_true_eq] at inRange
      exact ⟨inRange.1.1, inRange.1.2, inRange.2, days⟩
    rw [proper.advance_eq, proper.secondTick_eq, (proper_setTotal _ _).advance_eq,
      setTotal_setTotal, Nat.add_assoc, Nat.add_comm 1]
  · rw [advance, if_neg inRange]

theorem days_advance (h : time.days < 512) (seconds : Nat) : (time.advance seconds).days < 512 := by
  induction seconds generalizing time with
  | zero => exact h
  | succ seconds ih =>
    rw [advance_succ h]
    exact ih (days_secondTick h)

end Calendar

namespace Clock

/-! ## Clocks as they come about -/

/-- A clock that came about by driving a new one: latched and written at any instants. -/
inductive Reachable : Clock → Prop where
  | new (now : UInt64) : Reachable { synced := now }
  | latch {clock : Clock} (now : UInt64) : Reachable clock → Reachable (clock.latch now)
  | write {clock : Clock} (register : ClockRegister) (value : UInt8) (now : UInt64) :
    Reachable clock → Reachable (clock.write register value now)

/-- The days fit into their bits, and the fraction is less than a second. -/
structure Sound (clock : Clock) : Prop where
  days : clock.time.days < 512
  fraction : clock.fraction < nanosPerSecond

variable {clock : Clock}

theorem Sound.sync (h : clock.Sound) (now : UInt64) : (clock.sync now).Sound := by
  unfold Clock.sync
  split
  · exact ⟨h.days, h.fraction⟩
  · exact ⟨Calendar.days_advance h.days _, Nat.mod_lt _ (by decide)⟩

theorem Sound.write (h : clock.Sound) (register : ClockRegister) (value : UInt8) (now : UInt64) :
    (clock.write register value now).Sound := by
  have counted := h.sync now
  refine ⟨Calendar.days_write counted.days register value, ?_⟩
  unfold Clock.write
  dsimp only
  split
  · decide
  · exact counted.fraction

theorem Reachable.sound (h : Reachable clock) : clock.Sound := by
  induction h with
  | new now => exact ⟨(by decide : 0 < 512), (by decide : 0 < nanosPerSecond)⟩
  | latch now _ ih => exact ⟨(ih.sync now).days, (ih.sync now).fraction⟩
  | write register value now _ ih => exact ih.write register value now

/-! ## Being ahead -/

theorem nanos_pos : 0 < nanosPerSecond := by decide

/-- The nanoseconds that have been counted since day zero. -/
def nanos (clock : Clock) : Nat := clock.time.total * nanosPerSecond + clock.fraction

/-- `later` runs like `clock`, shows what `clock` shows and `passed` nanoseconds more. -/
structure Ahead (clock : Clock) (passed : Nat) (later : Clock) : Prop where
  proper : later.time.Proper
  total : later.time.total = (clock.nanos + passed) / nanosPerSecond % Calendar.period
  fraction : later.fraction = (clock.nanos + passed) % nanosPerSecond
  carry : later.time.carry = true ↔
    clock.time.carry = true ∨ Calendar.period ≤ (clock.nanos + passed) / nanosPerSecond
  running : later.time.halted = false

/-- A clock is where it is. -/
theorem ahead_zero (proper : clock.time.Proper) (fraction : clock.fraction < nanosPerSecond)
    (running : clock.time.halted = false) : Ahead clock 0 clock := by
  have below := proper.total_lt
  have whole : (clock.nanos + 0) / nanosPerSecond = clock.time.total := by
    unfold nanos nanosPerSecond at *
    omega
  refine ⟨proper, ?_, ?_, ?_, running⟩
  · rw [whole, Nat.mod_eq_of_lt below]
  · unfold nanos nanosPerSecond at *
    omega
  · rw [whole]
    exact ⟨.inl, fun either => either.resolve_right (Nat.not_le.mpr below)⟩

/-- **Being ahead adds up.** -/
theorem Ahead.trans {between later : Clock} {first second : Nat} (h : Ahead clock first between)
    (h' : Ahead between second later) : Ahead clock (first + second) later := by
  obtain ⟨-, total, fraction, carry, -⟩ := h
  -- What `between` has counted is what `clock` had, less whole turns of the days.
  have counted : between.nanos = (clock.nanos + first) / nanosPerSecond % Calendar.period *
      nanosPerSecond + (clock.nanos + first) % nanosPerSecond := by
    rw [nanos, total, fraction]
  have turns : (clock.nanos + (first + second)) / nanosPerSecond =
      (between.nanos + second) / nanosPerSecond +
        Calendar.period * ((clock.nanos + first) / nanosPerSecond / Calendar.period) := by
    rw [counted]
    unfold nanosPerSecond Calendar.period
    omega
  refine ⟨h'.proper, ?_, ?_, ?_, h'.running⟩
  · rw [h'.total, turns, Nat.add_mul_mod_self_left]
  · rw [h'.fraction, counted]
    unfold nanosPerSecond Calendar.period
    omega
  · rw [h'.carry, carry, turns, or_assoc]
    refine or_congr_right ?_
    unfold nanosPerSecond Calendar.period
    omega

/-- A clock that runs and shows a time of day counts by adding. -/
theorem sync_of_running (proper : clock.time.Proper) (running : clock.time.halted = false)
    (now : UInt64) : clock.sync now = { clock with
      synced := now
      fraction := (clock.nanos + (now.toNat - clock.synced.toNat)) % nanosPerSecond
      time := clock.time.setTotal
        ((clock.nanos + (now.toNat - clock.synced.toNat)) / nanosPerSecond) } := by
  have seconds : clock.time.total + (clock.fraction + (now.toNat - clock.synced.toNat)) /
      nanosPerSecond = (clock.nanos + (now.toNat - clock.synced.toNat)) / nanosPerSecond := by
    rw [nanos, Nat.add_assoc, Nat.mul_comm, Nat.mul_add_div nanos_pos]
  have fraction : (clock.fraction + (now.toNat - clock.synced.toNat)) % nanosPerSecond =
      (clock.nanos + (now.toNat - clock.synced.toNat)) % nanosPerSecond := by
    rw [nanos, Nat.add_assoc, Nat.mul_comm, Nat.mul_add_mod]
  rw [sync, running, if_neg Bool.false_ne_true]
  dsimp only
  rw [proper.advance_eq, seconds, fraction]

/-- **Counting once** puts a clock ahead by the time since it counted last. -/
theorem ahead_sync (proper : clock.time.Proper) (running : clock.time.halted = false)
    (now : UInt64) : Ahead clock (now.toNat - clock.synced.toNat) (clock.sync now) := by
  rw [sync_of_running proper running]
  exact ⟨Calendar.proper_setTotal _ _, Calendar.total_setTotal _ _, rfl,
    Calendar.carry_setTotal _ _, (Calendar.halted_setTotal _ _).trans running⟩

/-! ## Any number of latches -/

/-- The clock after it was latched at some instants, one after the other. -/
def latchAll (clock : Clock) (instants : List UInt64) : Clock := instants.foldl latch clock

theorem synced_sync (clock : Clock) (now : UInt64) : (clock.sync now).synced = now := by
  unfold sync
  split <;> rfl

/-- What is read is what the counters were at the last latch, which is what they are. -/
theorem latched_latchAll (clock : Clock) {instants : List UInt64} (some : instants ≠ []) :
    (clock.latchAll instants).latched = (clock.latchAll instants).time := by
  obtain ⟨earlier, last, rfl⟩ := List.eq_nil_or_concat instants |>.resolve_left some
  rw [latchAll, List.concat_eq_append, List.foldl_append]
  rfl

/-- The last of some instants in order is not before the first. -/
theorem le_getLastD {first : UInt64} {instants : List UInt64}
    (forward : (first :: instants).Pairwise (· ≤ ·)) : first ≤ instants.getLastD first := by
  cases instants with
  | nil => exact UInt64.le_refl first
  | cons second instants =>
    rw [List.getLastD_cons]
    exact List.rel_of_pairwise_cons forward (by cases instants <;> simp [List.getLastD])

/-- **A clock that runs gains and loses nothing by being latched**, however often. -/
theorem ahead_latchAll (proper : clock.time.Proper) (fraction : clock.fraction < nanosPerSecond)
    (running : clock.time.halted = false) {instants : List UInt64}
    (forward : (clock.synced :: instants).Pairwise (· ≤ ·)) :
    Ahead clock ((instants.getLastD clock.synced).toNat - clock.synced.toNat)
      (clock.latchAll instants) := by
  induction instants generalizing clock with
  | nil =>
    rw [List.getLastD_nil, Nat.sub_self]
    exact ahead_zero proper fraction running
  | cons now instants ih =>
    obtain ⟨after, forward⟩ := List.pairwise_cons.mp forward
    have counted := ahead_sync proper running now
    have synced : (clock.latch now).synced = now := clock.synced_sync now
    have first : Ahead clock (now.toNat - clock.synced.toNat) (clock.latch now) :=
      ⟨counted.proper, counted.total, counted.fraction, counted.carry, counted.running⟩
    have below : (clock.latch now).fraction < nanosPerSecond := by
      rw [first.fraction]
      exact Nat.mod_lt _ (by decide)
    have rest := ih first.proper below first.running (by rwa [synced])
    rw [synced] at rest
    have start := UInt64.le_iff_toNat_le.mp (after now (List.mem_cons_self ..))
    have stop := UInt64.le_iff_toNat_le.mp (le_getLastD forward)
    have sum := first.trans rest
    rw [List.getLastD_cons]
    rwa [show now.toNat - clock.synced.toNat + ((instants.getLastD now).toNat - now.toNat) =
      (instants.getLastD now).toNat - clock.synced.toNat by omega] at sum

/-! ## Standing still -/

theorem sync_of_halted (halted : clock.time.halted = true) (now : UInt64) :
    clock.sync now = { clock with synced := now } := by
  rw [sync, if_pos halted]

/-- **A clock that stands still counts nothing**, however often it is latched. -/
theorem latchAll_of_halted (halted : clock.time.halted = true) (instants : List UInt64) :
    (clock.latchAll instants).time = clock.time ∧
      (clock.latchAll instants).fraction = clock.fraction := by
  induction instants generalizing clock with
  | nil => exact ⟨rfl, rfl⟩
  | cons now instants ih =>
    have still : clock.latch now = { clock with synced := now, latched := clock.time } := by
      rw [latch, sync_of_halted halted]
    have stands : (clock.latch now).time.halted = true := by
      rw [still]
      exact halted
    have rest := ih stands
    rw [still] at rest
    rw [latchAll, List.foldl_cons, still]
    exact rest

/-- Setting a clock going again leaves its counters where they stood, but for the fields of the
register that is written, and counts from that instant on. -/
theorem write_control_of_halted (halted : clock.time.halted = true) (value : UInt8) (now : UInt64) :
    (clock.write .control value now).time = clock.time.write .control value ∧
      (clock.write .control value now).fraction = clock.fraction ∧
      (clock.write .control value now).synced = now := by
  rw [write, sync_of_halted halted]
  exact ⟨rfl, rfl, rfl⟩

theorem proper_write_control {time : Calendar} (h : time.Proper) (value : UInt8) :
    (time.write .control value).Proper :=
  ⟨h.seconds, h.minutes, h.hours, Calendar.days_write h.days _ value⟩

/-! ## Keeping time -/

/-- What the latches at `instants` do to a clock. -/
structure KeepsTime (clock : Clock) (instants : List UInt64) : Prop where
  /-- A clock that runs shows what it showed and the time up to the last latch. -/
  runs : clock.time.halted = false → Ahead clock
    ((instants.getLastD clock.synced).toNat - clock.synced.toNat) (clock.latchAll instants)
  /-- A clock that stands still shows what it showed. -/
  stands : clock.time.halted = true → (clock.latchAll instants).time = clock.time ∧
    (clock.latchAll instants).fraction = clock.fraction
  /-- If it is set going at an instant `resumed`, it shows at later latches what it showed when it was
  halted and the time from that instant on; the time of the halt is never added. -/
  resumes : clock.time.halted = true → ∀ value, hasBit value 6 = false → ∀ resumed later,
    (resumed :: later).Pairwise (· ≤ ·) →
    Ahead { clock with time := clock.time.write .control value }
      ((later.getLastD resumed).toNat - resumed.toNat)
      (((clock.latchAll instants).write .control value resumed).latchAll later)
  /-- What is read is what the counters show. -/
  shown : instants ≠ [] → (clock.latchAll instants).latched = (clock.latchAll instants).time

/-- **A clock keeps time however it is used**: any number of latches at instants that do not go back,
with any distance between them and no register written, neither gains nor loses time.  The counters are
to show a time of day when the latches begin. -/
theorem keeps_time (sound : clock.Sound) (seconds : clock.time.seconds < 60)
    (minutes : clock.time.minutes < 60) (hours : clock.time.hours < 24) {instants : List UInt64}
    (forward : (clock.synced :: instants).Pairwise (· ≤ ·)) : KeepsTime clock instants := by
  have proper : clock.time.Proper := ⟨seconds, minutes, hours, sound.days⟩
  refine ⟨fun running => ahead_latchAll proper sound.fraction running forward,
    fun halted => latchAll_of_halted halted instants, ?_, clock.latched_latchAll⟩
  intro halted value going resumed later onward
  obtain ⟨time, fraction⟩ := latchAll_of_halted halted instants
  have stands : (clock.latchAll instants).time.halted = true := by
    rw [time]
    exact halted
  obtain ⟨time', fraction', synced⟩ := write_control_of_halted stands value resumed
  rw [time] at time'
  rw [fraction] at fraction'
  have proper' : ((clock.latchAll instants).write .control value resumed).time.Proper := by
    rw [time']
    exact proper_write_control proper value
  have ahead := ahead_latchAll proper' (by rw [fraction']; exact sound.fraction)
    (by rw [time']; exact going) (by rw [synced]; exact onward)
  rw [synced] at ahead
  have counted : ((clock.latchAll instants).write .control value resumed).nanos =
      { clock with time := clock.time.write .control value }.nanos := by
    rw [nanos, time', fraction', nanos]
  obtain ⟨shows, total, rest, carry, runs⟩ := ahead
  rw [counted] at total rest carry
  rw [time'] at carry
  exact ⟨shows, total, rest, carry, runs⟩

/-- Two seconds before the days start again: a clock that runs, and one that is halted for nine seconds,
however often it is looked at. -/
theorem keeps_time_over_last_day :
    let time : Calendar := { seconds := 58, minutes := 59, hours := 23, days := 511 }
    let clock : Clock := { time := time, synced := 7, fraction := 600000000 }
    let halted : Clock := { clock with time := { time with halted := true } }
    let instants : List UInt64 := [7, 400000007, 1200000007, 1500000007]
    let resumed := ((halted.latchAll instants).write .control 1 9000000007).latchAll [9400000007]
    (clock.latchAll instants).time.total = 0 ∧ (clock.latchAll instants).time.carry = true ∧
      (clock.latchAll instants).fraction = 100000000 ∧ time.total + 1 = resumed.time.total ∧
      resumed.time.carry = false ∧ resumed.fraction = 0 := by
  intro time clock halted instants resumed
  have forward : ((7 : UInt64) :: instants).Pairwise (· ≤ ·) := by decide
  have sound : clock.Sound := ⟨by decide, by decide⟩
  have sound' : halted.Sound := ⟨by decide, by decide⟩
  have runs := (keeps_time sound (by decide) (by decide) (by decide) forward).runs rfl
  have resumes := (keeps_time sound' (by decide) (by decide) (by decide) forward).resumes rfl 1
    (by decide) 9000000007 [9400000007] (by decide)
  refine ⟨runs.total.trans (by decide), runs.carry.mpr (.inr (by decide)),
    runs.fraction.trans (by decide), (resumes.total.trans (by decide)).symm, ?_,
    resumes.fraction.trans (by decide)⟩
  exact Bool.eq_false_iff.mpr fun set => absurd (resumes.carry.mp set) (by decide)

end Clock
end DotMatrix
