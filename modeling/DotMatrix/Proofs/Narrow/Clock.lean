import DotMatrix.Proofs.Cartridge.Ranges
import DotMatrix.Proofs.Narrow.Width

/-! # The clock of a cartridge in registers

The counters of the clock, with time added as it is added in registers: not second by second, but from one
full minute to the next.  A counter of seconds beyond 59 runs on to 63 first, and only then through another
minute; that the subtraction from 64 has a result needs the bound of the counter, which a program fills with
any six bits at any moment.
-/
namespace DotMatrix

/-! ## From one minute to the next -/

namespace Calendar
variable {time : Calendar}

/-- Some seconds and then some more. -/
theorem advance_add (days : time.days < 512) (first second : Nat) :
    time.advance (first + second) = (time.advance first).advance second := by
  induction first generalizing time with
  | zero => rw [Nat.zero_add]; rfl
  | succ first ih => rw [Nat.succ_add, advance_succ days, ih (days_secondTick days), advance_succ days]

/-- Seconds that end before the minute, or before the counter falls to zero, are only counted. -/
theorem advance_within (h : time.InRange) {seconds : Nat}
    (within : time.seconds + seconds < 60 ∨ 60 ≤ time.seconds ∧ time.seconds + seconds < 64) :
    time.advance seconds = { time with seconds := time.seconds + seconds } := by
  induction seconds generalizing time with
  | zero => rfl
  | succ seconds ih =>
    have counted : time.secondTick = { time with seconds := time.seconds + 1 } := by
      unfold Calendar.secondTick
      rw [if_neg (by omega), Nat.mod_eq_of_lt (by omega)]
    rw [advance_succ h.days, ih h.secondTick (by rw [counted]; dsimp only; omega), counted]
    dsimp only
    rw [Nat.add_assoc, Nat.add_comm 1]

theorem advance_one (h : time.InRange) : time.advance 1 = time.secondTick := advance_succ h.days 0

theorem InRange.cleared (h : time.InRange) : InRange { time with seconds := 0 } :=
  ⟨(by decide : 0 < 64), h.minutes, h.hours, h.days⟩

/-- A counter out of range falls to zero without a minute. -/
theorem advance_to_zero (h : time.InRange) (beyond : 60 ≤ time.seconds) :
    time.advance (64 - time.seconds) = { time with seconds := 0 } := by
  have small := h.seconds
  have last : 64 - time.seconds = 63 - time.seconds + 1 := by omega
  have highest : time.seconds + (63 - time.seconds) = 63 := by omega
  have counted : time.advance (63 - time.seconds) =
      { time with seconds := time.seconds + (63 - time.seconds) } := advance_within h (.inr (by omega))
  rw [last, advance_add h.days, advance_one (h.advance _), counted, highest]
  simp [Calendar.secondTick]

/-- A counter in range falls to zero with the minute. -/
theorem advance_to_minute (h : time.InRange) (below : time.seconds < 60) :
    time.advance (60 - time.seconds) = { time with seconds := 0 }.minuteTick := by
  have last : 60 - time.seconds = 59 - time.seconds + 1 := by omega
  have highest : time.seconds + (59 - time.seconds) = 59 := by omega
  have counted : time.advance (59 - time.seconds) =
      { time with seconds := time.seconds + (59 - time.seconds) } := advance_within h (.inl (by omega))
  rw [last, advance_add h.days, advance_one (h.advance _), counted, highest]
  rfl

/-- How many seconds go by until a minute is full.  A counter out of range has another minute to go
through. -/
def untilMinute (time : Calendar) : Nat :=
  if time.seconds ≤ 59 then 60 - time.seconds else 64 - time.seconds + 60

theorem advance_untilMinute (h : time.InRange) :
    time.advance time.untilMinute = { time with seconds := 0 }.minuteTick := by
  unfold untilMinute
  split
  · exact advance_to_minute h (by omega)
  · rw [advance_add h.days, advance_to_zero h (by omega)]
    exact advance_to_minute h.cleared (by decide : 0 < 60)

/-- Short of a full minute the seconds count modulo 64. -/
theorem advance_of_lt (h : time.InRange) {seconds : Nat} (short : seconds < time.untilMinute) :
    time.advance seconds = { time with seconds := (time.seconds + seconds) % 64 } := by
  have small := h.seconds
  unfold untilMinute at short
  by_cases within : time.seconds + seconds < 60 ∨ 60 ≤ time.seconds ∧ time.seconds + seconds < 64
  · rw [advance_within h within, Nat.mod_eq_of_lt (by omega)]
  · have beyond : 60 ≤ time.seconds ∧ time.seconds + seconds - 64 < 60 := by
      split at short <;> omega
    have parts : seconds = 64 - time.seconds + (time.seconds + seconds - 64) := by omega
    have rest : (time.seconds + seconds) % 64 = 0 + (time.seconds + seconds - 64) := by omega
    rw [rest, ← advance_within h.cleared (.inl (by dsimp only; omega)), ← advance_to_zero h beyond.1,
      ← advance_add h.days, ← parts]

end Calendar

namespace Narrow

/-- One day more. -/
def dayTick (time : Calendar) : Option Calendar :=
  if 511 ≤ time.days then some { time with days := 0, carry := true }
  else do
    let days ← fit .word (time.days + 1)
    return { time with days := days }

/-- One hour more. -/
def hourTick (time : Calendar) : Option Calendar :=
  if time.hours = 23 then dayTick { time with hours := 0 }
  else do
    let hours ← fit .byte (time.hours + 1)
    return { time with hours := hours % 32 }

/-- One minute more. -/
def minuteTick (time : Calendar) : Option Calendar :=
  if time.minutes = 59 then hourTick { time with minutes := 0 }
  else do
    let minutes ← fit .byte (time.minutes + 1)
    return { time with minutes := minutes % 64 }

/-- How many seconds go by until a minute is full. -/
def untilMinute (time : Calendar) : Option Nat :=
  if time.seconds ≤ 59 then minus 60 time.seconds
  else do
    let left ← minus 64 time.seconds
    fit .quad (left + 60)

theorem pos_of_untilMinute {time : Calendar} {wait : Nat} (h : untilMinute time = some wait) : 0 < wait := by
  unfold untilMinute at h
  split at h
  · have sum := add_eq_of_minus h
    omega
  · obtain ⟨left, -, fits⟩ := Option.bind_eq_some_iff.mp h
    unfold fit at fits
    split at fits
    · cases fits
      omega
    · cases fits

/-- Any number of seconds more, minute by minute. -/
def advanceCalendar (seconds : Nat) (time : Calendar) : Option Calendar :=
  if seconds = 0 then some time
  else
    match _full : untilMinute time with
    | none => none
    | some wait =>
      if seconds < wait then do
        let sum ← fit .quad (time.seconds + seconds)
        return { time with seconds := sum % 64 }
      else
        match _later : minus seconds wait, minuteTick { time with seconds := 0 } with
        | some rest, some next => advanceCalendar rest next
        | _, _ => none
termination_by seconds
decreasing_by
  have pos := pos_of_untilMinute _full
  have sum := add_eq_of_minus _later
  omega

/-- Count the time up to an instant.  An instant before the last counts as no time. -/
def sync (clock : Clock) (now : UInt64) : Option Clock :=
  if clock.time.halted then some { clock with synced := now }
  else do
    let elapsed ← (if clock.synced ≤ now then minus now.toNat clock.synced.toNat else some 0)
    let total ← fit .wide (clock.fraction + elapsed)
    let fraction ← fit .double (total % Clock.nanosPerSecond)
    let time ← advanceCalendar (min (total / Clock.nanosPerSecond) (Width.quad.limit - 1)) clock.time
    return { clock with synced := now, fraction := fraction, time := time }

/-- Copy the counters, brought up to an instant, to where they are read. -/
def latch (clock : Clock) (now : UInt64) : Option Clock := do
  let clock ← sync clock now
  return { clock with latched := clock.time }

/-- Write a register of the counters, brought up to an instant. -/
def writeClock (clock : Clock) (register : ClockRegister) (value : UInt8) (now : UInt64) :
    Option Clock := do
  let clock ← sync clock now
  return { clock with
    time := clock.time.write register value
    fraction := if register = .seconds then 0 else clock.fraction }

section
variable {time : Calendar}

theorem dayTick_eq (time : Calendar) : dayTick time = some time.dayTick := by
  unfold dayTick Calendar.dayTick
  by_cases more : time.days < 511
  · rw [if_neg (by omega), if_pos more]
    exact bind_of_eq (fit_word (by omega)) rfl
  · rw [if_pos (by omega), if_neg more]

theorem hourTick_eq (h : time.InRange) : hourTick time = some time.hourTick := by
  have hours := h.hours
  unfold hourTick Calendar.hourTick
  split
  · exact dayTick_eq _
  · exact bind_of_eq (fit_byte (by omega)) rfl

theorem minuteTick_eq (h : time.InRange) : minuteTick time = some time.minuteTick := by
  have minutes := h.minutes
  unfold minuteTick Calendar.minuteTick
  split
  · exact hourTick_eq ⟨h.seconds, (by decide : 0 < 64), h.hours, h.days⟩
  · exact bind_of_eq (fit_byte (by omega)) rfl

theorem untilMinute_eq (h : time.InRange) : untilMinute time = some time.untilMinute := by
  have seconds := h.seconds
  unfold untilMinute Calendar.untilMinute
  split
  · exact minus_of_le (by omega)
  · exact bind_of_eq (minus_of_le (by omega)) (fit_quad (by omega))

/-- The bound is needed: no number of seconds leads from 65 to the next minute. -/
example : untilMinute { seconds := 65 } = none := by decide

/-- Short of a full minute there are few seconds. -/
theorem lt_limit_of_short (h : time.InRange) {seconds : Nat} (short : seconds < time.untilMinute) :
    time.seconds + seconds < Width.quad.limit := by
  have small := h.seconds
  show _ < 18446744073709551616
  unfold Calendar.untilMinute at short
  split at short <;> omega

/-- **Adding minute by minute is adding.** -/
theorem advanceCalendar_eq (h : time.InRange) (seconds : Nat) :
    advanceCalendar seconds time = some (time.advance seconds) := by
  -- Each pass of the loop is a full minute, but for the last.
  fun_induction advanceCalendar seconds time with
  | case1 => rfl
  | case2 seconds time more unknown =>
    rw [untilMinute_eq h] at unknown
    cases unknown
  | case3 seconds time more wait known short =>
    rw [untilMinute_eq h] at known
    cases known
    rw [Calendar.advance_of_lt h short]
    exact bind_of_eq (fit_quad (lt_limit_of_short h short)) rfl
  | case4 seconds time more wait known long rest next later full ih =>
    rw [untilMinute_eq h] at known
    cases known
    rw [minuteTick_eq h.cleared] at full
    cases full
    have parts := add_eq_of_minus later
    rw [ih h.cleared.minuteTick, ← Calendar.advance_untilMinute h, ← Calendar.advance_add h.days,
      Nat.add_comm, parts]
  | case5 seconds time more wait known long fails =>
    exact (fails _ _ (minus_of_le (Nat.le_of_not_lt long)) (minuteTick_eq h.cleared)).elim

theorem sync_eq {clock : Clock} (h : clock.InRange) (now : UInt64) :
    sync clock now = some (clock.sync now) := by
  have small := now.toNat_lt
  have fraction := h.fraction
  have elapsed : (if clock.synced ≤ now then minus now.toNat clock.synced.toNat else some 0) =
      some (now.toNat - clock.synced.toNat) := by
    split
    · rename_i forth
      exact minus_of_le (UInt64.le_iff_toNat_le.mp forth)
    · rename_i back
      rw [UInt64.le_iff_toNat_le] at back
      rw [Nat.sub_eq_zero_of_le (by omega)]
  unfold sync Clock.sync
  split
  · rfl
  · unfold Clock.nanosPerSecond at *
    refine bind_of_eq elapsed (bind_of_eq (fit_wide (by omega)) ?_)
    refine bind_of_eq (fit_double (by omega)) ?_
    -- There are fewer seconds in an elapsed time than nanoseconds, and those fit.
    have few : min ((clock.fraction + (now.toNat - clock.synced.toNat)) / 1000000000)
        (Width.quad.limit - 1) = (clock.fraction + (now.toNat - clock.synced.toNat)) / 1000000000 := by
      show min _ (18446744073709551616 - 1) = _
      omega
    rw [few]
    exact bind_of_eq (advanceCalendar_eq h.time _) rfl

theorem latch_eq {clock : Clock} (h : clock.InRange) (now : UInt64) :
    latch clock now = some (clock.latch now) :=
  bind_of_eq (sync_eq h now) rfl

theorem writeClock_eq {clock : Clock} (h : clock.InRange) (register : ClockRegister) (value : UInt8)
    (now : UInt64) : writeClock clock register value now = some (clock.write register value now) :=
  bind_of_eq (sync_eq h now) rfl

end
end Narrow
end DotMatrix
