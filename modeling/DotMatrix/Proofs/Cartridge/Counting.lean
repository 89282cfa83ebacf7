import DotMatrix.Proofs.Narrow.Clock

/-! # Counting seconds

A counter of the clock starts again from two values: from the last one in range, together with a step of
the next counter, and from the highest that its bits can hold, alone (`Counter.Up`).  Seconds that pass are
so many steps of the counter of the seconds (`Passes`).  Where they lead is where both ways to add time
lead, the one that computes and the one that goes from each full minute to the next, and this from any
values that the bits can hold.
-/
namespace DotMatrix
namespace Calendar

/-! ## Steps -/

/-- A counter with its last value in range and the highest that its bits can hold. -/
structure Counter where
  value : Calendar → Nat
  set : Nat → Calendar → Calendar
  last : Nat
  highest : Nat

namespace Counter

def seconds : Counter := ⟨Calendar.seconds, fun value time => { time with seconds := value }, 59, 63⟩

def minutes : Counter := ⟨Calendar.minutes, fun value time => { time with minutes := value }, 59, 63⟩

def hours : Counter := ⟨Calendar.hours, fun value time => { time with hours := value }, 23, 31⟩

/-- A counter goes up by one, where `next` is a step of the next counter. -/
inductive Up (counter : Counter) (next : Calendar → Calendar → Prop) : Calendar → Calendar → Prop where
  | full {time later : Calendar} (full : counter.value time = counter.last)
    (carried : next (counter.set 0 time) later) : Up counter next time later
  | overflow {time : Calendar} (overflow : counter.value time = counter.highest) :
    Up counter next time (counter.set 0 time)
  | count {time : Calendar} (other : counter.value time ≠ counter.last)
    (below : counter.value time ≠ counter.highest) :
    Up counter next time (counter.set (counter.value time + 1) time)

end Counter

/-- The days go up by one; after the last they start again, and the carry is set. -/
inductive NextDay : Calendar → Calendar → Prop where
  | full {time : Calendar} (full : time.days = 511) : NextDay time { time with days := 0, carry := true }
  | count {time : Calendar} (other : time.days ≠ 511) : NextDay time { time with days := time.days + 1 }

def NextHour : Calendar → Calendar → Prop := Counter.hours.Up NextDay

def NextMinute : Calendar → Calendar → Prop := Counter.minutes.Up NextHour

def NextSecond : Calendar → Calendar → Prop := Counter.seconds.Up NextMinute

/-- So many seconds pass, one after the other. -/
inductive Passes : Nat → Calendar → Calendar → Prop where
  | still (time : Calendar) : Passes 0 time time
  | second {seconds : Nat} {time next later : Calendar} (first : NextSecond time next)
    (rest : Passes seconds next later) : Passes (seconds + 1) time later

/-! ## Where a step leads -/

section
variable {time later : Calendar}

/-- **One step of a counter**, given where a step of the next one leads. -/
theorem Counter.up_iff {counter : Counter} {next : Calendar → Calendar → Prop} {tick : Calendar → Calendar}
    (room : counter.last < counter.highest) (small : counter.value time < counter.highest + 1)
    (carries : next (counter.set 0 time) later ↔ later = tick (counter.set 0 time)) :
    counter.Up next time later ↔ later =
      if counter.value time = counter.last then tick (counter.set 0 time)
      else counter.set ((counter.value time + 1) % (counter.highest + 1)) time := by
  constructor
  · intro step
    cases step with
    | full full carried => rw [if_pos full, carries.mp carried]
    | overflow overflow => rw [if_neg (by omega), overflow, Nat.mod_self]
    | count other below => rw [if_neg other, Nat.mod_eq_of_lt (by omega)]
  · intro same
    split at same
    · rename_i full
      exact .full full (carries.mpr same)
    · rename_i other
      rw [same]
      by_cases overflow : counter.value time = counter.highest
      · rw [overflow, Nat.mod_self]
        exact .overflow overflow
      · rw [Nat.mod_eq_of_lt (by omega)]
        exact .count other overflow

theorem nextDay_iff (h : time.InRange) : NextDay time later ↔ later = time.dayTick := by
  have days := h.days
  unfold dayTick
  constructor
  · intro step
    cases step with
    | full full => rw [if_neg (by omega)]
    | count other => rw [if_pos (by omega)]
  · intro same
    split at same
    · rw [same]
      exact .count (by omega)
    · rw [same]
      exact .full (by omega)

theorem nextHour_iff (h : time.InRange) : NextHour time later ↔ later = time.hourTick :=
  Counter.up_iff (by decide) h.hours (nextDay_iff ⟨h.seconds, h.minutes, (by decide : 0 < 32), h.days⟩)

theorem nextMinute_iff (h : time.InRange) : NextMinute time later ↔ later = time.minuteTick :=
  Counter.up_iff (by decide) h.minutes (nextHour_iff ⟨h.seconds, (by decide : 0 < 64), h.hours, h.days⟩)

theorem nextSecond_iff (h : time.InRange) : NextSecond time later ↔ later = time.secondTick :=
  Counter.up_iff (by decide) h.seconds (nextMinute_iff h.cleared)

/-- **Where some seconds lead.** -/
theorem passes_iff (h : time.InRange) (seconds : Nat) :
    Passes seconds time later ↔ later = time.advance seconds := by
  induction seconds generalizing time with
  | zero =>
    constructor
    · intro passes
      cases passes
      rfl
    · intro same
      rw [same]
      exact .still time
  | succ seconds ih =>
    rw [advance_succ h.days, ← ih h.secondTick]
    constructor
    · intro passes
      cases passes with
      | second first rest =>
        rw [(nextSecond_iff h).mp first] at rest
        exact rest
    · exact .second ((nextSecond_iff h).mpr rfl)

/-! ## What a step leaves alone -/

/-- The halt switch is as it was, and a carry that was set is still set. -/
structure Kept (time later : Calendar) : Prop where
  halted : later.halted = time.halted
  carry : time.carry = true → later.carry = true

theorem Kept.trans {next : Calendar} (h : Kept time next) (h' : Kept next later) : Kept time later :=
  ⟨h'.halted.trans h.halted, fun set => h'.carry (h.carry set)⟩

theorem Counter.Up.kept {counter : Counter} {next : Calendar → Calendar → Prop}
    (stores : ∀ value time, Kept time (counter.set value time))
    (carries : ∀ time later, next time later → Kept time later) (step : counter.Up next time later) :
    Kept time later := by
  cases step with
  | full full carried => exact (stores 0 time).trans (carries _ _ carried)
  | overflow => exact stores 0 time
  | count => exact stores _ time

theorem NextDay.kept (step : NextDay time later) : Kept time later := by
  cases step with
  | full => exact ⟨rfl, fun _ => rfl⟩
  | count => exact ⟨rfl, id⟩

theorem NextSecond.kept (step : NextSecond time later) : Kept time later :=
  Counter.Up.kept (fun _ _ => ⟨rfl, id⟩) (fun _ _ minute =>
    Counter.Up.kept (fun _ _ => ⟨rfl, id⟩) (fun _ _ hour =>
      Counter.Up.kept (fun _ _ => ⟨rfl, id⟩) (fun _ _ day => day.kept) hour) minute) step

theorem Passes.kept {seconds : Nat} (passes : Passes seconds time later) : Kept time later := by
  induction passes with
  | still => exact ⟨rfl, id⟩
  | second first _ ih => exact first.kept.trans ih

end

/-! ## All there is to say -/

/-- **What time does to the counters.** -/
structure Counts (time : Calendar) : Prop where
  /-- Adding some seconds leads to where their steps lead, and they lead nowhere else. -/
  passes : ∀ seconds later, Passes seconds time later ↔ later = time.advance seconds
  /-- Going from each full minute to the next leads there too, and comes to an end. -/
  byMinutes : ∀ seconds, Narrow.advanceCalendar seconds time = some (time.advance seconds)
  /-- Some seconds and then some more are as many as both. -/
  adds : ∀ first second, time.advance (first + second) = (time.advance first).advance second
  /-- The counters keep to their bits. -/
  inRange : ∀ seconds, (time.advance seconds).InRange
  /-- No time clears the carry, or moves the halt switch. -/
  kept : ∀ seconds, Kept time (time.advance seconds)

/-- **Counters with any values that their bits can hold**, in range or not, count like this. -/
theorem counts {time : Calendar} (h : time.InRange) : time.Counts where
  passes seconds _ := passes_iff h seconds
  byMinutes := Narrow.advanceCalendar_eq h
  adds := advance_add h.days
  inRange := h.advance
  kept seconds := ((passes_iff h seconds).mpr rfl).kept

/-- From seconds beyond their range in the last minute of all: the counter falls to zero after two, and
sixty more complete the days. -/
theorem counts_beyond_range :
    let time : Calendar := { seconds := 62, minutes := 59, hours := 23, days := 511, halted := true }
    time.Counts ∧ Narrow.advanceCalendar 61 time = some { time with seconds := 59 } ∧
      Passes 62 time { halted := true, carry := true } := by
  intro time
  have all : time.Counts := counts ⟨by decide, by decide, by decide, by decide⟩
  exact ⟨all, (all.byMinutes 61).trans (by decide), (all.passes 62 _).mpr (by decide)⟩

end Calendar
end DotMatrix
