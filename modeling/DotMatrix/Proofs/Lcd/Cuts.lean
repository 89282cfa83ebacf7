import DotMatrix.Proofs.Lcd.Representation

/-! # Cutting time into calls

A call is cut into slices from its own start, so that calls of other sizes look at the LCD at other
moments.  What comes out is the same: every mode is longer than a slice, so the moment at which a mode
ends can only be noticed a little later, and the clock makes up for that.

One thing does depend on the cut.  The end of a frame counts as a search in the slice that enters it, and
only there; how long the status line stays up for this is as long as the next slice takes to come.
`calm` is the LCD without it.  No request depends on it, since nothing rises meanwhile
(`Settled.slice_calm`), and so calls of any size do what single T-cycles do (`Settled.ticks_drive`).
-/
namespace DotMatrix
namespace Lcd

/-! ## The end of a mode -/

/-- Every mode is longer than a slice. -/
theorem four_lt_length (mode : Mode) : 4 < mode.length := by
  cases mode <;> decide

theorem turn_of_early {lcd : Lcd} (early : lcd.clock < lcd.mode.length) : lcd.turn = (lcd, false) :=
  if_pos early

/-- When the time of a mode is over, the clock of the next mode has what is too much. -/
theorem clock_turn {lcd : Lcd} (due : lcd.mode.length ≤ lcd.clock) :
    lcd.turn.1.clock = lcd.clock - lcd.mode.length := by
  cases lcd.turning with
  | stays early => exact absurd due (Nat.not_le.mpr early)
  | entry mode _ _ turned | next mode _ _ turned | top mode _ _ turned | between mode _ _ turned
    | searched mode _ turned | drawn mode _ turned =>
    rw [turned, mode]
    rfl

/-- Time that passes after the end of a mode might as well pass after the turn. -/
theorem turn_later {lcd : Lcd} (due : lcd.mode.length ≤ lcd.clock) (more : Nat) :
    (lcd.later more).turn = (lcd.turn.1.later more, lcd.turn.2) := by
  have late : ¬ lcd.clock < lcd.mode.length := Nat.not_lt.mpr due
  have still : ¬ lcd.clock + more < lcd.mode.length := by omega
  have rest : lcd.clock + more - lcd.mode.length = lcd.clock - lcd.mode.length + more :=
    Nat.sub_add_comm due
  unfold turn
  dsimp only
  rw [if_neg late, if_neg still, rest]
  cases lcd.mode with
  | hblank => by_cases last : lcd.line + 1 = 144 <;> simp only [last, if_true, if_false]
  | vblank => by_cases last : 153 < lcd.line + 1 <;> simp only [last, if_true, if_false]
  | search | transfer => rfl

theorem refresh_later (lcd : Lcd) (entered : Bool) (more : Nat) :
    (lcd.later more).refresh entered =
      ((lcd.refresh entered).1.later more, (lcd.refresh entered).2) := by
  unfold refresh compareLine
  dsimp only
  split <;> rfl

/-- A slice that ends a mode comes early in the next one, also at an entry. -/
theorem turn_in_time {lcd : Lcd} (early : lcd.clock < lcd.mode.length) {cycles : Nat}
    (short : cycles ≤ 4) : (lcd.later cycles).turn.1.clock < (lcd.later cycles).turn.1.mode.length ∧
      ((lcd.later cycles).turn.2 = true →
        (lcd.later cycles).turn.1.mode = .vblank ∧ (lcd.later cycles).turn.1.clock < 4) := by
  by_cases still : (lcd.later cycles).clock < (lcd.later cycles).mode.length
  · rw [turn_of_early still]
    exact ⟨still, nofun⟩
  · have rest : (lcd.later cycles).turn.1.clock = lcd.clock + cycles - lcd.mode.length :=
      clock_turn (Nat.not_lt.mp still)
    have long := four_lt_length (lcd.later cycles).turn.1.mode
    refine ⟨by omega, fun entered => ⟨?_, by omega⟩⟩
    exact ((entered_turn_iff (lcd.later cycles)).1.mp entered).2

/-! ## Rest between slices -/

/-- The status line as it is once the entry of the time between frames is over. -/
def calm (lcd : Lcd) : Lcd := { lcd with statLine := lcd.statLevel false }

/-- **How a slice leaves an LCD that is on**: no mode is overdue, the line is compared, and the status
line has the level it should have, unless the time between frames was entered just now. -/
structure Settled (lcd : Lcd) : Prop where
  on : lcd.control.enabled = true
  early : lcd.clock < lcd.mode.length
  compared : lcd.coincidence = (lcd.line == lcd.lineCompare.toNat)
  level : lcd.statLine = lcd.statLevel false ∨
    lcd.mode = .vblank ∧ lcd.clock < 4 ∧ lcd.statLine = true

/-- Counting as a search can only raise the level. -/
theorem statLevel_entered (lcd : Lcd) :
    lcd.statLevel true = true ∨ lcd.statLevel true = lcd.statLevel false := by
  unfold statLevel
  cases lcd.coincidence && lcd.sources.coincidence || lcd.sources.inMode lcd.mode with
  | true => exact .inl rfl
  | false => cases lcd.sources.search <;> simp

/-- **Every slice leaves the LCD settled.** -/
theorem settled_slice {lcd : Lcd} (on : lcd.control.enabled = true)
    (early : lcd.clock < lcd.mode.length) {cycles : Nat} (short : cycles ≤ 4) :
    Settled (lcd.slice cycles).1 := by
  obtain ⟨inTime, entering⟩ := turn_in_time early short
  have still : (lcd.later cycles).turn.1.control.enabled = true := by
    rw [control_turn]
    exact on
  rw [slice_of_on on]
  generalize (lcd.later cycles).turn = turned at inTime entering still
  have control := (alike_compareLine turned.1).control
  refine ⟨(congrArg Control.enabled control).trans still, ?_, coincidence_refresh still _, ?_⟩
  · rw [clock_refresh, mode_refresh]
    exact inTime
  · rw [mode_refresh, clock_refresh]
    cases entered : turned.2 with
    | false => exact .inl rfl
    | true =>
      obtain ⟨mode, soon⟩ := entering entered
      rcases turned.1.compareLine.statLevel_entered with up | same
      · exact .inr ⟨mode, soon, up⟩
      · exact .inl same

namespace Settled
variable {lcd : Lcd}

theorem calm (h : Settled lcd) : Settled lcd.calm := ⟨h.on, h.early, h.compared, .inl rfl⟩

/-- The status line is down again four T-cycles after an entry. -/
theorem calm_eq (h : Settled lcd) (elsewhere : ¬ (lcd.mode = .vblank ∧ lcd.clock < 4)) :
    lcd.calm = lcd := by
  rcases h.level with level | ⟨mode, soon, -⟩
  · rw [Lcd.calm, ← level]
  · exact absurd ⟨mode, soon⟩ elsewhere

/-- **A slice in which no mode ends** lets the clock go on and takes the status line down after an
entry; nothing is asked for. -/
theorem slice_of_early (h : Settled lcd) {cycles : Nat}
    (early : lcd.clock + cycles < lcd.mode.length) :
    lcd.slice cycles = (lcd.calm.later cycles, []) := by
  have compared : (lcd.later cycles).compareLine = lcd.later cycles := by
    rw [compareLine, if_pos (show (lcd.later cycles).control.enabled = true from h.on), ← h.compared]
  have quiet : (lcd.statLevel false && !lcd.statLine) = false := by
    rcases h.level with level | ⟨-, -, up⟩
    · rw [level, Bool.and_not_self]
    · rw [up, Bool.not_true, Bool.and_false]
  rw [slice_of_on h.on, turn_of_early early, refresh, compared]
  show (lcd.calm.later cycles,
    [] ++ if (lcd.statLevel false && !lcd.statLine) then [Interrupt.lcdStat] else []) = _
  rw [quiet]
  rfl

/-- **No request depends on how long the status line stays up after an entry.** -/
theorem slice_calm (h : Settled lcd) {cycles : Nat} (short : cycles ≤ 4) :
    lcd.calm.slice cycles = lcd.slice cycles := by
  by_cases entered : lcd.mode = .vblank ∧ lcd.clock < 4
  · obtain ⟨mode, soon⟩ := entered
    have early : lcd.clock + cycles < lcd.mode.length := by
      rw [mode]
      show _ < 456
      omega
    rw [h.slice_of_early early, h.calm.slice_of_early early]
    rfl
  · rw [h.calm_eq entered]

/-- **A slice may be cut in two.** -/
theorem slice_add (h : Settled lcd) {first second : Nat} (short : first + second ≤ 4) :
    (lcd.slice (first + second)).1.calm = ((lcd.slice first).1.slice second).1.calm ∧
      (lcd.slice (first + second)).2 =
        (lcd.slice first).2 ++ ((lcd.slice first).1.slice second).2 := by
  have settled := settled_slice h.on h.early (Nat.le_trans (Nat.le_add_right first second) short)
  have cut (lcd : Lcd) : lcd.later (first + second) = (lcd.later first).later second := by
    rw [later, later, later, Nat.add_assoc]
  by_cases due : lcd.mode.length ≤ lcd.clock + first
  · -- The mode ends in the first part, and the second part belongs to the next mode.
    have whole : lcd.slice (first + second) =
        ((lcd.slice first).1.later second, (lcd.slice first).2) := by
      rw [slice_of_on h.on, slice_of_on h.on, cut, turn_later due, refresh_later]
    have clock : (lcd.slice first).1.clock = lcd.clock + first - lcd.mode.length := by
      rw [slice_of_on h.on, clock_refresh]
      exact clock_turn due
    have early : (lcd.slice first).1.clock + second < (lcd.slice first).1.mode.length := by
      have long := four_lt_length (lcd.slice first).1.mode
      have before := h.early
      omega
    rw [whole, settled.slice_of_early early, List.append_nil]
    exact ⟨rfl, rfl⟩
  · -- The mode does not end in the first part.
    have before : lcd.slice first = (lcd.calm.later first, []) :=
      h.slice_of_early (Nat.not_le.mp due)
    have after : (lcd.calm.later first).slice second = lcd.slice (first + second) := by
      have on : (lcd.calm.later first).control.enabled = true := h.on
      rw [← h.slice_calm short, slice_of_on h.calm.on, cut, slice_of_on on]
    rw [before, after]
    exact ⟨rfl, rfl⟩

end Settled

/-! ## Single T-cycles -/

/-- One T-cycle, and the LCD calm after it. -/
def tick (lcd : Lcd) : Lcd × List Interrupt := ((lcd.slice 1).1.calm, (lcd.slice 1).2)

namespace Settled
variable {lcd : Lcd}

/-- A slice does what its T-cycles do. -/
theorem ticks_slice (h : Settled lcd) {cycles : Nat} (short : cycles ≤ 4) :
    Interrupt.collect tick cycles lcd.calm =
      ((lcd.slice cycles).1.calm, (lcd.slice cycles).2) := by
  induction cycles with
  | zero =>
    rw [h.slice_of_early h.early]
    rfl
  | succ cycles ih =>
    have before := settled_slice h.on h.early (Nat.le_of_succ_le short)
    obtain ⟨state, requests⟩ := h.slice_add short
    rw [Interrupt.collect_add, ih (Nat.le_of_succ_le short), Interrupt.collect_succ,
      Interrupt.collect_zero, List.append_nil, tick, before.slice_calm (by decide), state, requests]

/-- A call does what its T-cycles do. -/
theorem ticks_advance (h : Settled lcd) (cycles : Nat) : Settled (lcd.advance cycles).1 ∧
    Interrupt.collect tick cycles lcd.calm =
      ((lcd.advance cycles).1.calm, (lcd.advance cycles).2) := by
  refine lcd.advance_induct (motive := fun cycles passed => Settled passed.1 ∧
    Interrupt.collect tick cycles lcd.calm = (passed.1.calm, passed.2)) ⟨h, rfl⟩ ?_ cycles
  rintro cycles passed more short ⟨settled, ticks⟩
  refine ⟨settled_slice settled.on settled.early short, ?_⟩
  rw [Interrupt.collect_add, ticks, settled.ticks_slice short]

/-- **Calls in a row do what all their T-cycles do.** -/
theorem ticks_drive (h : Settled lcd) (calls : List Nat) :
    Settled (drive (calls.map .pass) lcd).1 ∧
      Interrupt.collect tick (elapsed (calls.map .pass)) lcd.calm =
        ((drive (calls.map .pass) lcd).1.calm, (drive (calls.map .pass) lcd).2) := by
  induction calls generalizing lcd with
  | nil => exact ⟨h, rfl⟩
  | cons cycles calls ih =>
    obtain ⟨settled, first⟩ := h.ticks_advance cycles
    obtain ⟨still, others⟩ := ih settled
    refine ⟨still, ?_⟩
    rw [List.map_cons, elapsed, Use.cycles, Interrupt.collect_add, first, others]
    rfl

end Settled

/-- A call that is not empty leaves the LCD settled. -/
theorem Reachable.settled_advance {lcd : Lcd} (reachable : Reachable lcd) {cycles : Nat}
    (pos : 0 < cycles) (on : (lcd.advance cycles).1.control.enabled = true) :
    Settled (lcd.advance cycles).1 := by
  revert pos on
  refine (lcd.advance_induct (motive := fun cycles passed => Reachable passed.1 ∧
    (0 < cycles → passed.1.control.enabled = true → Settled passed.1)) ⟨reachable, nofun⟩ ?_ cycles).2
  rintro cycles passed more short ⟨reached, -⟩
  refine ⟨reached.slice more short, fun _ on => ?_⟩
  rw [control_slice] at on
  obtain ⟨finished, elapsed, position⟩ := reached.position on
  exact settled_slice on position.early short

/-- **The LCD does not depend on how time is cut into calls.**  After a call, any two lists of calls that
take equally long lead to the same LCD and ask for the same interrupts, in the same order.  Only whether
the status line is still up may differ, and only in the first four T-cycles of the time between
frames. -/
theorem independent_of_cuts {lcd : Lcd} (reachable : Reachable lcd) {cycles : Nat} (pos : 0 < cycles)
    (on : (lcd.advance cycles).1.control.enabled = true) {first second : List Nat}
    (total : elapsed (first.map .pass) = elapsed (second.map .pass)) :
    let one := drive (first.map .pass) (lcd.advance cycles).1
    let other := drive (second.map .pass) (lcd.advance cycles).1
    other.1 = { one.1 with statLine := other.1.statLine } ∧
      (other.1 = one.1 ∨ one.1.mode = .vblank ∧ one.1.clock < 4) ∧ other.2 = one.2 := by
  intro one other
  have start := reachable.settled_advance pos on
  obtain ⟨oneSettled, oneTicks⟩ := start.ticks_drive first
  obtain ⟨otherSettled, otherTicks⟩ := start.ticks_drive second
  rw [← total, oneTicks] at otherTicks
  obtain ⟨same, requests⟩ := Prod.mk.inj otherTicks
  refine ⟨?_, ?_, requests.symm⟩
  · show { other.1.calm with statLine := other.1.statLine } = _
    rw [← same]
    rfl
  · by_cases entered : one.1.mode = .vblank ∧ one.1.clock < 4
    · exact .inr entered
    · have mode : other.1.mode = one.1.mode := (congrArg Lcd.mode same).symm
      have clock : other.1.clock = one.1.clock := (congrArg Lcd.clock same).symm
      refine .inl ?_
      rw [← oneSettled.calm_eq entered, ← otherSettled.calm_eq (by rwa [mode, clock])]
      exact same.symm

/-- The frame is finished, and the status line goes up for it, in the middle of a call or between two. -/
theorem independent_of_cuts_of_frame :
    let lcd := (((({} : Lcd).write 0xFF41 0x20).write 0xFF40 0x80).advance 3).1
    let one := drive [.pass 70224] lcd
    let other := drive [.pass 65655, .pass 6, .pass 4563] lcd
    other.1 = { one.1 with statLine := other.1.statLine } ∧
      (other.1 = one.1 ∨ one.1.mode = .vblank ∧ one.1.clock < 4) ∧ other.2 = one.2 := by
  have reachable : Reachable ((({} : Lcd).write 0xFF41 0x20).write 0xFF40 0x80) :=
    (Reachable.new.write _ _).write _ _
  exact @independent_of_cuts _ reachable 3 (by decide) (by decide) [70224] [65655, 6, 4563] rfl

end Lcd
end DotMatrix
