import DotMatrix.Proofs.Interrupt.Register
import DotMatrix.Proofs.Lcd.History

/-! # The status line

Several events of the LCD share one interrupt, and a program chooses which of them count.  They hold up
one line, and only a rise of the line asks for the interrupt.  What the level of the line is after a
slice is said in terms of the registers (`Event.level`); what it was before, by the history
(`lastLevel`): the level after the last slice since the LCD was switched on.

The LCD remembers no more than one bit of this.  That the bit is the right one through stores to all
registers, through the one slice in which the end of a frame counts as a search, and through switching
off and on, is the invariant `Course.statLine_eq`.
-/
namespace DotMatrix
namespace Lcd

/-! ## Levels -/

/-- Whether a program has chosen an event, by the number of its bit in the status register. -/
def chosen (lcd : Lcd) (bit : Nat) : Bool := (lcd.read 0xFF41).toNat.testBit bit

/-- **The level of the status line after a slice.**  A chosen event holds it up: the line asked for, the
wait at the end of a line, the time between frames, the search for sprites.  In the slice that enters
line 144, being chosen is enough for the search. -/
def Event.level (event : Event) : Bool :=
  let now := event.after
  (now.chosen 6 && now.line = now.lineCompare.toNat) ||
    (now.chosen 3 && now.mode = .hblank) ||
    (now.chosen 4 && now.mode = .vblank) ||
    (now.chosen 5 && now.mode = .search) ||
    (now.chosen 5 && event.before.line ≠ 144 && now.line = 144)

/-- The level that an event leaves behind, if it is a slice of an LCD that is on. -/
def Event.level? (event : Event) : Option Bool := if event.ticks then some event.level else none

/-- The level after the last slice since the LCD was switched on; none if there was no slice since. -/
def lastLevel (past : List Event) : Option Bool :=
  (since Event.switchesOn past).findSome? Event.level?

theorem lastLevel_concat (past : List Event) (event : Event) :
    lastLevel (past ++ [event]) =
      if event.switchesOn then none else event.level?.or (lastLevel past) := by
  unfold lastLevel
  rw [since_concat]
  split
  · rfl
  · rw [List.findSome?_cons]
    cases event.level? <;> rfl

/-! ## The register and the bit -/

/-- The bits of the status register that choose events. -/
theorem chosen_eq (lcd : Lcd) :
    lcd.chosen 3 = lcd.sources.hblank ∧ lcd.chosen 4 = lcd.sources.vblank ∧
      lcd.chosen 5 = lcd.sources.search ∧ lcd.chosen 6 = lcd.sources.coincidence := by
  -- The lower three bits hold the mode and the comparison.
  have bits : ∀ hblank vblank search coincidence equal : Bool, ∀ mode : Fin 4,
      let status := Sources.toByte ⟨hblank, vblank, search, coincidence⟩ ||| 0x80 |||
        UInt8.ofNat mode ||| maskIf equal 0x04
      status.toNat.testBit 3 = hblank ∧ status.toNat.testBit 4 = vblank ∧
        status.toNat.testBit 5 = search ∧ status.toNat.testBit 6 = coincidence := by
    decide
  obtain ⟨number, shown⟩ : ∃ number : Fin 4,
      (if lcd.control.enabled then lcd.mode.number else 0) = UInt8.ofNat number := by
    split
    · cases lcd.mode
      · exact ⟨0, rfl⟩
      · exact ⟨1, rfl⟩
      · exact ⟨2, rfl⟩
      · exact ⟨3, rfl⟩
    · exact ⟨0, rfl⟩
  unfold chosen read status
  rw [shown]
  exact bits _ _ _ _ _ _

/-- The end of a frame is reported when line 144 is entered. -/
theorem entered_turn_iff_line {lcd : Lcd} (between : lcd.mode = .vblank → 144 ≤ lcd.line) :
    lcd.turn.2 = true ↔ lcd.line ≠ 144 ∧ lcd.turn.1.line = 144 := by
  cases lcd.turning with
  | stays _ turned | top _ _ _ turned | searched _ _ turned | drawn _ _ turned =>
    rw [turned]
    simp [search, draw]
  | entry _ _ last turned =>
    rw [turned]
    simp [last]
  | next _ _ more turned =>
    rw [turned]
    simp [more]
  | between was _ _ turned =>
    have late := between was
    rw [turned]
    simp
    omega

theorem inMode_eq (sources : Sources) (mode : Mode) :
    sources.inMode mode = ((sources.hblank && mode = .hblank) ||
      (sources.vblank && mode = .vblank) || (sources.search && mode = .search)) := by
  cases mode <;> simp [Sources.inMode]

/-- **The bit of the LCD is the level of the line.** -/
theorem Event.statLine_eq {event : Event} (short : event.use.Short) (ticks : event.ticks = true)
    (reachable : Reachable event.before) : event.after.statLine = event.level := by
  obtain ⟨on, cycles, -, -, after, -⟩ := timed short ticks
  obtain ⟨finished, elapsed, position⟩ := reachable.position on
  -- The slice looks at the line after the mode has turned.
  obtain ⟨turned, turn⟩ : ∃ turned, turned = (event.before.later cycles).turn := ⟨_, rfl⟩
  have still : turned.1.control.enabled = true := by
    rw [turn, control_turn]
    exact on
  rw [slice_of_on on, ← turn] at after
  have line : event.after.line = turned.1.line := by
    rw [after]
    exact (alike_compareLine turned.1).line
  have entered : turned.2 = (event.before.line ≠ 144 && event.after.line = 144) := by
    have crossing := @entered_turn_iff_line (event.before.later cycles) position.between.mp
    rw [← turn] at crossing
    rw [Bool.eq_iff_iff, line, crossing]
    simp
  have level : event.after.statLine = event.after.statLevel turned.2 := by
    rw [after]
    rfl
  have equal : event.after.coincidence =
      decide (event.after.line = event.after.lineCompare.toNat) := by
    rw [after]
    exact coincidence_refresh still turned.2
  obtain ⟨hblank, vblank, search, coincidence⟩ := event.after.chosen_eq
  unfold Event.level
  dsimp only
  rw [level, statLevel, inMode_eq, entered, equal, hblank, vblank, search, coincidence,
    Bool.and_comm (decide _) event.after.sources.coincidence,
    Bool.and_comm (_ && _) event.after.sources.search]
  simp only [Bool.or_assoc, Bool.and_assoc]

/-- A slice asks for the interrupt of the line once if the line rises in it, and else not at all. -/
theorem Event.count_requests {event : Event} (short : event.use.Short) (ticks : event.ticks = true) :
    event.requests.count .lcdStat = (event.after.statLine && !event.before.statLine).toNat := by
  obtain ⟨on, cycles, -, -, after, requests⟩ := timed short ticks
  obtain ⟨turned, turn⟩ : ∃ turned, turned = (event.before.later cycles).turn := ⟨_, rfl⟩
  have before : turned.1.compareLine.statLine = event.before.statLine := by
    rw [turn]
    exact (alike_compareLine _).statLine.trans (entered_turn_iff (event.before.later cycles)).2
  rw [slice_of_on on, ← turn] at after requests
  have asked : event.requests = (if turned.2 then [.vblank] else []) ++
      (if event.after.statLine && !event.before.statLine then [.lcdStat] else []) := by
    rw [requests, after, ← before]
    rfl
  rw [asked]
  cases turned.2 <;> cases event.after.statLine <;> cases event.before.statLine <;> rfl

/-! ## Along a run -/

/-- **What the LCD remembers**: while it is on, the level after the last slice, and nothing from before
it was switched on. -/
theorem Course.statLine_eq {start lcd : Lcd} {past : List Event} (course : Course start past lcd)
    (reachable : Reachable start) (low : start.statLine = false) :
    lcd.statLine = (lcd.control.enabled && (lastLevel past).getD false) := by
  induction course with
  | nil =>
    rw [low, show lastLevel [] = none from rfl, Option.getD_none, Bool.and_false]
  | @concat past lcd use short course ih =>
    obtain ⟨event, is⟩ : ∃ event : Event, event = ⟨lcd, use⟩ := ⟨_, rfl⟩
    have before : event.before = lcd := by rw [is]
    have after : event.after = (use.perform lcd).1 := by rw [is]; rfl
    rw [← is, ← after, lastLevel_concat]
    replace short : event.use.Short := by rw [is]; exact short
    rw [← before] at ih
    by_cases ticks : event.ticks = true
    · have reached : Reachable event.before := before ▸ course.reachable reachable
      obtain ⟨on, cycles, -, -, sliced, -⟩ := Event.timed short ticks
      have still : event.after.control.enabled = true := by
        rw [sliced, control_slice]
        exact on
      have level : event.level? = some event.level := if_pos ticks
      have kept : event.switchesOn = false := by simp [Event.switchesOn, on]
      rw [Event.statLine_eq short ticks reached, still, kept, level]
      rfl
    · have none : event.level? = none := if_neg ticks
      rw [none, Option.none_or]
      cases (Event.untimed short (Bool.eq_false_iff.mpr ticks)).1 with
      | still enabled _ _ _ _ statLine =>
        have kept : event.switchesOn = false := by simp [Event.switchesOn, enabled]
        rw [statLine, ih, enabled, kept]
        rfl
      | off _ isOff _ _ statLine => rw [statLine, isOff, Bool.false_and]
      | on wasOff isOn _ _ _ _ statLine =>
        -- While the LCD was off the line was low.
        have switched : event.switchesOn = true := by simp [Event.switchesOn, wasOff, isOn]
        rw [statLine, ih, wasOff, switched, Bool.false_and]
        simp

/-- **Only a rise of the status line asks for its interrupt.** -/
structure AsksOnRise (history : List Event) : Prop where
  /-- A slice of an LCD that is on asks, and asks once, exactly if the line is high after it and there
  was no slice since the LCD was switched on, or the line was low after the one before. -/
  rise : ∀ past event later, history = past ++ event :: later → event.ticks = true →
    event.requests.count .lcdStat =
      if event.level = true ∧ (lastLevel past = none ∨ lastLevel past = some false) then 1 else 0
  /-- Nothing else asks. -/
  silent : ∀ event ∈ history, event.ticks = false → event.requests = []
  /-- While the line stays high, the request register keeps what it holds of this source, be it that
  the request was cleared or that more of the chosen events hold. -/
  held : ∀ past event later, history = past ++ event :: later → lastLevel past = some true →
    ∀ ints : Interrupts, (ints.requestAll event.requests).Asked .lcdStat ↔ ints.Asked .lcdStat

/-- **The status line of every run asks by its rises only**, whatever is stored meanwhile and in whatever
pieces time passes; and what the run asks for is what its slices ask for. -/
theorem asks_on_rise {start : Lcd} (reachable : Reachable start) (low : start.statLine = false)
    (uses : List Use) :
    AsksOnRise (history uses start) ∧
      (drive uses start).2 = (history uses start).flatMap Event.requests := by
  have course := Course.history uses start
  have count : ∀ past event later, history uses start = past ++ event :: later →
      event.ticks = true → event.requests.count .lcdStat =
        if event.level = true ∧ (lastLevel past = none ∨ lastLevel past = some false) then 1
        else 0 := by
    intro past event later whole ticks
    rw [whole] at course
    obtain ⟨earlier, short⟩ := course.before
    obtain ⟨on, -⟩ := Event.timed short ticks
    rw [Event.count_requests short ticks, Event.statLine_eq short ticks (earlier.reachable reachable),
      earlier.statLine_eq reachable low, on]
    rcases lastLevel past with _ | _ | _ <;> cases event.level <;> rfl
  have silent : ∀ event ∈ history uses start, event.ticks = false → event.requests = [] := by
    intro event member untimed
    obtain ⟨past, later, whole⟩ := List.append_of_mem member
    rw [whole] at course
    exact (Event.untimed course.before.2 untimed).2
  refine ⟨⟨count, silent, ?_⟩, (requests_history uses start).symm⟩
  intro past event later whole high ints
  have none : Interrupt.lcdStat ∉ event.requests := by
    by_cases ticks : event.ticks = true
    · have asked := count past event later whole ticks
      rw [high, if_neg (by simp)] at asked
      exact List.count_eq_zero.mp asked
    · have member : event ∈ history uses start := by simp [whole]
      rw [silent event member (Bool.eq_false_iff.mpr ticks)]
      exact List.not_mem_nil
  rw [Interrupts.asked_requestAll]
  exact or_iff_left none

/-- The search on the first line asks at once.  That this is also the line asked for is chosen a moment
later, while the line is high, and asks for nothing more. -/
theorem asks_on_rise_of_search :
    let events := history [.register 0xFF41 0x20, .register 0xFF40 0x80, .pass 4,
      .register 0xFF41 0x60, .pass 2] {}
    ∃ first second, events[2]? = some first ∧ events[4]? = some second ∧
      first.requests.count .lcdStat = 1 ∧ second.level = true ∧
      second.requests.count .lcdStat = 0 := by
  intro events
  obtain ⟨⟨rise, -, -⟩, -⟩ := asks_on_rise .new rfl [.register 0xFF41 0x20, .register 0xFF40 0x80,
    .pass 4, .register 0xFF41 0x60, .pass 2]
  have first := rise (events.take 2) _ (events.drop 3) rfl rfl
  have second := rise (events.take 4) _ [] rfl rfl
  rw [if_pos (by decide)] at first
  rw [if_neg (by decide)] at second
  exact ⟨_, _, rfl, rfl, first, by decide, second⟩

end Lcd
end DotMatrix
