import DotMatrix.Lcd.Slice

/-! # What changes in the LCD

Each operation on the LCD, taken apart once.  `Switching` lists what a new value of the control
register can do, `Alike` says what all other registers leave alone (`write_cases`), and `Turning` lists
what the end of a slice can do.  A slice is then a turn and a refresh (`slice_of_on`), and a call is
slices in a row (`advance_induct`).  Invariants of the LCD are proved from these lists, not from the
operations.
-/
namespace DotMatrix
namespace Lcd

/-! ## Stores to registers -/

/-- `other` differs from `lcd` in registers only, and not in the control register. -/
structure Alike (lcd other : Lcd) : Prop where
  control : other.control = lcd.control
  line : other.line = lcd.line
  mode : other.mode = lcd.mode
  clock : other.clock = lcd.clock
  windowLine : other.windowLine = lcd.windowLine
  sprites : other.sprites = lcd.sprites
  screen : other.screen = lcd.screen
  frameReady : other.frameReady = lcd.frameReady
  frames : other.frames = lcd.frames
  statLine : other.statLine = lcd.statLine
  vram : other.vram = lcd.vram
  oam : other.oam = lcd.oam

theorem Alike.refl (lcd : Lcd) : Alike lcd lcd :=
  ⟨rfl, rfl, rfl, rfl, rfl, rfl, rfl, rfl, rfl, rfl, rfl, rfl⟩

theorem Alike.trans {first second third : Lcd} (h : Alike first second) (h' : Alike second third) :
    Alike first third where
  control := h'.control.trans h.control
  line := h'.line.trans h.line
  mode := h'.mode.trans h.mode
  clock := h'.clock.trans h.clock
  windowLine := h'.windowLine.trans h.windowLine
  sprites := h'.sprites.trans h.sprites
  screen := h'.screen.trans h.screen
  frameReady := h'.frameReady.trans h.frameReady
  frames := h'.frames.trans h.frames
  statLine := h'.statLine.trans h.statLine
  vram := h'.vram.trans h.vram
  oam := h'.oam.trans h.oam

/-- Comparing the line only moves the flag of the comparison. -/
theorem alike_compareLine (lcd : Lcd) : Alike lcd lcd.compareLine := by
  unfold compareLine
  split
  · exact ⟨rfl, rfl, rfl, rfl, rfl, rfl, rfl, rfl, rfl, rfl, rfl, rfl⟩
  · exact .refl lcd

/-- A store to any register but the control register leaves most of the LCD alone. -/
theorem alike_write (lcd : Lcd) {address : UInt16} (other : address ≠ 0xFF40) (value : UInt8) :
    Alike lcd (lcd.write address value) := by
  unfold write
  split
  case h_1 => exact absurd rfl other
  case h_5 =>
    have asked : Alike lcd { lcd with lineCompare := value } :=
      ⟨rfl, rfl, rfl, rfl, rfl, rfl, rfl, rfl, rfl, rfl, rfl, rfl⟩
    exact asked.trans (alike_compareLine _)
  all_goals exact ⟨rfl, rfl, rfl, rfl, rfl, rfl, rfl, rfl, rfl, rfl, rfl, rfl⟩

/-- **A store to a register** is one to the control register, or leaves most of the LCD alone. -/
theorem write_cases (lcd : Lcd) (address : UInt16) (value : UInt8) :
    lcd.write address value = lcd.setControl value ∨ Alike lcd (lcd.write address value) := by
  by_cases control : address = 0xFF40
  · subst control
    exact .inl rfl
  · exact .inr (lcd.alike_write control value)

/-- All that a new value of the control register can do. -/
inductive Switching (lcd : Lcd) (value : UInt8) : Prop where
  | off (wasOn : lcd.control.enabled = true) (isOff : (Control.mk value).enabled = false)
    (switched : lcd.setControl value =
      { lcd with
        control := ⟨value⟩
        mode := .hblank
        clock := 0
        windowLine := 0
        line := 0
        statLine := false })
  | on (wasOff : lcd.control.enabled = false) (isOn : (Control.mk value).enabled = true)
    (switched : lcd.setControl value =
      { lcd with control := ⟨value⟩, mode := .search, clock := 0 }.compareLine)
  | same (kept : (Control.mk value).enabled = lcd.control.enabled)
    (switched : lcd.setControl value = { lcd with control := ⟨value⟩ })

theorem switching (lcd : Lcd) (value : UInt8) : Switching lcd value := by
  cases was : lcd.control.enabled <;> cases becomes : (Control.mk value).enabled
  · exact .same (becomes.trans was.symm) (by simp only [setControl, was, becomes])
  · exact .on was becomes (by simp only [setControl, was, becomes])
  · exact .off was becomes (by simp only [setControl, was, becomes])
  · exact .same (becomes.trans was.symm) (by simp only [setControl, was, becomes])

/-! ## The end of a slice -/

/-- All that the passage of time can do to an LCD that is on: it stays in its mode, or goes on. -/
inductive Turning (lcd : Lcd) : Prop where
  | stays (early : lcd.clock < lcd.mode.length) (turned : lcd.turn = (lcd, false))
  /-- The last line is over, and with it the frame. -/
  | entry (mode : lcd.mode = .hblank) (due : 204 ≤ lcd.clock) (last : lcd.line = 143)
    (turned : lcd.turn =
      ({ lcd with
          clock := lcd.clock - 204
          line := 144
          mode := .vblank
          frameReady := true
          frames := lcd.frames + 1 }, true))
  | next (mode : lcd.mode = .hblank) (due : 204 ≤ lcd.clock) (more : lcd.line ≠ 143)
    (turned : lcd.turn =
      ({ lcd with clock := lcd.clock - 204, line := lcd.line + 1, mode := .search }, false))
  /-- The time between frames is over. -/
  | top (mode : lcd.mode = .vblank) (due : 456 ≤ lcd.clock) (last : 153 ≤ lcd.line)
    (turned : lcd.turn =
      ({ lcd with clock := lcd.clock - 456, line := 0, windowLine := 0, mode := .search }, false))
  | between (mode : lcd.mode = .vblank) (due : 456 ≤ lcd.clock) (more : lcd.line < 153)
    (turned : lcd.turn = ({ lcd with clock := lcd.clock - 456, line := lcd.line + 1 }, false))
  | searched (mode : lcd.mode = .search) (due : 80 ≤ lcd.clock)
    (turned : lcd.turn = ({ lcd.search with clock := lcd.clock - 80, mode := .transfer }, false))
  | drawn (mode : lcd.mode = .transfer) (due : 172 ≤ lcd.clock)
    (turned : lcd.turn = ({ lcd.draw with clock := lcd.clock - 172, mode := .hblank }, false))

/-- **Every turn of the mode is one of these.** -/
theorem turning (lcd : Lcd) : Turning lcd := by
  by_cases early : lcd.clock < lcd.mode.length
  · exact .stays early (by rw [turn, if_pos early])
  cases mode : lcd.mode with
  | hblank =>
    rw [mode] at early
    have late : ¬ lcd.clock < 204 := early
    by_cases last : lcd.line = 143
    · refine .entry mode (Nat.le_of_not_lt late) last ?_
      simp only [turn, mode, Mode.length, if_neg late, last, if_true, Nat.reduceAdd]
    · refine .next mode (Nat.le_of_not_lt late) last ?_
      have more : ¬ lcd.line + 1 = 144 := by omega
      simp only [turn, mode, Mode.length, if_neg late, if_neg more]
  | vblank =>
    rw [mode] at early
    have late : ¬ lcd.clock < 456 := early
    by_cases last : 153 < lcd.line + 1
    · refine .top mode (Nat.le_of_not_lt late) (by omega) ?_
      simp only [turn, mode, Mode.length, if_neg late, if_pos last]
    · refine .between mode (Nat.le_of_not_lt late) (by omega) ?_
      simp only [turn, mode, Mode.length, if_neg late, if_neg last]
  | search =>
    rw [mode] at early
    have late : ¬ lcd.clock < 80 := early
    refine .searched mode (Nat.le_of_not_lt late) ?_
    simp only [turn, mode, Mode.length, if_neg late]
  | transfer =>
    rw [mode] at early
    have late : ¬ lcd.clock < 172 := early
    refine .drawn mode (Nat.le_of_not_lt late) ?_
    simp only [turn, mode, Mode.length, if_neg late]

/-! ## One slice -/

/-- The LCD when more time of its mode is over. -/
abbrev later (lcd : Lcd) (cycles : Nat) : Lcd := { lcd with clock := lcd.clock + cycles }

/-- A slice lets time pass, turns the mode, and brings comparison and status line up to date. -/
theorem slice_of_on {lcd : Lcd} (on : lcd.control.enabled = true) (cycles : Nat) :
    lcd.slice cycles = (lcd.later cycles).turn.1.refresh (lcd.later cycles).turn.2 := by
  rw [slice, if_pos on]

theorem slice_of_off {lcd : Lcd} (off : lcd.control.enabled = false) (cycles : Nat) :
    lcd.slice cycles = (lcd, []) := by
  rw [slice, off]
  rfl

/-- Bringing the status line up to date changes nothing else but the comparison. -/
theorem exists_refresh_eq (lcd : Lcd) (entered : Bool) : ∃ coincidence level,
    (lcd.refresh entered).1 = { lcd with coincidence := coincidence, statLine := level } := by
  unfold refresh compareLine
  split
  · exact ⟨_, _, rfl⟩
  · exact ⟨lcd.coincidence, _, rfl⟩

/-- A slice of an LCD that is on turns the mode, and brings comparison and status line up to date. -/
theorem exists_slice_eq {lcd : Lcd} (on : lcd.control.enabled = true) (cycles : Nat) :
    ∃ coincidence level, (lcd.slice cycles).1 =
      { (lcd.later cycles).turn.1 with coincidence := coincidence, statLine := level } := by
  rw [slice_of_on on]
  exact exists_refresh_eq _ _

theorem mem_refresh (lcd : Lcd) (entered : Bool) (source : Interrupt) :
    source ∈ (lcd.refresh entered).2 ↔
      source = .vblank ∧ entered = true ∨
        source = .lcdStat ∧ lcd.statLine = false ∧ (lcd.refresh entered).1.statLine = true := by
  have line : lcd.compareLine.statLine = lcd.statLine := (alike_compareLine lcd).statLine
  unfold refresh
  dsimp only
  rw [line]
  cases entered <;> cases lcd.statLine <;> cases lcd.compareLine.statLevel _ <;> simp

theorem mode_refresh (lcd : Lcd) (entered : Bool) : (lcd.refresh entered).1.mode = lcd.mode :=
  (alike_compareLine lcd).mode

theorem clock_refresh (lcd : Lcd) (entered : Bool) : (lcd.refresh entered).1.clock = lcd.clock :=
  (alike_compareLine lcd).clock

/-- While the LCD is on, the comparison is never out of date after a slice. -/
theorem coincidence_refresh {lcd : Lcd} (on : lcd.control.enabled = true) (entered : Bool) :
    (lcd.refresh entered).1.coincidence =
      ((lcd.refresh entered).1.line == (lcd.refresh entered).1.lineCompare.toNat) := by
  unfold refresh compareLine
  rw [if_pos on]

/-- A turn reports the entry when it leads into the time between frames, and leaves the status line. -/
theorem entered_turn_iff (lcd : Lcd) :
    (lcd.turn.2 = true ↔ lcd.mode ≠ .vblank ∧ lcd.turn.1.mode = .vblank) ∧
      lcd.turn.1.statLine = lcd.statLine := by
  cases lcd.turning with
  | stays _ turned | entry mode _ _ turned | next mode _ _ turned | top mode _ _ turned
    | between mode _ _ turned =>
    rw [turned]
    simp_all
  | searched mode _ turned | drawn mode _ turned =>
    rw [turned]
    exact ⟨by simp, rfl⟩

/-- The LCD asks when the time between frames begins, and when the status line rises; both only while
it is on. -/
theorem mem_slice (lcd : Lcd) (cycles : Nat) (source : Interrupt) :
    source ∈ (lcd.slice cycles).2 ↔ lcd.control.enabled = true ∧
      (source = .vblank ∧ lcd.mode ≠ .vblank ∧ (lcd.slice cycles).1.mode = .vblank ∨
        source = .lcdStat ∧ lcd.statLine = false ∧ (lcd.slice cycles).1.statLine = true) := by
  by_cases on : lcd.control.enabled = true
  · obtain ⟨entered, line⟩ := entered_turn_iff (lcd.later cycles)
    rw [slice_of_on on, mem_refresh, mode_refresh, entered, line, and_iff_right on]
  · rw [slice_of_off (Bool.eq_false_iff.mpr on), iff_false_left List.not_mem_nil]
    rintro ⟨isOn, -⟩
    exact on isOn

/-! ## Several slices -/

/-- Time passes slice by slice: what holds at the start and is kept by every slice that follows holds
at the end, of the state and of the requests made on the way. -/
theorem advance_induct {motive : Nat → Lcd × List Interrupt → Prop} (lcd : Lcd)
    (start : motive 0 (lcd, []))
    (slice : ∀ cycles passed more, more ≤ 4 → motive cycles passed →
      motive (cycles + more) ((passed.1.slice more).1, passed.2 ++ (passed.1.slice more).2))
    (cycles : Nat) : motive cycles (lcd.advance cycles) := by
  have full (count : Nat) : motive (4 * count) (Interrupt.collect (Lcd.slice 4) count lcd) := by
    induction count with
    | zero => exact start
    | succ count ih =>
      rw [Interrupt.collect_add, Interrupt.collect_succ, Interrupt.collect_zero, List.append_nil]
      exact slice _ _ 4 (Nat.le_refl 4) ih
  have whole := full (cycles / 4)
  unfold advance
  dsimp only
  split
  · rwa [Nat.mul_div_cancel' (Nat.dvd_of_mod_eq_zero ‹_›)] at whole
  · have last := slice _ _ (cycles % 4) (by omega) whole
    rwa [Nat.div_add_mod] at last

/-- A call that is no longer than a slice is one slice. -/
theorem advance_of_short (lcd : Lcd) {cycles : Nat} (pos : 0 < cycles) (short : cycles ≤ 4) :
    lcd.advance cycles = lcd.slice cycles := by
  unfold advance
  rcases Nat.lt_or_eq_of_le short with less | rfl
  · rw [Nat.div_eq_of_lt less, Nat.mod_eq_of_lt less, Interrupt.collect_zero]
    dsimp only
    rw [if_neg (Nat.ne_of_gt pos), List.nil_append]
  · rw [show 4 / 4 = 1 from rfl, Interrupt.collect_succ, Interrupt.collect_zero, List.append_nil]
    rfl

/-- An M-cycle is one slice. -/
theorem advance_four (lcd : Lcd) : lcd.advance 4 = lcd.slice 4 :=
  lcd.advance_of_short (by decide) (by decide)

end Lcd
end DotMatrix
