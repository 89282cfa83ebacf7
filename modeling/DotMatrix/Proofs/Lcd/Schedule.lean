import DotMatrix.Proofs.Lcd.Entry
import DotMatrix.Proofs.Lcd.Reachable

/-! # The schedule of a frame

From the moment the LCD is switched on, everything about its timing follows from the number of T-cycles
that have passed: the line, the mode, the frames finished and the interrupts asked for.  How the time
was cut into pieces, and what was stored in registers and memory meanwhile, does not matter as long as
the LCD stays on.

The invariant (`Position`) adds up the time from the state: whole frames, whole lines, the modes of the
line that are over, and the clock of the current one.  One slice of at most four T-cycles keeps it,
because every mode is longer than a slice.
-/
namespace DotMatrix

/-- T-cycles of a line that are over when the mode begins. -/
def Mode.start : Mode → Nat
  | .search | .vblank => 0
  | .transfer => 80
  | .hblank => 252

namespace Lcd

/-! ## Rest -/

theorem control_slice (cycles : Nat) (lcd : Lcd) : (lcd.slice cycles).1.control = lcd.control := by
  by_cases on : lcd.control.enabled = true
  · obtain ⟨coincidence, level, sliced⟩ := exists_slice_eq on cycles
    rw [sliced]
    exact control_turn (lcd.later cycles)
  · rw [slice_of_off (Bool.eq_false_iff.mpr on)]

/-- The state in which an LCD waits to be switched on. -/
structure Resting (lcd : Lcd) : Prop where
  mode : lcd.mode = .hblank
  line : lcd.line = 0
  clock : lcd.clock = 0
  windowLine : lcd.windowLine = 0

theorem Resting.alike {lcd other : Lcd} (h : Resting lcd) (alike : Alike lcd other) :
    Resting other where
  mode := alike.mode.trans h.mode
  line := alike.line.trans h.line
  clock := alike.clock.trans h.clock
  windowLine := alike.windowLine.trans h.windowLine

/-- **An LCD that is off is at rest**, however it came to be off. -/
theorem Reachable.resting {lcd : Lcd} (h : Reachable lcd) (off : lcd.control.enabled = false) :
    Resting lcd := by
  induction h with
  | new => exact ⟨rfl, rfl, rfl, rfl⟩
  | afterBoot =>
    have on : (Control.mk 0x91).enabled = true := by decide
    exact absurd (on.symm.trans off) nofun
  | @write lcd address value _ ih =>
    by_cases control : address = 0xFF40
    · subst control
      change (lcd.setControl value).control.enabled = false at off
      show Resting (lcd.setControl value)
      cases lcd.switching value with
      | off _ _ switched =>
        rw [switched]
        exact ⟨rfl, rfl, rfl, rfl⟩
      | on _ isOn switched =>
        rw [switched, (alike_compareLine _).control] at off
        exact absurd (isOn.symm.trans off) nofun
      | same kept switched =>
        rw [switched] at off ⊢
        have rest := ih (kept.symm.trans off)
        exact ⟨rest.mode, rest.line, rest.clock, rest.windowLine⟩
    · have alike := lcd.alike_write control value
      rw [alike.control] at off
      exact (ih off).alike alike
  | writeVram | writeOam | takeFrameReady =>
    rename_i ih
    have rest := ih off
    exact ⟨rest.mode, rest.line, rest.clock, rest.windowLine⟩
  | @slice lcd cycles _ _ ih =>
    rw [control_slice] at off
    rw [slice_of_off off]
    exact ih off

/-! ## Where in the frame the LCD is -/

/-- The mode at a T-cycle of the frame. -/
def modeAt (moment : Nat) : Mode :=
  if 144 ≤ moment / 456 then .vblank
  else if moment % 456 < 80 then .search
  else if moment % 456 < 252 then .transfer
  else .hblank

/-- How many frames become finished within `cycles` T-cycles that follow the first `since`: the first
frame is finished after 144 lines, and from then on one in each frame. -/
def entries (since cycles : Nat) : Nat :=
  (List.range (since + cycles)).countP fun k =>
    since < 65664 + 70224 * k ∧ 65664 + 70224 * k ≤ since + cycles

theorem entries_eq (since cycles : Nat) :
    entries since cycles = (since + cycles + 4560) / 70224 - (since + 4560) / 70224 := by
  have below (count : Nat) :
      (List.range count).countP (fun k => decide (since < 65664 + 70224 * k ∧
        65664 + 70224 * k ≤ since + cycles)) =
        min count ((since + cycles + 4560) / 70224) - min count ((since + 4560) / 70224) := by
    induction count with
    | zero => simp
    | succ count ih =>
      rw [List.range_succ, List.countP_append, ih, List.countP_singleton]
      split <;> rename_i inside <;> rw [decide_eq_true_eq] at inside <;> omega
  rw [entries, below]
  omega

/-- **The position of an LCD that is on**, `cycles` T-cycles after it was switched on with so many
frames finished. -/
structure Position (finished cycles : Nat) (lcd : Lcd) : Prop where
  on : lcd.control.enabled = true
  early : lcd.clock < lcd.mode.length
  last : lcd.line < 154
  between : lcd.mode = .vblank ↔ 144 ≤ lcd.line
  elapsed : ∃ turns,
    cycles = 70224 * turns + 456 * lcd.line + lcd.mode.start + lcd.clock ∧
      lcd.frames = finished + turns + if 144 ≤ lcd.line then 1 else 0

namespace Position
variable {finished cycles : Nat} {lcd other : Lcd}

theorem congr (h : Position finished cycles lcd)
    (enabled : other.control.enabled = lcd.control.enabled) (mode : other.mode = lcd.mode)
    (line : other.line = lcd.line) (clock : other.clock = lcd.clock)
    (frames : other.frames = lcd.frames) : Position finished cycles other where
  on := enabled.trans h.on
  early := by
    rw [clock, mode]
    exact h.early
  last := by
    rw [line]
    exact h.last
  between := by
    rw [mode, line]
    exact h.between
  elapsed := by
    rw [mode, line, clock, frames]
    exact h.elapsed

theorem alike (h : Position finished cycles lcd) (alike : Alike lcd other) :
    Position finished cycles other :=
  h.congr (congrArg Control.enabled alike.control) alike.mode alike.line alike.clock alike.frames

/-- In the middle of a frame the line lies on the screen. -/
theorem visible (h : Position finished cycles lcd) {mode : Mode} (current : lcd.mode = mode)
    (inFrame : mode ≠ .vblank) : lcd.line < 144 := by
  rw [← Nat.not_le, ← h.between, current]
  exact inFrame

/-- **The end of a slice keeps the position**, since a slice is shorter than any mode: what the clock
of a mode loses when the mode ends is its length, which the line or the next mode accounts for. -/
theorem turn (h : Position finished cycles lcd) {more : Nat} (short : more ≤ 4) :
    Position finished (cycles + more) { lcd with clock := lcd.clock + more }.turn.1 := by
  have inFrame {mode : Mode} (current : lcd.mode = mode) (ne : mode ≠ .vblank) : lcd.line < 144 :=
    h.visible current ne
  obtain ⟨on, early, last, between, turns, elapsed, frames⟩ := h
  cases turning { lcd with clock := lcd.clock + more } with
  | stays early turned =>
    rw [turned]
    exact ⟨on, early, last, between, turns, by dsimp only; omega, frames⟩
  | entry mode due line turned =>
    dsimp only at mode due line
    simp only [mode, Mode.start, Mode.length] at elapsed early
    rw [turned]
    exact {
      on := on
      early := show lcd.clock + more - 204 < 456 by omega
      last := (by decide : 144 < 154)
      between := iff_of_true rfl (Nat.le_refl 144)
      elapsed := by
        refine ⟨turns, ?_, ?_⟩ <;> dsimp only [Mode.start]
        · omega
        · rw [frames, if_neg (by omega), if_pos (Nat.le_refl 144)] }
  | next mode due notLast turned =>
    have visible := inFrame mode (by decide)
    dsimp only at mode due notLast
    simp only [mode, Mode.start, Mode.length] at elapsed early
    rw [turned]
    exact {
      on := on
      early := show lcd.clock + more - 204 < 80 by omega
      last := show lcd.line + 1 < 154 by omega
      between := iff_of_false (show Mode.search ≠ .vblank by decide)
        (show ¬ 144 ≤ lcd.line + 1 by omega)
      elapsed := by
        refine ⟨turns, ?_, ?_⟩ <;> dsimp only [Mode.start]
        · omega
        · rw [frames, if_neg (by omega), if_neg (by omega)] }
  | top mode due line turned =>
    have far := between.mp mode
    dsimp only at mode due line
    simp only [mode, Mode.start, Mode.length] at elapsed early
    rw [turned]
    exact {
      on := on
      early := show lcd.clock + more - 456 < 80 by omega
      last := (by decide : 0 < 154)
      between := iff_of_false (show Mode.search ≠ .vblank by decide) (by decide : ¬ 144 ≤ 0)
      elapsed := by
        -- The frame that was finished at the entry is now a whole turn.
        refine ⟨turns + 1, ?_, ?_⟩ <;> dsimp only [Mode.start]
        · omega
        · rw [frames, if_pos far, if_neg (by decide)]
          rfl }
  | between mode due notLast turned =>
    have far := between.mp mode
    dsimp only at mode due notLast
    simp only [mode, Mode.start, Mode.length] at elapsed early
    rw [turned]
    exact {
      on := on
      early := by
        show lcd.clock + more - 456 < lcd.mode.length
        rw [mode]
        show _ < 456
        omega
      last := show lcd.line + 1 < 154 by omega
      between := iff_of_true mode (show 144 ≤ lcd.line + 1 by omega)
      elapsed := by
        refine ⟨turns, ?_, ?_⟩ <;> dsimp only
        · rw [mode]
          dsimp only [Mode.start]
          omega
        · rw [frames, if_pos far, if_pos (by omega)] }
  | searched mode due turned =>
    have visible := inFrame mode (by decide)
    dsimp only at mode due
    simp only [mode, Mode.start, Mode.length] at elapsed early
    rw [turned]
    exact {
      on := on
      early := show lcd.clock + more - 80 < 172 by omega
      last := last
      between := iff_of_false (show Mode.transfer ≠ .vblank by decide) (Nat.not_le.mpr visible)
      elapsed := ⟨turns, by dsimp only [Mode.start, search]; omega, frames⟩ }
  | drawn mode due turned =>
    have visible := inFrame mode (by decide)
    dsimp only at mode due
    simp only [mode, Mode.start, Mode.length] at elapsed early
    rw [turned]
    exact {
      on := on
      early := show lcd.clock + more - 172 < 204 by omega
      last := last
      between := iff_of_false (show Mode.hblank ≠ .vblank by decide) (Nat.not_le.mpr visible)
      elapsed := ⟨turns, by dsimp only [Mode.start, draw]; omega, frames⟩ }

theorem refresh (h : Position finished cycles lcd) (entered : Bool) :
    Position finished cycles (lcd.refresh entered).1 :=
  (h.alike (alike_compareLine lcd)).congr rfl rfl rfl rfl rfl

theorem slice (h : Position finished cycles lcd) {more : Nat} (short : more ≤ 4) :
    Position finished (cycles + more) (lcd.slice more).1 := by
  rw [slice_of_on h.on]
  exact (h.turn short).refresh _

theorem advance (h : Position finished cycles lcd) (more : Nat) :
    Position finished (cycles + more) (lcd.advance more).1 :=
  lcd.advance_induct (motive := fun more passed => Position finished (cycles + more) passed.1) h
    (fun _ _ _ short passed => Nat.add_assoc .. ▸ passed.slice short) more

end Position

/-! ## Frames and their interrupts -/

theorem count_refresh (lcd : Lcd) (entered : Bool) :
    (lcd.refresh entered).2.count .vblank = entered.toNat := by
  have status (rise : Bool) :
      (if rise then [Interrupt.lcdStat] else []).count Interrupt.vblank = 0 := by
    cases rise <;> rfl
  unfold refresh
  dsimp only
  rw [List.count_append, status]
  cases entered <;> rfl

/-- **A frame is finished exactly when its interrupt is asked for**, in every slice. -/
theorem frames_slice (lcd : Lcd) (cycles : Nat) :
    (lcd.slice cycles).1.frames = lcd.frames + (lcd.slice cycles).2.count .vblank := by
  by_cases on : lcd.control.enabled = true
  · rw [slice_of_on on, count_refresh]
    refine (alike_compareLine _).frames.trans ?_
    cases (lcd.later cycles).turning with
    | entry _ _ _ turned | stays _ turned | next _ _ _ turned | top _ _ _ turned
      | between _ _ _ turned | searched _ _ turned | drawn _ _ turned =>
      rw [turned]
      rfl
  · rw [slice_of_off (Bool.eq_false_iff.mpr on)]
    rfl

theorem frames_advance (lcd : Lcd) (cycles : Nat) :
    (lcd.advance cycles).1.frames = lcd.frames + (lcd.advance cycles).2.count .vblank := by
  refine lcd.advance_induct
    (motive := fun _ passed => passed.1.frames = lcd.frames + passed.2.count .vblank) rfl ?_ cycles
  intro _ passed more _ ih
  rw [frames_slice, ih, List.count_append, Nat.add_assoc]

/-! ## Time and stores in any order -/

/-- What can be done to an LCD from outside. -/
inductive Use where
  | pass (cycles : Nat)
  | register (address : UInt16) (value : UInt8)
  | video (address : UInt16) (value : UInt8)
  | objects (address : UInt16) (value : UInt8)
  /-- Ask whether a frame is ready. -/
  | ask

namespace Use

/-- What the use does, and the interrupts asked for by it. -/
def perform : Use → Lcd → Lcd × List Interrupt
  | pass cycles, lcd => lcd.advance cycles
  | register address value, lcd => (lcd.write address value, [])
  | video address value, lcd => (lcd.writeVram address value, [])
  | objects address value, lcd => (lcd.writeOam address value, [])
  | ask, lcd => (lcd.takeFrameReady.2, [])

/-- T-cycles taken by the use. -/
def cycles : Use → Nat
  | pass cycles => cycles
  | _ => 0

/-- The use does not switch the LCD off. -/
def KeepsOn : Use → Prop
  | register address value => address = 0xFF40 → (Control.mk value).enabled = true
  | _ => True

end Use

/-- T-cycles taken by all uses. -/
def elapsed : List Use → Nat
  | [] => 0
  | use :: uses => use.cycles + elapsed uses

/-- Several uses in a row, and all interrupts asked for by them, in order. -/
def drive : List Use → Lcd → Lcd × List Interrupt
  | [], lcd => (lcd, [])
  | use :: uses, lcd =>
    ((drive uses (use.perform lcd).1).1, (use.perform lcd).2 ++ (drive uses (use.perform lcd).1).2)

theorem frames_perform (lcd : Lcd) (use : Use) :
    (use.perform lcd).1.frames = lcd.frames + (use.perform lcd).2.count .vblank := by
  cases use with
  | pass cycles => exact lcd.frames_advance cycles
  | register address value => exact (lcd.frames_write address value).1
  | video | objects | ask => rfl

theorem frames_drive (uses : List Use) (lcd : Lcd) :
    (drive uses lcd).1.frames = lcd.frames + (drive uses lcd).2.count .vblank := by
  induction uses generalizing lcd with
  | nil => rfl
  | cons use uses ih =>
    rw [drive, ih, frames_perform, List.count_append, Nat.add_assoc]

namespace Position
variable {finished cycles : Nat} {lcd : Lcd}

/-- While the LCD stays on, only time moves it. -/
theorem perform (h : Position finished cycles lcd) {use : Use} (kept : use.KeepsOn) :
    Position finished (cycles + use.cycles) (use.perform lcd).1 := by
  cases use with
  | pass more => exact h.advance more
  | register address value =>
    by_cases control : address = 0xFF40
    · subst control
      show Position finished cycles (lcd.setControl value)
      cases lcd.switching value with
      | off _ isOff _ => exact absurd ((kept rfl).symm.trans isOff) nofun
      | on wasOff _ _ => exact absurd (h.on.symm.trans wasOff) nofun
      | same still switched =>
        rw [switched]
        exact h.congr still rfl rfl rfl rfl
    · exact h.alike (lcd.alike_write control value)
  | video | objects | ask => exact h.congr rfl rfl rfl rfl rfl

theorem drive {uses : List Use} (h : Position finished cycles lcd)
    (kept : ∀ use ∈ uses, use.KeepsOn) :
    Position finished (cycles + Lcd.elapsed uses) (Lcd.drive uses lcd).1 := by
  induction uses generalizing cycles lcd with
  | nil => exact h
  | cons use uses ih =>
    rw [Lcd.drive, Lcd.elapsed, ← Nat.add_assoc]
    have first := h.perform (kept use List.mem_cons_self)
    exact ih first fun later member => kept later (List.mem_cons_of_mem use member)

/-- An LCD that was at rest is at the start of a frame when it is switched on. -/
theorem switch_on {value : UInt8} (rest : Resting lcd) (off : lcd.control.enabled = false)
    (isOn : (Control.mk value).enabled = true) :
    Position lcd.frames 0 (lcd.write 0xFF40 value) := by
  show Position lcd.frames 0 (lcd.setControl value)
  cases lcd.switching value with
  | off wasOn _ _ => exact absurd (wasOn.symm.trans off) nofun
  | same kept _ => exact absurd (isOn.symm.trans (kept.trans off)) nofun
  | on _ _ switched =>
    rw [switched]
    refine Position.alike ?_ (alike_compareLine _)
    have line := rest.line
    refine ⟨isOn, (by decide : 0 < 80), ?_, ?_, 0, ?_, ?_⟩ <;> simp [line, Mode.start]

/-! ## Reading the position -/

/-- The moment within the frame. -/
theorem moment (h : Position finished cycles lcd) :
    cycles % 70224 = 456 * lcd.line + (lcd.mode.start + lcd.clock) ∧
      lcd.mode.start + lcd.clock < 456 := by
  obtain ⟨-, early, last, -, turns, elapsed, -⟩ := h
  have short : lcd.mode.start + lcd.clock < 456 := by
    cases mode : lcd.mode <;> rw [mode] at early <;>
      simp only [Mode.start, Mode.length] at early ⊢ <;> omega
  exact ⟨by omega, short⟩

theorem line_eq (h : Position finished cycles lcd) : lcd.line = cycles % 70224 / 456 := by
  obtain ⟨moment, short⟩ := h.moment
  omega

theorem mode_eq (h : Position finished cycles lcd) : lcd.mode = modeAt (cycles % 70224) := by
  obtain ⟨moment, short⟩ := h.moment
  have within : cycles % 70224 % 456 = lcd.mode.start + lcd.clock := by omega
  have early := h.early
  rw [modeAt, ← h.line_eq]
  cases mode : lcd.mode with
  | vblank => rw [if_pos (h.between.mp mode)]
  | search =>
    have visible := h.visible mode (by decide)
    simp only [mode, Mode.start, Mode.length] at within early
    rw [if_neg (by omega), if_pos (by omega)]
  | transfer =>
    have visible := h.visible mode (by decide)
    simp only [mode, Mode.start, Mode.length] at within early
    rw [if_neg (by omega), if_neg (by omega), if_pos (by omega)]
  | hblank =>
    have visible := h.visible mode (by decide)
    simp only [mode, Mode.start] at within
    rw [if_neg (by omega), if_neg (by omega), if_neg (by omega)]

theorem frames_eq (h : Position finished cycles lcd) :
    lcd.frames = finished + entries 0 cycles := by
  obtain ⟨moment, short⟩ := h.moment
  obtain ⟨-, -, last, -, turns, elapsed, frames⟩ := h
  rw [entries_eq, frames]
  split <;> omega

/-- The frames finished from one position to a later one. -/
theorem count_eq {more count : Nat} {later : Lcd} (h : Position finished cycles lcd)
    (h' : Position finished (cycles + more) later) (frames : later.frames = lcd.frames + count) :
    count = entries cycles more := by
  have before := h.frames_eq
  have after := h'.frames_eq
  rw [entries_eq] at before after ⊢
  omega

end Position

/-! ## The schedule -/

/-- **On schedule**: what an LCD shows that was switched on `cycles` T-cycles ago, when so many frames
were finished. -/
structure OnSchedule (finished cycles : Nat) (lcd : Lcd) (requests : List Interrupt) : Prop where
  line : lcd.line = cycles % 70224 / 456
  mode : lcd.mode = modeAt (cycles % 70224)
  frames : lcd.frames = finished + entries 0 cycles
  /-- The interrupts so far. -/
  asked : requests.count .vblank = entries 0 cycles
  /-- Those of whatever time passes next. -/
  next : ∀ more, (lcd.advance more).2.count .vblank = entries cycles more

/-- **From the moment it is switched on an LCD is on schedule**, in whatever pieces time passes and
whatever is stored meanwhile, unless it is switched off. -/
theorem on_schedule {lcd : Lcd} (reachable : Reachable lcd) (off : lcd.control.enabled = false)
    {value : UInt8} (isOn : (Control.mk value).enabled = true) (uses : List Use)
    (kept : ∀ use ∈ uses, use.KeepsOn) :
    OnSchedule lcd.frames (elapsed uses) (drive uses (lcd.write 0xFF40 value)).1
      (drive uses (lcd.write 0xFF40 value)).2 := by
  have start := Position.switch_on (reachable.resting off) off isOn
  have now := start.drive kept
  have asked := start.count_eq now (frames_drive uses _)
  rw [Nat.zero_add] at now
  exact ⟨now.line_eq, now.mode_eq, now.frames_eq, asked,
    fun more => now.count_eq (now.advance more) (frames_advance _ more)⟩

/-- One T-cycle before the first frame is finished; the stores on the way change nothing. -/
theorem on_schedule_at_first_frame :
    let uses : List Use := [.pass 40000, .register 0xFF40 0xF1, .register 0xFF45 3, .pass 25663]
    let now := drive uses (({} : Lcd).write 0xFF40 0x91)
    now.1.line = 143 ∧ now.1.mode = .hblank ∧ now.1.frames = 0 ∧ now.2.count .vblank = 0 ∧
      (now.1.advance 1).2.count .vblank = 1 := by
  intro uses now
  have kept : ∀ use ∈ uses, use.KeepsOn := by
    intro use member
    simp only [uses, List.mem_cons, List.not_mem_nil, or_false] at member
    rcases member with rfl | rfl | rfl | rfl
    · trivial
    · exact fun _ => (by decide : (Control.mk 0xF1).enabled = true)
    · exact fun control => absurd control (by decide)
    · trivial
  have isOn : (Control.mk 0x91).enabled = true := by decide
  have total : elapsed uses = 65663 := rfl
  obtain ⟨line, mode, frames, asked, next⟩ := on_schedule .new (by decide) isOn uses kept
  rw [total] at line mode frames asked next
  rw [entries_eq] at frames asked
  exact ⟨line, mode, frames, asked, (next 1).trans (entries_eq 65663 1)⟩

end Lcd
end DotMatrix
