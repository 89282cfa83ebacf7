import DotMatrix.Proofs.Lcd.Raster
import DotMatrix.Proofs.Lcd.Schedule

/-! # The representation of the LCD

The LCD has many fields that only make sense together: the line, the mode, the clock of the mode, the
lines of the window, the sprites of the line, the picture.  `Regular` lists what ties them, and
`regular_of_reachable` says that it holds of every LCD however it was driven; nothing that is counted or
looked up by these fields can leave its range.

Where in the frame an LCD is that is on follows from its position (`Reachable.position`): it was switched
on some time ago, or left on by the boot program.  That at rest everything is zero is known from
`Reachable.resting`.  New here is the bound of the window lines: there are never more of them than lines
drawn in this frame (`Reachable.windowFits`).
-/
namespace DotMatrix

namespace Sprite

/-- There is room for ten sprites on a line. -/
theorem length_onLine_le (oam : Oam) (height line : Nat) : (onLine oam height line).length ≤ 10 := by
  unfold onLine
  rw [List.length_mergeSort, List.length_take]
  exact Nat.min_le_left 10 _

end Sprite

namespace Screen

/-- The picture always has the same number of bytes. -/
theorem size_rgba (screen : Screen) : screen.rgba.size = byteCount := by
  have bytes : screen.rgba.data.toList.length = 640 * screen.rows.toList.length := by
    rw [toList_rgba, length_flatMap length_flatMap_dot]
  rw [Vector.length_toList] at bytes
  exact bytes

/-- Every dot is opaque and has one of the four shades. -/
theorem exists_pixel_eq (screen : Screen) {x y : Nat} (hx : x < 160) (hy : y < 144) :
    ∃ part ∈ [0xFF, 0xAA, 0x55, 0x00], screen.pixel x y = [part, part, part, 0xFF] := by
  refine ⟨(screen.rows[y])[x].brightness, ?_, screen.pixel_eq hx hy⟩
  cases (screen.rows[y])[x] <;> decide

end Screen

namespace Lcd
variable {lcd : Lcd}

/-! ## Position -/

/-- A store to the control register puts its value there. -/
theorem control_write (lcd : Lcd) (value : UInt8) : (lcd.write 0xFF40 value).control = ⟨value⟩ := by
  show (lcd.setControl value).control = ⟨value⟩
  cases lcd.switching value with
  | off _ _ switched | same _ switched => rw [switched]
  | on _ _ switched =>
    rw [switched]
    exact (alike_compareLine _).control

/-- **An LCD that is on has a position**: some time has passed since it was switched on. -/
theorem Reachable.position (h : Reachable lcd) (on : lcd.control.enabled = true) :
    ∃ finished cycles, Position finished cycles lcd := by
  induction h with
  | new => exact absurd on (by decide)
  | @afterBoot lcd _ _ =>
    refine ⟨lcd.frames, 0, ⟨on, (by decide : 0 < 80), (by decide : 0 < 154), ?_, 0, rfl, ?_⟩⟩
    · exact iff_of_false (show Mode.search ≠ .vblank by decide) (by decide : ¬ 144 ≤ 0)
    · rfl
  | @write lcd address value reachable ih =>
    by_cases control : address = 0xFF40
    · subst control
      have isOn : (Control.mk value).enabled = true := by
        rw [← lcd.control_write value]
        exact on
      by_cases was : lcd.control.enabled = true
      · obtain ⟨finished, cycles, now⟩ := ih was
        have kept : (Use.register 0xFF40 value).KeepsOn := fun _ => isOn
        exact ⟨finished, cycles, now.perform kept⟩
      · have off := Bool.eq_false_iff.mpr was
        exact ⟨lcd.frames, 0, .switch_on (reachable.resting off) off isOn⟩
    · have alike := lcd.alike_write control value
      rw [alike.control] at on
      obtain ⟨finished, cycles, now⟩ := ih on
      exact ⟨finished, cycles, now.alike alike⟩
  | writeVram | writeOam | takeFrameReady =>
    rename_i ih
    obtain ⟨finished, cycles, now⟩ := ih on
    exact ⟨finished, cycles, now.congr rfl rfl rfl rfl rfl⟩
  | slice cycles short _ ih =>
    rw [control_slice] at on
    obtain ⟨finished, passed, now⟩ := ih on
    exact ⟨finished, passed + cycles, now.slice short⟩

/-! ## Lines of the window -/

/-- The lines of this frame that are drawn. -/
def linesDrawn (lcd : Lcd) : Nat :=
  match lcd.mode with
  | .search | .transfer => lcd.line
  | .hblank => lcd.line + 1
  | .vblank => 144

theorem linesDrawn_congr {other : Lcd} (mode : other.mode = lcd.mode) (line : other.line = lcd.line) :
    other.linesDrawn = lcd.linesDrawn := by
  unfold linesDrawn
  rw [mode, line]

theorem linesDrawn_le (visible : lcd.mode ≠ .vblank → lcd.line < 144) : lcd.linesDrawn ≤ 144 := by
  unfold linesDrawn
  cases mode : lcd.mode <;> simp [mode] at visible ⊢ <;> omega

/-- The window has no more lines than were drawn. -/
def WindowFits (lcd : Lcd) : Prop := lcd.windowLine ≤ lcd.linesDrawn

theorem WindowFits.congr {other : Lcd} (h : lcd.WindowFits) (mode : other.mode = lcd.mode)
    (line : other.line = lcd.line) (windowLine : other.windowLine = lcd.windowLine) :
    other.WindowFits := by
  unfold WindowFits
  rw [windowLine, linesDrawn_congr mode line]
  exact h

theorem WindowFits.alike {other : Lcd} (h : lcd.WindowFits) (alike : Alike lcd other) :
    other.WindowFits :=
  h.congr alike.mode alike.line alike.windowLine

/-- A line is drawn where it leads to one line more, and the window gets one line more at most. -/
theorem WindowFits.turn (h : lcd.WindowFits) : lcd.turn.1.WindowFits := by
  unfold WindowFits at *
  cases lcd.turning with
  | stays _ turned =>
    rw [turned]
    exact h
  | entry mode _ last turned =>
    rw [turned]
    simp only [linesDrawn, mode, last] at h ⊢
    exact h
  | next mode _ _ turned | between mode _ _ turned =>
    rw [turned]
    simp only [linesDrawn, mode] at h ⊢
    exact h
  | top _ _ _ turned =>
    rw [turned]
    exact Nat.zero_le _
  | searched mode _ turned =>
    rw [turned]
    simp only [linesDrawn, mode] at h
    exact h
  | drawn mode _ turned =>
    rw [turned]
    simp only [linesDrawn, mode] at h
    show (if lcd.windowShown then lcd.windowLine + 1 else lcd.windowLine) ≤ lcd.line + 1
    split <;> omega

/-- **The window never has more lines than were drawn in this frame.** -/
theorem Reachable.windowFits (h : Reachable lcd) : lcd.WindowFits := by
  induction h with
  | new | afterBoot => exact Nat.zero_le _
  | @write lcd address value reachable ih =>
    rcases lcd.write_cases address value with switched | alike
    · rw [switched]
      cases lcd.switching value with
      | off _ _ switched =>
        rw [switched]
        exact Nat.zero_le _
      | on wasOff _ switched =>
        rw [switched]
        refine WindowFits.alike ?_ (alike_compareLine _)
        have none := (reachable.resting wasOff).windowLine
        show lcd.windowLine ≤ _
        rw [none]
        exact Nat.zero_le _
      | same _ switched =>
        rw [switched]
        exact ih.congr rfl rfl rfl
    · exact ih.alike alike
  | writeVram | writeOam | takeFrameReady =>
    rename_i ih
    exact ih.congr rfl rfl rfl
  | @slice lcd cycles _ _ ih =>
    by_cases on : lcd.control.enabled = true
    · have passed : WindowFits (lcd.later cycles) := ih.congr rfl rfl rfl
      rw [slice_of_on on]
      exact (passed.turn.alike (alike_compareLine _)).congr rfl rfl rfl
    · rw [slice_of_off (Bool.eq_false_iff.mpr on)]
      exact ih

/-! ## Sprites of the line -/

theorem sprites_refresh (lcd : Lcd) (entered : Bool) :
    (lcd.refresh entered).1.sprites = lcd.sprites :=
  (alike_compareLine lcd).sprites

/-- The sprites of an LCD are none at all, or were found for a line. -/
theorem Reachable.sprites_eq (h : Reachable lcd) :
    lcd.sprites = [] ∨ ∃ oam height line, lcd.sprites = Sprite.onLine oam height line := by
  induction h with
  | new => exact .inl rfl
  | afterBoot _ ih | writeVram _ _ _ ih | writeOam _ _ _ ih | takeFrameReady _ ih => exact ih
  | @write lcd address value _ ih =>
    rcases lcd.write_cases address value with switched | alike
    · rw [switched]
      cases lcd.switching value with
      | off _ _ switched | same _ switched =>
        rw [switched]
        exact ih
      | on _ _ switched =>
        rw [switched, (alike_compareLine _).sprites]
        exact ih
    · rw [alike.sprites]
      exact ih
  | @slice lcd cycles _ _ ih =>
    by_cases on : lcd.control.enabled = true
    · rw [slice_of_on on, sprites_refresh]
      cases (lcd.later cycles).turning with
      | searched _ _ turned =>
        rw [turned]
        exact .inr ⟨_, _, _, rfl⟩
      | stays _ turned | entry _ _ _ turned | next _ _ _ turned | top _ _ _ turned
        | between _ _ _ turned | drawn _ _ turned =>
        rw [turned]
        exact ih
    · rw [slice_of_off (Bool.eq_false_iff.mpr on)]
      exact ih

/-- **At most ten sprites are found for a line.** -/
theorem Reachable.length_sprites_le (h : Reachable lcd) : lcd.sprites.length ≤ 10 := by
  rcases h.sprites_eq with none | ⟨oam, height, line, found⟩
  · rw [none]
    exact Nat.zero_le 10
  · rw [found]
    exact Sprite.length_onLine_le oam height line

/-! ## The entry of the time between frames -/

/-- A turn reports the entry exactly if it finishes a frame. -/
theorem entered_turn (lcd : Lcd) : lcd.turn.2 = (lcd.turn.1.frames != lcd.frames) := by
  cases lcd.turning with
  | entry _ _ _ turned =>
    rw [turned]
    simp
  | stays _ turned | next _ _ _ turned | top _ _ _ turned | between _ _ _ turned
    | searched _ _ turned | drawn _ _ turned =>
    rw [turned]
    exact (bne_self_eq_false lcd.frames).symm

theorem statLine_refresh (lcd : Lcd) (entered : Bool) :
    (lcd.refresh entered).1.statLine = (lcd.refresh entered).1.statLevel entered := rfl

theorem frames_refresh (lcd : Lcd) (entered : Bool) : (lcd.refresh entered).1.frames = lcd.frames :=
  (alike_compareLine lcd).frames

/-- The level of the status line after a slice: the entry counts in the slice that finishes the frame,
and in no other. -/
theorem statLine_slice (on : lcd.control.enabled = true) (cycles : Nat) :
    (lcd.slice cycles).1.statLine =
      (lcd.slice cycles).1.statLevel ((lcd.slice cycles).1.frames != lcd.frames) := by
  have entered : { lcd with clock := lcd.clock + cycles }.turn.2 =
      ({ lcd with clock := lcd.clock + cycles }.turn.1.frames != lcd.frames) := entered_turn _
  rw [slice, if_pos on]
  dsimp only
  rw [frames_refresh, ← entered]
  exact statLine_refresh _ _

/-! ## The invariant -/

/-- **What ties the fields of an LCD together.** -/
structure Regular (lcd : Lcd) : Prop where
  mode : lcd.mode.number ≤ 3
  line : lcd.line ≤ 153
  /-- The lines after the 144th lie between two frames. -/
  between : lcd.control.enabled = true → (lcd.mode = .vblank ↔ 144 ≤ lcd.line)
  /-- No mode outlasts its time. -/
  clock : lcd.control.enabled = true → lcd.clock < lcd.mode.length
  /-- An LCD that is off waits at the start of a frame. -/
  resting : lcd.control.enabled = false →
    lcd.line = 0 ∧ lcd.mode = .hblank ∧ lcd.clock = 0 ∧ lcd.windowLine = 0
  windowLine : lcd.windowLine ≤ 144
  few : lcd.sprites.length ≤ 10
  /-- The sprites of the line stand in strict drawing order: by column, then by number. -/
  ordered : lcd.sprites.Pairwise fun first second =>
    first.left < second.left ∨ first.left = second.left ∧ first.index < second.index
  /-- That the time between frames was entered is not kept for later: a slice counts it only if the
  frame is finished in this very slice. -/
  settled : lcd.control.enabled = true → ∀ cycles, (lcd.slice cycles).1.statLine =
    (lcd.slice cycles).1.statLevel ((lcd.slice cycles).1.frames != lcd.frames)
  size : lcd.screen.rgba.size = 92160
  /-- Every dot of the picture is opaque and has one of the four shades. -/
  shades : ∀ x < 160, ∀ y < 144,
    ∃ part ∈ [0xFF, 0xAA, 0x55, 0x00], lcd.screen.pixel x y = [part, part, part, 0xFF]

/-- **Every LCD is regular, however it was driven**: by stores to registers and memory, by the boot
program, and by time passing in calls of any size, which lead from reachable states to reachable ones. -/
theorem regular_of_reachable (h : Reachable lcd) :
    Regular lcd ∧ ∀ cycles, Reachable (lcd.advance cycles).1 := by
  have sound := h.sound
  have lines := linesDrawn_le sound.visible
  have window : lcd.windowLine ≤ lcd.linesDrawn := h.windowFits
  have line : lcd.line ≤ 153 := by
    by_cases on : lcd.control.enabled = true
    · obtain ⟨finished, cycles, now⟩ := h.position on
      exact Nat.le_of_lt_succ now.last
    · rw [(h.resting (Bool.eq_false_iff.mpr on)).line]
      exact Nat.zero_le 153
  refine ⟨{
    mode := by cases lcd.mode <;> decide
    line := line
    between := ?_
    clock := ?_
    resting := ?_
    windowLine := Nat.le_trans window lines
    few := h.length_sprites_le
    ordered := sound.ordered
    settled := statLine_slice
    size := lcd.screen.size_rgba
    shades := fun x hx y hy => lcd.screen.exists_pixel_eq hx hy }, h.advance⟩
  · intro on
    obtain ⟨finished, cycles, now⟩ := h.position on
    exact now.between
  · intro on
    obtain ⟨finished, cycles, now⟩ := h.position on
    exact now.early
  · intro off
    have rest := h.resting off
    exact ⟨rest.line, rest.mode, rest.clock, rest.windowLine⟩

/-- An LCD that is switched off in the middle of a frame, with the window shown until then. -/
theorem regular_of_cut_short :
    let cut := ((({} : Lcd).afterBoot.write 0xFF40 0xF3).advance 65001).1.write 0xFF40 0x73
    Reachable cut ∧ cut.control.enabled = false ∧
      (cut.line = 0 ∧ cut.mode = .hblank ∧ cut.clock = 0 ∧ cut.windowLine = 0) ∧
      cut.screen.rgba.size = 92160 := by
  intro cut
  have reachable : Reachable cut := .write _ _ ((Reachable.write _ _ (.afterBoot .new)).advance 65001)
  have control : cut.control = ⟨0x73⟩ := control_write _ 0x73
  have off : cut.control.enabled = false := by
    rw [control]
    decide
  have regular := (regular_of_reachable reachable).1
  exact ⟨reachable, off, regular.resting off, regular.size⟩

end Lcd
end DotMatrix
