import DotMatrix.Proofs.Lcd.Changes

/-! # Frames that are finished

A frame is finished when the LCD enters the time between two frames; the count of frames then grows,
and the frame is marked as ready.  `Since` compares an LCD with what it was some slices ago: either no
frame has been finished meanwhile, or exactly one.  That it is never two follows from the distance
(`Away`): after the entry the LCD is between frames or near the top of the screen, and a line lasts
longer than a slice, so that for a hundred slices it cannot come to the last line again.
-/
namespace DotMatrix
namespace Lcd

/-! ## Far from the last line -/

/-- The LCD is between two frames, or on none but the first lines. -/
def Away (lines : Nat) (lcd : Lcd) : Prop :=
  (lcd.control.enabled = true ∧ lcd.mode = .vblank) ∨ lcd.line ≤ lines

/-- Distance is a matter of the power switch, mode and line. -/
theorem Away.congr {lines : Nat} {lcd other : Lcd} (h : Away lines lcd)
    (enabled : other.control.enabled = lcd.control.enabled) (mode : other.mode = lcd.mode)
    (line : other.line = lcd.line) : Away lines other := by
  unfold Away
  rw [enabled, mode, line]
  exact h

theorem Away.alike {lines : Nat} {lcd other : Lcd} (h : Away lines lcd) (alike : Alike lcd other) :
    Away lines other :=
  h.congr (congrArg Control.enabled alike.control) alike.mode alike.line

theorem Away.setControl {lines : Nat} {lcd : Lcd} (h : Away lines lcd) (value : UInt8) :
    Away lines (lcd.setControl value) := by
  cases lcd.switching value with
  | off _ _ switched =>
    rw [switched]
    exact .inr (Nat.zero_le lines)
  | on wasOff _ switched =>
    rw [switched]
    rcases h with ⟨on, -⟩ | near
    · rw [wasOff] at on
      cases on
    · refine Away.alike ?_ (alike_compareLine _)
      exact .inr near
  | same kept switched =>
    rw [switched]
    exact h.congr kept rfl rfl

theorem Away.write {lines : Nat} {lcd : Lcd} (h : Away lines lcd) (address : UInt16)
    (value : UInt8) : Away lines (lcd.write address value) := by
  rcases lcd.write_cases address value with switched | alike
  · rw [switched]
    exact h.setControl value
  · exact h.alike alike

/-! ## Since an earlier moment -/

/-- What became of the frames after `slices` slices. -/
inductive Since (before : Lcd) (slices : Nat) (lcd : Lcd) : Prop where
  /-- None was finished. -/
  | quiet (frames : lcd.frames = before.frames) (ready : lcd.frameReady = before.frameReady)
  /-- One was finished, and has not been taken. -/
  | entered (frames : lcd.frames = before.frames + 1) (ready : lcd.frameReady = true)
    (away : Away slices lcd)

theorem Since.congr {before lcd other : Lcd} {slices : Nat} (h : Since before slices lcd)
    (frames : other.frames = lcd.frames) (ready : other.frameReady = lcd.frameReady)
    (away : Away slices lcd → Away slices other) : Since before slices other := by
  cases h with
  | quiet kept still => exact .quiet (frames.trans kept) (ready.trans still)
  | entered grown waits far => exact .entered (frames.trans grown) (ready.trans waits) (away far)

/-- No register counts frames. -/
theorem frames_write (lcd : Lcd) (address : UInt16) (value : UInt8) :
    (lcd.write address value).frames = lcd.frames ∧
      (lcd.write address value).frameReady = lcd.frameReady := by
  rcases lcd.write_cases address value with switched | alike
  · rw [switched]
    cases lcd.switching value with
    | off _ _ switched | same _ switched =>
      rw [switched]
      exact ⟨rfl, rfl⟩
    | on _ _ switched =>
      rw [switched]
      exact ⟨(alike_compareLine _).frames, (alike_compareLine _).frameReady⟩
  · exact ⟨alike.frames, alike.frameReady⟩

theorem Since.write {before lcd : Lcd} {slices : Nat} (h : Since before slices lcd)
    (address : UInt16) (value : UInt8) : Since before slices (lcd.write address value) := by
  obtain ⟨frames, ready⟩ := lcd.frames_write address value
  exact h.congr frames ready fun far => far.write address value

/-! ## One slice -/

/-- What a turn of the mode does to the frames: nothing, unless it is the entry. -/
theorem turn_frames (lcd : Lcd) :
    (lcd.turn.1.frames = lcd.frames ∧ lcd.turn.1.frameReady = lcd.frameReady) ∨
      (lcd.mode = .hblank ∧ lcd.line = 143) ∧ lcd.turn.1.frames = lcd.frames + 1 ∧
        lcd.turn.1.frameReady = true ∧ lcd.turn.1.mode = .vblank := by
  cases lcd.turning with
  | entry waiting _ last turned =>
    rw [turned]
    exact .inr ⟨⟨waiting, last⟩, rfl, rfl, rfl⟩
  | stays _ turned | next _ _ _ turned | top _ _ _ turned | between _ _ _ turned
    | searched _ _ turned | drawn _ _ turned =>
    rw [turned]
    exact .inl ⟨rfl, rfl⟩

theorem control_turn (lcd : Lcd) : lcd.turn.1.control = lcd.control := by
  cases lcd.turning with
  | stays _ turned | entry _ _ _ turned | next _ _ _ turned | top _ _ _ turned
    | between _ _ _ turned =>
    rw [turned]
  | searched _ _ turned | drawn _ _ turned =>
    rw [turned]
    rfl

/-- Away from the time between frames, only the line counts. -/
theorem Away.near {lines : Nat} {lcd : Lcd} (h : Away lines lcd) (inFrame : lcd.mode ≠ .vblank) :
    lcd.line ≤ lines := by
  rcases h with ⟨-, between⟩ | near
  · exact absurd between inFrame
  · exact near

/-- A turn goes on by one line at most. -/
theorem Away.turn {lines : Nat} {lcd : Lcd} (h : Away lines lcd) (on : lcd.control.enabled = true) :
    Away (lines + 1) lcd.turn.1 := by
  cases lcd.turning with
  | stays _ turned =>
    rw [turned]
    rcases h with between | near
    · exact .inl between
    · exact .inr (Nat.le_succ_of_le near)
  | entry _ _ _ turned =>
    rw [turned]
    exact .inl ⟨on, rfl⟩
  | next waiting _ _ turned =>
    rw [turned]
    exact .inr (Nat.succ_le_succ (h.near (by rw [waiting]; decide)))
  | top _ _ _ turned =>
    rw [turned]
    exact .inr (Nat.zero_le _)
  | between waiting _ _ turned =>
    rw [turned]
    exact .inl ⟨on, waiting⟩
  | searched searching _ turned =>
    rw [turned]
    exact .inr (Nat.le_succ_of_le (h.near (by rw [searching]; decide)))
  | drawn drawing _ turned =>
    rw [turned]
    exact .inr (Nat.le_succ_of_le (h.near (by rw [drawing]; decide)))

/-- Far from the last line a turn is no entry. -/
theorem Away.turn_quiet {lines : Nat} {lcd : Lcd} (h : Away lines lcd) (few : lines ≤ 100) :
    lcd.turn.1.frames = lcd.frames ∧ lcd.turn.1.frameReady = lcd.frameReady := by
  rcases lcd.turn_frames with quiet | ⟨⟨waiting, last⟩, -⟩
  · exact quiet
  · have near := h.near (by rw [waiting]; decide)
    omega

theorem Since.turn {before lcd : Lcd} {slices : Nat} (h : Since before slices lcd)
    (few : slices ≤ 100) (on : lcd.control.enabled = true) :
    Since before (slices + 1) lcd.turn.1 := by
  cases h with
  | quiet kept still =>
    rcases lcd.turn_frames with ⟨frames, ready⟩ | ⟨-, frames, ready, between⟩
    · exact .quiet (frames.trans kept) (ready.trans still)
    · refine .entered (by rw [frames, kept]) ready (.inl ⟨?_, between⟩)
      rw [control_turn]
      exact on
  | entered grown waits far =>
    -- The last line is still too far away for a second entry.
    obtain ⟨frames, ready⟩ := far.turn_quiet few
    exact .entered (frames.trans grown) (ready.trans waits) (far.turn on)

theorem Since.refresh {before lcd : Lcd} {slices : Nat} (h : Since before slices lcd)
    (entered : Bool) : Since before slices (lcd.refresh entered).1 :=
  h.congr (alike_compareLine lcd).frames (alike_compareLine lcd).frameReady fun far =>
    (far.alike (alike_compareLine lcd)).congr rfl rfl rfl

/-- **One slice finishes at most one frame**, and none soon after another. -/
theorem Since.slice {before lcd : Lcd} {slices : Nat} (h : Since before slices lcd)
    (few : slices ≤ 100) (cycles : Nat) : Since before (slices + 1) (lcd.slice cycles).1 := by
  by_cases on : lcd.control.enabled = true
  · have passed : Since before slices (lcd.later cycles) :=
      h.congr rfl rfl fun far => far.congr rfl rfl rfl
    rw [slice_of_on on]
    exact (passed.turn few on).refresh _
  · rw [slice_of_off (Bool.eq_false_iff.mpr on)]
    cases h with
    | quiet kept still => exact .quiet kept still
    | entered grown waits far =>
      refine .entered grown waits ?_
      rcases far with between | near
      · exact .inl between
      · exact .inr (Nat.le_succ_of_le near)

end Lcd
end DotMatrix
