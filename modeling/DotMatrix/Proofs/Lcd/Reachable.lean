import DotMatrix.Proofs.Lcd.Changes

/-! # States of the LCD

What holds of an LCD however it was driven: `Reachable` collects everything that can be done to one,
slice by slice, and `Sound` is the invariant that all of it keeps.  While the LCD is off it rests in
the wait between two lines; outside the time between frames the line lies on the screen; and the
sprites found for a line stand in strict drawing order, which settles who wins a dot.
-/
namespace DotMatrix

namespace Sprite

/-- Strict drawing order. -/
def Before (first second : Sprite) : Prop :=
  first.left < second.left ∨ first.left = second.left ∧ first.index < second.index

theorem drawnBefore_iff (first second : Sprite) : drawnBefore first second = true ↔
    first.left < second.left ∨ first.left = second.left ∧ first.index ≤ second.index := by
  simp [drawnBefore]

theorem drawnBefore_trans (first second third : Sprite) (h : drawnBefore first second = true)
    (h' : drawnBefore second third = true) : drawnBefore first third = true := by
  rw [drawnBefore_iff] at h h' ⊢
  omega

theorem drawnBefore_total (first second : Sprite) :
    (drawnBefore first second || drawnBefore second first) = true := by
  rw [Bool.or_eq_true, drawnBefore_iff, drawnBefore_iff]
  omega

/-- No sprite is found twice on a line. -/
theorem nodup_onLine (oam : Oam) (height line : Nat) :
    ((onLine oam height line).map index).Nodup := by
  have order : ((List.range 40).map (ofOam oam)).map index = List.range 40 := by
    rw [List.map_map]
    exact List.map_id _
  have found : (((((List.range 40).map (ofOam oam)).filter (·.reaches height line)).take 10).map
      index).Sublist (List.range 40) := by
    rw [← order]
    exact ((List.take_sublist 10 _).trans List.filter_sublist).map index
  exact ((List.mergeSort_perm _ drawnBefore).map index).nodup_iff.mpr
    (found.nodup List.nodup_range)

/-- **The sprites of a line stand in strict drawing order.** -/
theorem pairwise_onLine (oam : Oam) (height line : Nat) :
    (onLine oam height line).Pairwise Before := by
  have sorted : (onLine oam height line).Pairwise fun a b => drawnBefore a b = true :=
    List.pairwise_mergeSort drawnBefore_trans drawnBefore_total _
  have distinct : (onLine oam height line).Pairwise fun a b => a.index ≠ b.index :=
    List.pairwise_map.mp (nodup_onLine oam height line)
  refine (sorted.and distinct).imp fun {a b} both => ?_
  obtain ⟨le, ne⟩ := both
  rw [drawnBefore_iff] at le
  unfold Before
  omega

end Sprite

namespace Lcd

/-- An LCD that came about by driving a new one in any way: registers and memory written at any time,
open or not, time passed slice by slice, and frames taken. -/
inductive Reachable : Lcd → Prop where
  | new : Reachable {}
  | afterBoot {lcd : Lcd} : Reachable lcd → Reachable lcd.afterBoot
  | write {lcd : Lcd} (address : UInt16) (value : UInt8) :
    Reachable lcd → Reachable (lcd.write address value)
  | writeVram {lcd : Lcd} (address : UInt16) (value : UInt8) :
    Reachable lcd → Reachable (lcd.writeVram address value)
  | writeOam {lcd : Lcd} (address : UInt16) (value : UInt8) :
    Reachable lcd → Reachable (lcd.writeOam address value)
  | slice {lcd : Lcd} (cycles : Nat) (short : cycles ≤ 4) :
    Reachable lcd → Reachable (lcd.slice cycles).1
  | takeFrameReady {lcd : Lcd} : Reachable lcd → Reachable lcd.takeFrameReady.2

/-- **The invariant of the LCD.** -/
structure Sound (lcd : Lcd) : Prop where
  resting : lcd.control.enabled = false → lcd.mode = .hblank
  visible : lcd.mode ≠ .vblank → lcd.line < 144
  ordered : lcd.sprites.Pairwise Sprite.Before

/-- What the invariant speaks of is mode, line, sprites and the power switch. -/
theorem Sound.congr {lcd other : Lcd} (h : Sound lcd)
    (enabled : other.control.enabled = lcd.control.enabled) (mode : other.mode = lcd.mode)
    (line : other.line = lcd.line) (sprites : other.sprites = lcd.sprites) : Sound other where
  resting := by
    rw [enabled, mode]
    exact h.resting
  visible := by
    rw [mode, line]
    exact h.visible
  ordered := by
    rw [sprites]
    exact h.ordered

theorem Sound.alike {lcd other : Lcd} (h : Sound lcd) (alike : Alike lcd other) : Sound other :=
  h.congr (congrArg Control.enabled alike.control) alike.mode alike.line alike.sprites

theorem Sound.setControl {lcd : Lcd} (h : Sound lcd) (value : UInt8) :
    Sound (lcd.setControl value) := by
  cases lcd.switching value with
  | off _ _ switched =>
    rw [switched]
    exact ⟨fun _ => rfl, fun _ => (by decide : 0 < 144), h.ordered⟩
  | on wasOff isOn switched =>
    rw [switched]
    refine Sound.alike ?_ (alike_compareLine _)
    refine ⟨fun stillOff => ?_, fun _ => ?_, h.ordered⟩
    · rw [isOn] at stillOff
      cases stillOff
    · -- It was switched off in a wait, and the line has not moved since.
      have mode := h.resting wasOff
      exact h.visible (by rw [mode]; decide)
  | same kept switched =>
    rw [switched]
    exact h.congr kept rfl rfl rfl

theorem Sound.write {lcd : Lcd} (h : Sound lcd) (address : UInt16) (value : UInt8) :
    Sound (lcd.write address value) := by
  rcases lcd.write_cases address value with switched | alike
  · rw [switched]
    exact h.setControl value
  · exact h.alike alike

theorem Sound.turn {lcd : Lcd} (h : Sound lcd) (on : lcd.control.enabled = true) :
    Sound lcd.turn.1 := by
  have running {mode : Mode} (off : lcd.control.enabled = false) : mode = .hblank := by
    rw [on] at off
    cases off
  cases lcd.turning with
  | stays _ turned =>
    rw [turned]
    exact h
  | entry _ _ _ turned =>
    rw [turned]
    exact ⟨running, fun visible => absurd rfl visible, h.ordered⟩
  | next waiting _ more turned =>
    have line : lcd.line < 144 := h.visible (by rw [waiting]; decide)
    rw [turned]
    exact ⟨running, fun _ => by dsimp only; omega, h.ordered⟩
  | top _ _ _ turned =>
    rw [turned]
    exact ⟨running, fun _ => (by decide : 0 < 144), h.ordered⟩
  | between waiting _ _ turned =>
    rw [turned]
    exact ⟨running, fun visible => absurd waiting visible, h.ordered⟩
  | searched searching _ turned =>
    have line : lcd.line < 144 := h.visible (by rw [searching]; decide)
    rw [turned]
    exact ⟨running, fun _ => line, Sprite.pairwise_onLine _ _ _⟩
  | drawn drawing _ turned =>
    have line : lcd.line < 144 := h.visible (by rw [drawing]; decide)
    rw [turned]
    exact ⟨running, fun _ => line, h.ordered⟩

theorem Sound.refresh {lcd : Lcd} (h : Sound lcd) (entered : Bool) :
    Sound (lcd.refresh entered).1 :=
  (h.alike (alike_compareLine lcd)).congr rfl rfl rfl rfl

theorem Sound.slice {lcd : Lcd} (h : Sound lcd) (cycles : Nat) : Sound (lcd.slice cycles).1 := by
  by_cases on : lcd.control.enabled = true
  · have passed : Sound (lcd.later cycles) := h.congr rfl rfl rfl rfl
    rw [slice_of_on on]
    exact (passed.turn on).refresh _
  · rw [slice_of_off (Bool.eq_false_iff.mpr on)]
    exact h

/-- **The invariant holds of every reachable LCD.** -/
theorem Reachable.sound {lcd : Lcd} (h : Reachable lcd) : Sound lcd := by
  induction h with
  | new => exact ⟨fun _ => rfl, fun _ => by decide, .nil⟩
  | afterBoot _ ih =>
    have on : (Control.mk 0x91).enabled ≠ false := by decide
    exact ⟨fun off => absurd off on, fun _ => (by decide : 0 < 144), ih.ordered⟩
  | write address value _ ih => exact ih.write address value
  | writeVram | writeOam | takeFrameReady => rename_i ih; exact ih.congr rfl rfl rfl rfl
  | slice cycles _ _ ih => exact ih.slice cycles

/-- Any number of T-cycles is slices. -/
theorem Reachable.advance {lcd : Lcd} (h : Reachable lcd) (cycles : Nat) :
    Reachable (lcd.advance cycles).1 :=
  lcd.advance_induct (motive := fun _ passed => Reachable passed.1) h
    (fun _ _ _ short reached => reached.slice _ short) cycles

end Lcd
end DotMatrix
