import DotMatrix.Proofs.Cartridge.Ranges
import DotMatrix.Proofs.Lcd.Ranges
import DotMatrix.Proofs.MemoryMap.Display
import DotMatrix.Proofs.MemoryMap.PictureMemory
import DotMatrix.Proofs.MemoryMap.ReloadWindow

/-! # Ranges of the devices

The numbers that the timer, the serial port and the copying engine count with, each with its bounds.  A
memory map that was used in any way keeps all of them, and those of the LCD, as long as its cartridge keeps
its own (`MemoryMap.Fit.inRange`); and no operation takes a cartridge beyond its bounds
(`MemoryMap.Fit.perform`).
-/
namespace DotMatrix

/-! ## The timer -/

/-- A reload that is due will come within its delay. -/
def Timer.InRange (timer : Timer) : Prop :=
  ∀ cycles, timer.reload = .pending cycles → 1 ≤ cycles ∧ cycles ≤ reloadDelay

namespace Timer
variable {timer : Timer}

theorem InRange.sample (h : timer.InRange) : timer.sample.InRange := by
  intro cycles pending
  rw [sample_reload] at pending
  split at pending
  · cases pending
    decide
  · exact h cycles pending

theorem Clear.of_reload (settled : timer.reload = .idle ∨ timer.reload = .done) : timer.Clear := by
  intro cycles pending
  rw [pending] at settled
  rcases settled with same | same
  · cases same
  · cases same

theorem InRange.settle (h : timer.InRange) : timer.settle.1.InRange := by
  intro cycles pending
  cases reload : timer.reload with
  | idle =>
    rw [settle_clear (.of_reload (.inl reload))] at pending
    cases pending
  | done =>
    rw [settle_clear (.of_reload (.inr reload))] at pending
    cases pending
  | pending left =>
    obtain ⟨low, high⟩ := h left reload
    by_cases due : left = 1
    · subst due
      rw [settle_due reload] at pending
      cases pending
    · rw [settle_pending reload due] at pending
      cases pending
      exact ⟨by omega, Nat.le_trans (Nat.sub_le left 1) high⟩

theorem InRange.tick (h : timer.InRange) : timer.tick.1.InRange := by
  have settled : InRange { timer.settle.1 with divider := timer.settle.1.divider + 1 } := h.settle
  exact settled.sample

/-- **However the timer is used, its countdown keeps to its range.** -/
theorem Reachable.inRange (h : Reachable timer) : timer.InRange := by
  have idle : ∀ cycles, Reload.idle ≠ .pending cycles := by
    intro cycles same
    cases same
  induction h with
  | new => exact fun cycles pending => absurd pending (idle cycles)
  | tick _ ih => exact ih.tick
  | @write timer address value _ ih =>
    unfold Timer.write
    split
    · rw [resetDivider_eq]
      exact InRange.sample ih
    · unfold setCounter
      split
      · exact ih
      · exact fun cycles pending => absurd pending (idle cycles)
    · unfold setModulo
      split
      · exact ih
      · exact ih
    · exact InRange.sample ih
    · exact ih

end Timer

/-! ## The serial port -/

/-- A transfer takes no longer than a byte does. -/
def Serial.InRange (serial : Serial) : Prop := serial.remaining ≤ cyclesPerByte

theorem Serial.InRange.write {serial : Serial} (h : serial.InRange) (address : UInt16) (value : UInt8) :
    (serial.write address value).InRange := by
  unfold Serial.write
  split
  · exact h
  · unfold setControl
    dsimp only
    split
    · exact Nat.le_refl cyclesPerByte
    · exact Nat.zero_le cyclesPerByte
  · exact h

theorem Serial.InRange.advance {serial : Serial} (h : serial.InRange) (cycles : Nat) :
    (serial.advance cycles).1.InRange := by
  unfold Serial.advance
  split
  · exact h
  · dsimp only
    split
    · exact Nat.zero_le cyclesPerByte
    · exact Nat.le_trans (Nat.sub_le _ cycles) h

theorem MemoryMap.Reachable.serial {map : MemoryMap} (h : Reachable map) : map.serial.InRange := by
  induction h with
  | powerOn | afterBoot => exact Nat.zero_le _
  | @perform map operation _ ih =>
    cases operation with
    | call made =>
      cases made with
      | tick =>
        show map.tick.serial.InRange
        rw [map.ticked.serial]
        exact ih.advance 4
      | write address value =>
        show (map.write address value).serial.InRange
        rcases map.serial_write address value with same | stored
        · rw [same]
          exact ih
        · rw [stored]
          exact ih.write address value
      | poll | read | acknowledge | resetDivider => exact ih
    | reset => exact Nat.zero_le _
    | takeSerial | insert | changeCart | mapBoot | hold | takeFrame => exact ih

/-! ## The copying engine -/

/-- The engine copies from below the second appearance of work memory; it has at most its delay to wait, and
at most the bytes of one copy behind it. -/
structure Dma.InRange (dma : Dma) : Prop where
  source : dma.source + length ≤ 0xE000
  delay : dma.delay ≤ startDelay
  index : dma.index ≤ length

theorem Dma.Course.inRange {dma : Dma} (h : dma.Course) : dma.InRange := by
  cases h with
  | rest => exact ⟨by decide, by decide, by decide⟩
  | copy low stage =>
    cases stage with
    | waiting early active => exact ⟨low, Nat.sub_le 2 _, Nat.zero_le 160⟩
    | moving more => exact ⟨low, Nat.zero_le 2, Nat.le_of_lt more⟩
    | ended => exact ⟨low, Nat.zero_le 2, Nat.le_refl 160⟩

/-! ## All devices -/

namespace MemoryMap

/-- The numbers of every device keep to their ranges. -/
structure InRange (map : MemoryMap) : Prop where
  lcd : map.lcd.InRange
  timer : map.timer.InRange
  serial : map.serial.InRange
  dma : map.dma.InRange
  cart : ∀ cart, map.cart = some cart → cart.InRange

/-- A memory map that was used in some way, with a cartridge whose registers keep to their bits. -/
structure Fit (map : MemoryMap) : Prop where
  reachable : Reachable map
  cart : ∀ cart, map.cart = some cart → cart.InRange

variable {map : MemoryMap}

theorem Fit.inRange (h : map.Fit) : map.InRange where
  lcd := h.reachable.lcd.inRange
  timer := h.reachable.timer.inRange
  serial := h.reachable.serial
  dma := h.reachable.course.inRange
  cart := h.cart

theorem cart_tick (map : MemoryMap) : map.tick.cart = map.cart := by
  unfold tick tickDma
  split <;> rfl

/-- A store reaches the cartridge in one of its windows, or not at all. -/
theorem cart_write (map : MemoryMap) (address : UInt16) (value : UInt8) :
    (map.write address value).cart = map.cart ∨
      ∃ operation : Cartridge.Operation,
        (map.write address value).cart = map.cart.map (·.perform operation) := by
  unfold write
  cases Region.of address with
  | program => exact .inr ⟨.select address value, rfl⟩
  | save => exact .inr ⟨.store address value, rfl⟩
  | video | objects =>
    dsimp only
    split
    · exact .inl rfl
    · exact .inl rfl
  | _ => exact .inl rfl

/-- Cartridges come into the slot with their registers in range, and nothing that is done to them from
outside leads beyond. -/
def Operation.Lawful : Operation → Prop
  | .insert cart => cart.InRange
  | .changeCart change => ∀ cart, cart.InRange → (change cart).InRange
  | _ => True

/-- **Every operation keeps the cartridge in range**, whatever a program stores into it. -/
theorem Fit.perform (h : map.Fit) (operation : Operation) (lawful : operation.Lawful) :
    (map.perform operation).Fit := by
  refine ⟨h.reachable.perform operation, ?_⟩
  -- What an operation of the cartridge makes of the one in the slot.
  have changed {change : Cartridge → Cartridge} (kept : ∀ cart, cart.InRange → (change cart).InRange) :
      ∀ cart, map.cart.map change = some cart → cart.InRange := by
    intro cart there
    obtain ⟨earlier, found, rfl⟩ := Option.map_eq_some_iff.mp there
    exact kept earlier (h.cart earlier found)
  cases operation with
  | insert cart =>
    rintro _ ⟨⟩
    exact lawful
  | changeCart change => exact changed lawful
  | mapBoot | reset | hold | takeSerial | takeFrame => exact h.cart
  | call made =>
    cases made with
    | poll | read | acknowledge | resetDivider => exact h.cart
    | tick =>
      show ∀ cart, map.tick.cart = some cart → cart.InRange
      rw [cart_tick]
      exact h.cart
    | write address value =>
      show ∀ cart, (map.write address value).cart = some cart → cart.InRange
      rcases map.cart_write address value with same | ⟨operation, stored⟩
      · rw [same]
        exact h.cart
      · rw [stored]
        exact changed fun _ inRange => inRange.perform operation

theorem Fit.call (h : map.Fit) (made : Call) : (map.call made).Fit :=
  h.perform (.call made) trivial

end MemoryMap
end DotMatrix
