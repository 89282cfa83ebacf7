import DotMatrix.Proofs.Cartridge.Registers
import DotMatrix.Proofs.Cartridge.Timekeeping

/-! # Ranges of a cartridge

The counters of the clock and the registers of the controllers have so many bits each.  A program can store
anything into them, at any moment and in any order; what is kept are the bits that are there, and counting
does not lead beyond them (`Cartridge.InRange.perform`).
-/
namespace DotMatrix

/-! ## The clock -/

/-- The counters keep to their bits. -/
structure Calendar.InRange (time : Calendar) : Prop where
  seconds : time.seconds < 64
  minutes : time.minutes < 64
  hours : time.hours < 32
  days : time.days < 512

/-- The counters, their copy and the fraction of a second keep to their ranges. -/
structure Clock.InRange (clock : Clock) : Prop where
  time : clock.time.InRange
  latched : clock.latched.InRange
  fraction : clock.fraction < nanosPerSecond

namespace Calendar
variable {time : Calendar}

theorem InRange.dayTick (h : time.InRange) : time.dayTick.InRange := by
  unfold Calendar.dayTick
  split
  · rename_i more
    exact ⟨h.seconds, h.minutes, h.hours, Nat.succ_lt_succ more⟩
  · exact ⟨h.seconds, h.minutes, h.hours, (by decide : 0 < 512)⟩

theorem InRange.hourTick (h : time.InRange) : time.hourTick.InRange := by
  unfold Calendar.hourTick
  split
  · exact InRange.dayTick ⟨h.seconds, h.minutes, (by decide : 0 < 32), h.days⟩
  · exact ⟨h.seconds, h.minutes, Nat.mod_lt _ (by decide), h.days⟩

theorem InRange.minuteTick (h : time.InRange) : time.minuteTick.InRange := by
  unfold Calendar.minuteTick
  split
  · exact InRange.hourTick ⟨h.seconds, (by decide : 0 < 64), h.hours, h.days⟩
  · exact ⟨h.seconds, Nat.mod_lt _ (by decide), h.hours, h.days⟩

theorem InRange.secondTick (h : time.InRange) : time.secondTick.InRange := by
  unfold Calendar.secondTick
  split
  · exact InRange.minuteTick ⟨(by decide : 0 < 64), h.minutes, h.hours, h.days⟩
  · exact ⟨Nat.mod_lt _ (by decide), h.minutes, h.hours, h.days⟩

theorem InRange.advance (h : time.InRange) (seconds : Nat) : (time.advance seconds).InRange := by
  induction seconds generalizing time with
  | zero => exact h
  | succ seconds ih =>
    rw [advance_succ h.days]
    exact ih h.secondTick

/-- **A program can write anything into the registers**; only the bits that are there are kept. -/
theorem InRange.write (h : time.InRange) (register : ClockRegister) (value : UInt8) :
    (time.write register value).InRange := by
  have days := days_write h.days register value
  cases register with
  | seconds => exact ⟨Nat.mod_lt _ (by decide), h.minutes, h.hours, days⟩
  | minutes => exact ⟨h.seconds, Nat.mod_lt _ (by decide), h.hours, days⟩
  | hours => exact ⟨h.seconds, h.minutes, Nat.mod_lt _ (by decide), days⟩
  | days | control => exact ⟨h.seconds, h.minutes, h.hours, days⟩

end Calendar

namespace Clock
variable {clock : Clock}

theorem InRange.sync (h : clock.InRange) (now : UInt64) : (clock.sync now).InRange := by
  unfold Clock.sync
  split
  · exact ⟨h.time, h.latched, h.fraction⟩
  · exact ⟨h.time.advance _, h.latched, Nat.mod_lt _ (by decide)⟩

theorem InRange.latch (h : clock.InRange) (now : UInt64) : (clock.latch now).InRange :=
  ⟨(h.sync now).time, (h.sync now).time, (h.sync now).fraction⟩

theorem InRange.write (h : clock.InRange) (register : ClockRegister) (value : UInt8) (now : UInt64) :
    (clock.write register value now).InRange := by
  have counted := h.sync now
  refine ⟨counted.time.write register value, counted.latched, ?_⟩
  unfold Clock.write
  dsimp only
  split
  · decide
  · exact counted.fraction

end Clock

/-! ## The controllers -/

/-- The registers of the first controller keep to their bits. -/
structure Mbc1.InRange (chip : Mbc1) : Prop where
  low : chip.low < 32
  upper : chip.upper < 4

/-- The registers of the third controller and the counters of its clock keep to their bits. -/
structure Mbc3.InRange (chip : Mbc3) : Prop where
  bank : chip.bank < 128
  selector : chip.selector < 16
  clock : ∀ clock, chip.clock = some clock → clock.InRange

/-- The registers of the fifth controller keep to their bits. -/
structure Mbc5.InRange (chip : Mbc5) : Prop where
  bank : chip.bank < 512
  ramBank : chip.ramBank < 16

/-- The registers of a controller keep to their bits. -/
def Mapper.InRange : Mapper → Prop
  | plain => True
  | mbc1 chip => chip.InRange
  | mbc2 chip => chip.bank < 16
  | mbc3 chip => chip.InRange
  | mbc5 chip => chip.InRange

theorem notZero_lt {bank limit : Nat} (small : bank < limit) (one : 1 < limit) : notZero bank < limit :=
  Nat.max_lt.mpr ⟨small, one⟩

section
variable (address : UInt16) (value : UInt8)

theorem Mbc1.InRange.select {chip : Mbc1} (h : chip.InRange) : (chip.select address value).InRange := by
  unfold Mbc1.select
  repeat' split
  · exact ⟨h.low, h.upper⟩
  · exact ⟨notZero_lt (Nat.mod_lt _ (by decide)) (by decide), h.upper⟩
  · exact ⟨h.low, Nat.mod_lt _ (by decide)⟩
  · exact ⟨h.low, h.upper⟩

theorem Mbc2.select_bank_lt {chip : Mbc2} (h : chip.bank < 16) : (chip.select address value).bank < 16 := by
  unfold Mbc2.select
  repeat' split
  · exact notZero_lt (Nat.mod_lt _ (by decide)) (by decide)
  · exact h
  · exact h

theorem Mbc3.InRange.select {chip : Mbc3} (h : chip.InRange) (now : UInt64) :
    (chip.select address value now).InRange := by
  unfold Mbc3.select
  split
  · exact ⟨h.bank, h.selector, h.clock⟩
  split
  · exact ⟨notZero_lt (Nat.mod_lt _ (by decide)) (by decide), h.selector, h.clock⟩
  split
  · exact ⟨h.bank, Nat.mod_lt _ (by decide), h.clock⟩
  · refine ⟨h.bank, h.selector, fun clock found => ?_⟩
    dsimp only at found
    split at found
    · obtain ⟨earlier, there, rfl⟩ := Option.map_eq_some_iff.mp found
      exact (h.clock earlier there).latch now
    · exact h.clock clock found

theorem Mbc5.InRange.select {chip : Mbc5} (h : chip.InRange) : (chip.select address value).InRange := by
  have small := value.toNat_lt
  have bank := h.bank
  unfold Mbc5.select
  split
  · exact ⟨bank, h.ramBank⟩
  split
  · exact ⟨by dsimp only; omega, h.ramBank⟩
  split
  · exact ⟨by dsimp only; omega, h.ramBank⟩
  split
  · split
    · exact ⟨bank, by dsimp only; omega⟩
    · exact ⟨bank, by dsimp only; omega⟩
  · exact h

end

namespace Mapper
variable {mapper : Mapper}

/-- **A program can store anything into the registers**; only the bits that are there are kept. -/
theorem InRange.select (h : mapper.InRange) (address : UInt16) (value : UInt8) (now : UInt64) :
    (mapper.select address value now).InRange := by
  cases mapper with
  | plain => exact h
  | mbc1 chip => exact Mbc1.InRange.select address value h
  | mbc2 chip => exact Mbc2.select_bank_lt address value h
  | mbc3 chip => exact Mbc3.InRange.select address value h now
  | mbc5 chip => exact Mbc5.InRange.select address value h

theorem InRange.writeClock (h : mapper.InRange) (register : ClockRegister) (value : UInt8)
    (now : UInt64) : (mapper.writeClock register value now).InRange := by
  cases mapper with
  | mbc3 chip =>
    refine ⟨h.bank, h.selector, fun clock found => ?_⟩
    obtain ⟨earlier, there, rfl⟩ := Option.map_eq_some_iff.mp found
    exact (h.clock earlier there).write register value now
  | plain | mbc1 | mbc2 | mbc5 => exact h

theorem inRange_ofKind (kind : Kind) (now : UInt64) : (ofKind kind now).InRange := by
  unfold ofKind
  split
  · trivial
  · exact ⟨by decide, by decide⟩
  · exact (by decide : 1 < 16)
  · refine ⟨(by decide : 1 < 128), (by decide : 0 < 16), fun clock found => ?_⟩
    dsimp only at found
    split at found
    · cases found
      have zero : Calendar.InRange {} := ⟨by decide, by decide, by decide, by decide⟩
      exact ⟨zero, zero, (by decide : 0 < 1000000000)⟩
    · cases found
  · exact ⟨(by decide : 1 < 512), (by decide : 0 < 16)⟩

theorem InRange.romBank_lt (h : mapper.InRange) : mapper.romBank < 512 := by
  cases mapper with
  | plain => exact (by decide : 1 < 512)
  | mbc1 chip =>
    have low := h.low
    have upper := h.upper
    show chip.upper * 32 + chip.low < 512
    omega
  | mbc2 chip => exact Nat.lt_trans h (by decide)
  | mbc3 chip => exact Nat.lt_trans h.bank (by decide)
  | mbc5 chip => exact h.bank

theorem InRange.fixedBank_lt (h : mapper.InRange) : mapper.fixedBank < 512 := by
  cases mapper with
  | mbc1 chip =>
    have upper := h.upper
    show (if chip.advanced then chip.upper * 32 else 0) < 512
    split <;> omega
  | plain | mbc2 | mbc3 | mbc5 => exact (by decide : 0 < 512)

end Mapper

namespace Cartridge

/-- The registers of a cartridge keep to their bits. -/
def InRange (cart : Cartridge) : Prop := cart.mapper.InRange

/-- **Whatever is done with a cartridge**, its registers keep to their bits. -/
theorem InRange.perform {cart : Cartridge} (h : cart.InRange) (operation : Operation) :
    (cart.perform operation).InRange := by
  cases operation with
  | select address value => exact Mapper.InRange.select h address value cart.now
  | store address value =>
    show (cart.writeRam address value).InRange
    rw [writeRam_eq]
    cases cart.target address with
    | nothing | byte | nibble => exact h
    | clock register => exact Mapper.InRange.writeClock h register value cart.now
  | read | load | elapse => exact h

theorem New.inRange {image : ByteArray} {cart : Cartridge} (new : New image cart) : cart.InRange := by
  unfold InRange
  rw [new.mapper]
  exact Mapper.inRange_ofKind _ _

theorem New.inRange_after {image : ByteArray} {cart : Cartridge} (new : New image cart)
    (past : List Operation) : (cart.after past).InRange := by
  induction past with
  | nil => exact new.inRange
  | cons last earlier ih => exact ih.perform last

end Cartridge

end DotMatrix
