import DotMatrix.Proofs.MemoryMap.Ranges
import DotMatrix.Proofs.Narrow.Width

/-! # Devices in registers

The timer counts down to a reload in a register of eight bits, and the copying engine counts its delay and
its bytes in two more.  The serial port has one for the bits that are left and one of thirty-two for the
T-cycles of the current bit; the definition puts both into one number.
-/
namespace DotMatrix.Narrow

/-! ## The timer -/

/-- `count` steps of a device in a row, and all requests they make, in order. -/
def collect {σ : Type} (step : σ → Option (σ × List Interrupt)) : Nat → σ → Option (σ × List Interrupt)
  | 0, state => some (state, [])
  | count + 1, state => do
    let (state, made) ← step state
    let (state, more) ← collect step count state
    return (state, made ++ more)

/-- Steps that have a result as long as something holds, which they keep. -/
theorem collect_eq {σ : Type} {checked : σ → Option (σ × List Interrupt)} {plain : σ → σ × List Interrupt}
    {holds : σ → Prop} (each : ∀ state, holds state → checked state = some (plain state))
    (kept : ∀ state, holds state → holds (plain state).1) {state : σ} (h : holds state) (count : Nat) :
    collect checked count state = some (Interrupt.collect plain count state) := by
  induction count generalizing state with
  | zero => rfl
  | succ count ih =>
    rw [Interrupt.collect_succ]
    exact bind_of_eq (each state h) (bind_of_eq (ih (kept state h)) rfl)

/-- The chosen bit of the divider, seen through the switch. -/
def level (timer : Timer) : Option Bool :=
  if timer.control &&& 0x04 == 0 then some false
  else do
    let shifted ← shiftWord timer.divider timer.clockBit
    return shifted &&& 1 != 0

/-- Look at the clock signal again and move the counter if it fell. -/
def sample (timer : Timer) : Option Timer := do
  let level ← level timer
  if timer.signal && !level then return { timer.increment with signal := level }
  else return { timer with signal := level }

/-- Bring an overflow one T-cycle further. -/
def settle (timer : Timer) : Option (Timer × List Interrupt) :=
  match timer.reload with
  | .idle | .done => some ({ timer with reload := .idle }, [])
  | .pending cycles =>
    if cycles = 1 then some ({ timer with counter := timer.modulo, reload := .done }, [.timer])
    else do
      let left ← minus cycles 1
      let left ← fit .byte left
      return ({ timer with reload := .pending left }, [])

/-- One T-cycle of the timer. -/
def tickTimer (timer : Timer) : Option (Timer × List Interrupt) := do
  let (timer, requests) ← settle timer
  let timer ← sample { timer with divider := timer.divider + 1 }
  return (timer, requests)

/-- Write a register of the timer by its address.  Only a store to the control register looks at the
divider. -/
def writeTimer (timer : Timer) (address : UInt16) (value : UInt8) : Option Timer :=
  if address = 0xFF07 then sample { timer with control := value &&& 0x07 }
  else some (timer.write address value)

section
variable {timer : Timer}

/-- Taking a bit of a word by shifting, and by dividing. -/
theorem lowest_shiftRight (word : UInt16) {places : Nat} (h : places < 16) :
    (word >>> UInt16.ofNat places &&& 1 != 0) = (word.toNat / Nat.pow 2 places % 2 == 1) := by
  have bit : (word >>> UInt16.ofNat places &&& 1).toNat = word.toNat / Nat.pow 2 places % 2 := by
    have short : (UInt16.ofNat places).toNat % 16 = places := by
      rw [UInt16.toNat_ofNat']
      omega
    rw [UInt16.toNat_and, UInt16.toNat_shiftRight, short, Nat.shiftRight_eq_div_pow]
    exact Nat.and_one_is_mod _
  have small := Nat.mod_lt (word.toNat / Nat.pow 2 places) (by decide : 0 < 2)
  rw [← bit] at small ⊢
  obtain zero | one : (word >>> UInt16.ofNat places &&& 1).toNat = 0 ∨
      (word >>> UInt16.ofNat places &&& 1).toNat = 1 := by omega
  · rw [UInt16.toNat_inj.mp (show _ = (0 : UInt16).toNat from zero)]
    rfl
  · rw [UInt16.toNat_inj.mp (show _ = (1 : UInt16).toNat from one)]
    rfl

theorem level_eq (timer : Timer) : level timer = some timer.level := by
  have bit : timer.clockBit < 16 := by
    unfold Timer.clockBit
    split <;> decide
  unfold level Timer.level
  by_cases off : (timer.control &&& 0x04 == 0) = true
  · rw [if_pos off, bne, off]
    rfl
  · rw [if_neg off, bne, Bool.eq_false_iff.mpr off, ← lowest_shiftRight _ bit]
    exact bind_of_eq (shiftWord_of_lt bit) rfl

theorem sample_eq (timer : Timer) : sample timer = some timer.sample := by
  refine bind_of_eq (level_eq timer) ?_
  exact (apply_ite some _ _ _).symm

theorem settle_eq (h : timer.InRange) : settle timer = some timer.settle := by
  unfold settle
  cases reload : timer.reload with
  | idle => rw [Timer.settle_clear (.of_reload (.inl reload))]
  | done => rw [Timer.settle_clear (.of_reload (.inr reload))]
  | pending cycles =>
    obtain ⟨low, high⟩ := h cycles reload
    have small : cycles ≤ 4 := high
    dsimp only
    split
    · subst cycles
      rw [Timer.settle_due reload]
    · rw [Timer.settle_pending reload ‹_›]
      exact bind_of_eq (minus_of_le low) (bind_of_eq (fit_byte (by omega)) rfl)

theorem advance_timer_eq (h : timer.InRange) (cycles : Nat) :
    collect tickTimer cycles timer = some (timer.advance cycles) := by
  refine collect_eq (fun timer h => ?_) (fun timer h => Timer.InRange.tick h) h cycles
  exact bind_of_eq (settle_eq h) (bind_of_eq (sample_eq _) rfl)

theorem writeTimer_eq (timer : Timer) (address : UInt16) (value : UInt8) :
    writeTimer timer address value = some (timer.write address value) := by
  unfold writeTimer
  split
  · subst address
    exact sample_eq _
  · rfl

end

/-! ## The serial port -/

/-- Shift ones into a byte for as long as time and bits are left: the byte, the bits, and the T-cycles until
the next of them comes.  A bit that is not complete uses up the time. -/
def shiftBits (data : UInt8) : (bits cycles time : Nat) → Option (UInt8 × Nat × Nat)
  | 0, cycles, _ => some (data, 0, cycles)
  | bits + 1, cycles, time =>
    if time = 0 then some (data, bits + 1, cycles)
    else do
      let run := min time cycles
      let later ← minus time run
      let left ← minus cycles run
      if left = 0 then shiftBits (data <<< 1 ||| 1) bits Serial.cyclesPerBit later
      else return (data, bits + 1, left)

/-- Several T-cycles of the serial port, which counts bits and the T-cycles of each. -/
def advanceSerial (cycles : Nat) (serial : Serial) : Option (Serial × List Interrupt) :=
  if serial.remaining = 0 then some (serial, [])
  else do
    let bits ← fit .byte (Serial.bitsLeft serial.remaining)
    let current ← fit .double (serial.remaining - Serial.cyclesPerBit * (bits - 1))
    let (data, bits, current) ← shiftBits serial.data bits current cycles
    if bits = 0 then
      return ({ serial with data := data, remaining := 0, control := serial.control &&& 0x7F }, [.serial])
    else
      return ({ serial with data := data, remaining := Serial.cyclesPerBit * (bits - 1) + current }, [])

/-- **The loop shifts a one for each bit that goes by in the time**, where `remaining` T-cycles are the
current bit and full ones after it. -/
theorem exists_shiftBits (data : UInt8) {bits cycles remaining : Nat} (low : 1 ≤ cycles)
    (high : cycles ≤ 512) (parts : remaining = 512 * bits + cycles - 512) (time : Nat) : ∃ current,
      shiftBits data bits cycles time =
        some (Serial.shiftIn (bits - Serial.bitsLeft (remaining - time)) data,
          Serial.bitsLeft (remaining - time), current) ∧
        (remaining - time ≠ 0 →
          remaining - time = 512 * (Serial.bitsLeft (remaining - time) - 1) + current) := by
  induction bits generalizing data cycles remaining time with
  | zero =>
    have gone : remaining - time = 0 := by omega
    rw [gone]
    exact ⟨cycles, rfl, fun positive => absurd rfl positive⟩
  | succ bits ih =>
    unfold shiftBits
    by_cases early : time < cycles
    · -- The bit stays incomplete.
      have left : Serial.bitsLeft (remaining - time) = bits + 1 := by
        unfold Serial.bitsLeft Serial.cyclesPerBit
        omega
      rw [left, Nat.sub_self, Nat.min_eq_left (Nat.le_of_lt early)]
      refine ⟨cycles - time, ?_, fun _ => by omega⟩
      split
      · subst time
        rfl
      · refine bind_of_eq (minus_of_le (Nat.le_refl time)) ?_
        refine bind_of_eq (minus_of_le (Nat.le_of_lt early)) ?_
        rw [if_neg (by omega)]
        rfl
    · -- The bit is complete, and the rest of the time goes to the bits behind it.
      have enough := Nat.le_of_not_lt early
      have later : remaining - cycles - (time - cycles) = remaining - time := by omega
      obtain ⟨current, shifted, rest⟩ := ih (data <<< 1 ||| 1) (by decide) (Nat.le_refl 512)
        (by omega : remaining - cycles = 512 * bits + 512 - 512) (time - cycles)
      rw [later] at shifted rest
      refine ⟨current, ?_, rest⟩
      rw [if_neg (by omega), Nat.min_eq_right enough]
      refine bind_of_eq (minus_of_le enough) (bind_of_eq (minus_of_le (Nat.le_refl cycles)) ?_)
      have fewer : Serial.bitsLeft (remaining - time) ≤ bits := by
        unfold Serial.bitsLeft Serial.cyclesPerBit
        omega
      rw [if_pos (Nat.sub_self cycles), Nat.succ_sub fewer]
      exact shifted

theorem advanceSerial_eq {serial : Serial} (h : serial.InRange) (cycles : Nat) :
    advanceSerial cycles serial = some (serial.advance cycles) := by
  have few : serial.remaining ≤ 4096 := h
  unfold advanceSerial Serial.advance
  split
  · rfl
  · have bits : Serial.bitsLeft serial.remaining = (serial.remaining + 511) / 512 := rfl
    refine bind_of_eq (fit_byte (by omega)) (bind_of_eq (fit_double (by omega)) ?_)
    -- The T-cycles that are left are those of the current bit, and full bits.
    obtain ⟨current, shifted, rest⟩ := exists_shiftBits serial.data
      (by unfold Serial.cyclesPerBit; omega :
        1 ≤ serial.remaining - Serial.cyclesPerBit * (Serial.bitsLeft serial.remaining - 1))
      (by unfold Serial.cyclesPerBit; omega)
      (by unfold Serial.cyclesPerBit; omega :
        serial.remaining = 512 * Serial.bitsLeft serial.remaining +
          (serial.remaining - Serial.cyclesPerBit * (Serial.bitsLeft serial.remaining - 1)) - 512)
      cycles
    refine bind_of_eq shifted ?_
    dsimp only
    by_cases gone : serial.remaining - cycles = 0
    · have sent : Serial.bitsLeft (serial.remaining - cycles) = 0 := by
        rw [gone]
        rfl
      rw [if_pos sent, if_pos gone]
      rfl
    · have unsent : Serial.bitsLeft (serial.remaining - cycles) ≠ 0 := by
        unfold Serial.bitsLeft Serial.cyclesPerBit
        omega
      rw [if_neg unsent, if_neg gone]
      have total : serial.remaining - cycles =
          Serial.cyclesPerBit * (Serial.bitsLeft (serial.remaining - cycles) - 1) + current := rest gone
      rw [← total]
      rfl

/-! ## The copying engine -/

/-- Begin a copy.  Pages above work memory are moved down. -/
def startDma (dma : Dma) (page : UInt8) : Option Dma := do
  let page ← (if page < 0xE0 then some page.toNat else minus page.toNat 0x20)
  let page ← fit .byte page
  return { dma with source := page * 0x100, delay := Dma.startDelay, index := 0 }

/-- One M-cycle of the engine, and the byte that moves in it, with its address. -/
def tickDma (dma : Dma) : Option (Dma × Option Nat) :=
  if 0 < dma.delay then do
    let delay ← minus dma.delay 1
    return ({ dma with delay := delay, active := dma.active || delay == 0 }, none)
  else if dma.active then do
    let index ← fit .byte (dma.index + 1)
    return ({ dma with index := index, active := index != Dma.length }, some dma.index)
  else some (dma, none)

theorem startDma_eq (dma : Dma) (page : UInt8) : startDma dma page = some (dma.start page) := by
  have small := page.toNat_lt
  have moved : (if page < 0xE0 then some page.toNat else minus page.toNat 0x20) =
      some (Dma.sourcePage page) := by
    unfold Dma.sourcePage
    split
    · rfl
    · rename_i high
      exact minus_of_le (Nat.le_trans (by decide) (UInt8.le_iff_toNat_le.mp (UInt8.not_lt.mp high)))
  refine bind_of_eq moved (bind_of_eq (fit_byte ?_) rfl)
  unfold Dma.sourcePage
  split <;> omega

theorem tickDma_eq {dma : Dma} (h : dma.InRange) : tickDma dma = some dma.tick := by
  have index : dma.index ≤ 160 := h.index
  unfold tickDma Dma.tick
  split
  · rename_i waiting
    have last : (dma.delay - 1 == 0) = (dma.delay == 1) := by
      rw [Bool.eq_iff_iff, beq_iff_eq, beq_iff_eq]
      omega
    rw [← last]
    exact bind_of_eq (minus_of_le waiting) rfl
  · split
    · exact bind_of_eq (fit_byte (by omega)) rfl
    · rfl

end DotMatrix.Narrow
