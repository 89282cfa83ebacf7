import DotMatrix.Proofs.Cartridge.Counting
import DotMatrix.Proofs.Cartridge.MemoryCells

/-! # Latching the clock

A program never sees the counters of the clock, but a copy of them, and it makes that copy by storing a zero
and then a one where the clock is latched.  Everything that happens to the clock is here put into one function
of the operations (`Cartridge.met`): a latch and a store into a register first count the time that has gone
by, and nothing else reaches the clock.  So what a program sees changes at a latch only, and is then what has
been counted; and what it has stored into a register is there at the next latch (`Cartridge.latches_time`).
-/
namespace DotMatrix

/-! ## Registers and counters -/

namespace ClockRegister

/-- The number that selects a register. -/
def number : ClockRegister → UInt8
  | seconds => 0x8
  | minutes => 0x9
  | hours => 0xA
  | days => 0xB
  | control => 0xC

/-- The bits of a register that are there. -/
def mask : ClockRegister → UInt8
  | seconds | minutes => 0x3F
  | hours => 0x1F
  | days => 0xFF
  | control => 0xC1

end ClockRegister

namespace Calendar
variable (time : Calendar) (value : UInt8)

/-- A register keeps the bits that are there. -/
theorem read_write_self (register : ClockRegister) :
    (time.write register value).read register = value &&& register.mask := by
  cases register with
  | seconds | minutes =>
    have kept : ∀ value : UInt8, UInt8.ofNat (value.toNat % 64) = value &&& 0x3F :=
      forall_byte (by decide +kernel)
    exact kept value
  | hours =>
    have kept : ∀ value : UInt8, UInt8.ofNat (value.toNat % 32) = value &&& 0x1F :=
      forall_byte (by decide +kernel)
    exact kept value
  | days =>
    have kept : ∀ value : UInt8, value &&& 0xFF = value := forall_byte (by decide +kernel)
    have low := value.toNat_lt
    refine (UInt8.toNat_inj.mp ?_).trans (kept value).symm
    show (UInt8.ofNat (time.days / 256 * 256 + value.toNat)).toNat = value.toNat
    rw [UInt8.toNat_ofNat']
    omega
  | control =>
    have kept : ∀ value : UInt8, UInt8.ofNat (value.toNat % 2) ||| maskIf (hasBit value 6) 0x40 |||
        maskIf (hasBit value 7) 0x80 = value &&& 0xC1 := forall_byte (by decide +kernel)
    have high : (value.toNat % 2 * 256 + time.days % 256) / 256 % 2 = value.toNat % 2 := by omega
    refine Eq.trans ?_ (kept value)
    rw [← high]
    rfl

/-- A store into a register leaves the others alone, although the days are in two of them. -/
theorem read_write_of_ne {register other : ClockRegister} (apart : other ≠ register) :
    (time.write register value).read other = time.read other := by
  have low := value.toNat_lt
  cases register with
  | seconds | minutes | hours => cases other <;> first | rfl | contradiction
  | days =>
    cases other with
    | seconds | minutes | hours => rfl
    | days => contradiction
    | control =>
      have high : (time.days / 256 * 256 + value.toNat) / 256 % 2 = time.days / 256 % 2 := by omega
      show UInt8.ofNat (_ % 2) ||| _ ||| _ = _
      rw [write, high]
      rfl
  | control =>
    cases other with
    | seconds | minutes | hours => rfl
    | control => contradiction
    | days =>
      refine UInt8.toNat_inj.mp ?_
      show (UInt8.ofNat (value.toNat % 2 * 256 + time.days % 256)).toNat = (UInt8.ofNat time.days).toNat
      rw [UInt8.toNat_ofNat', UInt8.toNat_ofNat']
      omega

end Calendar

/-! ## Counting up to an instant -/

namespace Clock
variable {clock : Clock} {now : UInt64}

/-- **Time is counted up to an instant**: so many seconds pass as have gone by, and the rest is kept. -/
structure Counted (clock : Clock) (now : UInt64) (counted : Clock) : Prop where
  synced : counted.synced = now
  /-- The copy is left alone. -/
  latched : counted.latched = clock.latched
  inRange : counted.InRange
  /-- While the counters stand still no time passes. -/
  stands : clock.time.halted = true → counted.time = clock.time ∧ counted.fraction = clock.fraction
  /-- While they run, no nanosecond is lost. -/
  runs : clock.time.halted = false → ∃ seconds, Calendar.Passes seconds clock.time counted.time ∧
    seconds * nanosPerSecond + counted.fraction =
      clock.fraction + (now.toNat - clock.synced.toNat)

theorem counted_sync (h : clock.InRange) (now : UInt64) : clock.Counted now (clock.sync now) where
  synced := clock.synced_sync now
  latched := by
    unfold sync
    split <;> rfl
  inRange := h.sync now
  stands halted := by
    rw [sync_of_halted halted]
    exact ⟨rfl, rfl⟩
  runs running := by
    rw [sync, running, if_neg Bool.false_ne_true]
    exact ⟨_, (Calendar.passes_iff h.time _).mpr rfl, Nat.div_add_mod' ..⟩

/-- At the instant up to which time has been counted nothing is left to count. -/
theorem InRange.sync_synced (h : clock.InRange) : clock.sync clock.synced = clock := by
  have whole : (clock.fraction + (clock.synced.toNat - clock.synced.toNat)) / nanosPerSecond = 0 := by
    rw [Nat.sub_self]
    exact Nat.div_eq_of_lt h.fraction
  have rest : (clock.fraction + (clock.synced.toNat - clock.synced.toNat)) % nanosPerSecond =
      clock.fraction := by
    rw [Nat.sub_self]
    exact Nat.mod_eq_of_lt h.fraction
  unfold Clock.sync
  split
  · rfl
  · dsimp only
    rw [whole, rest]
    rfl

end Clock

/-! ## What happens to the clock -/

namespace Cartridge

/-- A store that latches: a one, where the last value that was stored was a zero. -/
def latches (past : List Operation) : Operation → Bool
  | .select address value => modePort address && value == 1 && lastStores past modePort == some 0
  | _ => false

/-- None of these operations latches, if `past` has come before them.  The latest comes first. -/
def quiet (past : List Operation) : List Operation → Bool
  | [] => true
  | last :: earlier => !latches (earlier ++ past) last && quiet past earlier

/-- The register that an operation writes, and the value. -/
def Operation.written? (kind : Kind) (stores : Stores) : Operation → Option (ClockRegister × UInt8)
  | .store _ value => (stores.register? kind).map (·, value)
  | _ => none

/-- **What an operation does to the clock**: it is a latch, or it writes a register, or it does nothing. -/
def met (kind : Kind) (past : List Operation) (now : UInt64) (clock : Clock) (operation : Operation) : Clock :=
  if latches past operation then clock.latch now
  else match operation.written? kind (lastStores past) with
    | some (register, value) => clock.write register value now
    | none => clock

/-- Whether the next one latches is remembered. -/
def Armed (stores : Stores) : Mapper → Prop
  | .mbc3 chip => chip.armed = (stores modePort == some 0)
  | _ => True

theorem lastStores_select (past : List Operation) (address : UInt16) (value : UInt8) (port : UInt16 → Bool) :
    lastStores (.select address value :: past) port =
      if port address then some value else lastStores past port := by
  rw [lastStores, List.findSome?_cons, Operation.into?]
  by_cases answers : port address
  · rw [if_pos answers, if_pos answers]
  · rw [if_neg answers, if_neg answers]
    rfl

theorem armed_select {past : List Operation} {mapper : Mapper} (h : Armed (lastStores past) mapper)
    (address : UInt16) (value : UInt8) (now : UInt64) :
    Armed (lastStores (.select address value :: past)) (mapper.select address value now) := by
  cases mapper with
  | plain | mbc1 | mbc2 | mbc5 => trivial
  | mbc3 chip =>
    have armed : chip.armed = (lastStores past modePort == some 0) := h
    show (chip.select address value now).armed = (lastStores _ modePort == some 0)
    rw [lastStores_select]
    -- Only a store at the addresses of the latch fills the register, and every such store does.
    unfold Mbc3.select
    grind [modePort]

theorem armed_perform {past : List Operation} {cart : Cartridge} (h : Armed (lastStores past) cart.mapper)
    (operation : Operation) : Armed (lastStores (operation :: past)) (cart.perform operation).mapper := by
  cases operation with
  | select address value => exact armed_select h address value cart.now
  | read | load | elapse => exact h
  | store address value =>
    show Armed (lastStores past) (cart.writeRam address value).mapper
    rw [writeRam_eq]
    cases cart.target address with
    | nothing | byte | nibble => exact h
    | clock register =>
      show Armed _ (cart.mapper.writeClock register value cart.now)
      cases mapper : cart.mapper with
      | plain | mbc1 | mbc2 | mbc5 => trivial
      | mbc3 chip =>
        rw [mapper] at h
        exact h

theorem New.remembers {image : ByteArray} {cart : Cartridge} (new : New image cart) (past : List Operation) :
    Armed (lastStores past) (cart.after past).mapper := by
  induction past with
  | nil =>
    rw [after, new.mapper, Mapper.ofKind]
    cases cart.header.kind.controller <;> trivial
  | cons last earlier ih => exact armed_perform ih last

section
variable {cart : Cartridge} {mapper : Mapper} {kind : Kind} {past : List Operation} {clock : Clock}

/-- Only the third controller has a clock. -/
theorem exists_chip (fitted : mapper.clock? = some clock) :
    ∃ chip : Mbc3, mapper = .mbc3 chip ∧ chip.clock = some clock := by
  cases mapper with
  | plain | mbc1 | mbc2 | mbc5 => cases fitted
  | mbc3 chip => exact ⟨chip, rfl, fitted⟩

theorem clock?_select (armed : Armed (lastStores past) mapper) (fitted : mapper.clock? = some clock)
    (address : UInt16) (value : UInt8) (now : UInt64) :
    (mapper.select address value now).clock? =
      some (if latches past (.select address value) then clock.latch now else clock) := by
  obtain ⟨chip, rfl, there⟩ := exists_chip fitted
  have armed : chip.armed = (lastStores past modePort == some 0) := armed
  show (chip.select address value now).clock = _
  unfold Mbc3.select latches
  grind [modePort]

theorem clock?_writeRam (follows : cart.mapper.Follows kind (lastStores past))
    (fitted : cart.mapper.clock? = some clock) (address : UInt16) (value : UInt8) :
    (cart.writeRam address value).mapper.clock? =
      some (match (lastStores past).register? kind with
        | some register => clock.write register value cart.now
        | none => clock) := by
  have shows : Shows (lastStores past) kind address (cart.target address) := shows_of_follows follows address
  rw [writeRam_eq]
  rcases shows.cell_or_none cart.ram.size with ⟨offset, target, away, -⟩ | ⟨-, target⟩
  · rw [target, away]
    by_cases small : kind.controller = .mbc2
    · rw [if_pos small]
      exact fitted
    · rw [if_neg small]
      exact fitted
  · rw [target]
    cases (lastStores past).register? kind with
    | none => exact fitted
    | some register =>
      obtain ⟨chip, third, there⟩ := exists_chip fitted
      show (cart.mapper.writeClock register value cart.now).clock? = _
      rw [third]
      exact congrArg (Option.map _) there

/-- **Nothing else happens to a clock.** -/
theorem clock?_perform (follows : cart.mapper.Follows kind (lastStores past))
    (armed : Armed (lastStores past) cart.mapper) (fitted : cart.mapper.clock? = some clock)
    (operation : Operation) :
    (cart.perform operation).mapper.clock? = some (met kind past cart.now clock operation) := by
  cases operation with
  | select address value => exact clock?_select armed fitted address value cart.now
  | store address value =>
    refine (clock?_writeRam follows fitted address value).trans ?_
    unfold met Operation.written?
    cases (lastStores past).register? kind <;> rfl
  | read | load | elapse => exact fitted

/-! ## What a program sees -/

/-- The byte that a program sees in a register: it unlocks the memory window, selects the register and
reads. -/
def visible (cart : Cartridge) (register : ClockRegister) : UInt8 :=
  ((cart.writeRom 0x0000 0x0A).writeRom 0x4000 register.number).readRam 0xA000

theorem visible_eq (fitted : cart.mapper.clock? = some clock) (register : ClockRegister) :
    cart.visible register = clock.read register := by
  obtain ⟨header, rom, ram, mapper, now⟩ := cart
  obtain ⟨⟨unlocked, bank, selector, armed, inside⟩, rfl, there⟩ := exists_chip fitted
  obtain rfl : inside = some clock := there
  cases register <;> rfl

/-! ## Along the operations -/

/-- What is known of a cartridge with a clock after some operations. -/
structure Known (kind : Kind) (past : List Operation) (cart : Cartridge) (clock : Clock) : Prop where
  follows : cart.mapper.Follows kind (lastStores past)
  armed : Armed (lastStores past) cart.mapper
  fitted : cart.mapper.clock? = some clock
  inRange : clock.InRange

theorem inRange_met (h : clock.InRange) (now : UInt64) (operation : Operation) :
    (met kind past now clock operation).InRange := by
  unfold met
  split
  · exact h.latch now
  · split
    · exact h.write _ _ now
    · exact h

/-- **One operation.** -/
theorem Known.perform (known : Known kind past cart clock) (operation : Operation) :
    Known kind (operation :: past) (cart.perform operation) (met kind past cart.now clock operation) where
  follows := follows_perform known.follows operation
  armed := armed_perform known.armed operation
  fitted := clock?_perform known.follows known.armed known.fitted operation
  inRange := inRange_met known.inRange cart.now operation

/-- Only a latch changes the copy. -/
theorem latched_met (h : clock.InRange) (now : UInt64) {operation : Operation}
    (unlatched : latches past operation = false) :
    (met kind past now clock operation).latched = clock.latched := by
  rw [met, if_neg (by simp [unlatched])]
  split
  · exact (Clock.counted_sync h now).latched
  · rfl

/-- **Without a latch the copy stays as it is**, however many operations there are. -/
theorem Known.quiet (known : Known kind past cart clock) {operations : List Operation}
    (still : quiet past operations = true) : ∃ later,
      Known kind (operations ++ past) (cart.after operations) later ∧ later.latched = clock.latched := by
  induction operations with
  | nil => exact ⟨clock, known, rfl⟩
  | cons last earlier ih =>
    rw [Cartridge.quiet, Bool.and_eq_true, Bool.not_eq_true'] at still
    obtain ⟨later, before, same⟩ := ih still.2
    exact ⟨_, before.perform last, (latched_met before.inRange _ still.1).trans same⟩

/-- An operation that lets no time pass and stores nothing into the memory window. -/
def Operation.atOnce : Operation → Bool
  | .select .. | .read .. | .load .. => true
  | .store .. | .elapse .. => false

theorem now_perform {operation : Operation} (atOnce : operation.atOnce = true) :
    (cart.perform operation).now = cart.now := by
  cases operation with
  | select | read | load => rfl
  | store | elapse => cases atOnce

/-- At the instant up to which time has been counted, a latch leaves the counters as they are. -/
theorem met_of_atOnce (h : clock.InRange) {operation : Operation} (atOnce : operation.atOnce = true) :
    (met kind past clock.synced clock operation).time = clock.time ∧
      (met kind past clock.synced clock operation).synced = clock.synced := by
  have unwritten : operation.written? kind (lastStores past) = none := by
    cases operation with
    | select | read | load | elapse => rfl
    | store => cases atOnce
  rw [met, unwritten]
  split
  · rw [Clock.latch, h.sync_synced]
    exact ⟨rfl, rfl⟩
  · exact ⟨rfl, rfl⟩

/-- **In an instant the counters stay as they are**, however often they are latched. -/
theorem Known.instant (known : Known kind past cart clock) (current : clock.synced = cart.now)
    {operations : List Operation} (atOnce : ∀ operation ∈ operations, operation.atOnce = true) :
    ∃ later, Known kind (operations ++ past) (cart.after operations) later ∧
      later.time = clock.time ∧ later.synced = (cart.after operations).now := by
  induction operations with
  | nil => exact ⟨clock, known, rfl, current⟩
  | cons last earlier ih =>
    rw [List.forall_mem_cons] at atOnce
    obtain ⟨later, before, time, synced⟩ := ih atOnce.2
    have step := before.perform last
    rw [← synced] at step
    obtain ⟨same, same'⟩ := @met_of_atOnce kind (earlier ++ past) later before.inRange last atOnce.1
    refine ⟨_, step, same.trans time, same'.trans (synced.trans ?_)⟩
    exact (now_perform atOnce.1).symm

end

/-- A cartridge that came about in any way, if it has a clock. -/
theorem New.known {image : ByteArray} {cart : Cartridge} (new : New image cart)
    (third : cart.header.kind.controller = .mbc3) (timed : cart.header.kind.clock = true)
    (past : List Operation) : ∃ clock, Known cart.header.kind past (cart.after past) clock := by
  have follows := new.follows past
  obtain ⟨clock, fitted⟩ := exists_clock_of_follows follows third timed
  obtain ⟨chip, mapper, there⟩ := exists_chip fitted
  have inRange := new.inRange_after past
  rw [InRange, mapper] at inRange
  exact ⟨clock, follows, new.remembers past, fitted, Mbc3.InRange.clock inRange clock there⟩

/-! ## All there is to say -/

/-- **How a clock is read and written** after some operations. -/
structure LatchesTime (kind : Kind) (past : List Operation) (cart : Cartridge) : Prop where
  /-- While a register is selected, the memory window shows the byte that a program sees in it. -/
  shown : ∀ address register, (lastStores past).register? kind = some register →
    cart.readRam address = cart.visible register
  /-- At a latch these bytes become those of the counters, with the time counted up to then. -/
  latched : ∀ operation, latches past operation = true → ∃ clock counted : Clock,
    cart.mapper.clock? = some clock ∧ clock.Counted cart.now counted ∧
      (cart.perform operation).mapper.clock? = some { counted with latched := counted.time } ∧
      ∀ register, (cart.perform operation).visible register = counted.time.read register
  /-- They are the same for as long as there is no latch, whatever is stored meanwhile. -/
  steady : ∀ operations, quiet past operations = true →
    ∀ register, (cart.after operations).visible register = cart.visible register
  /-- A store into a register counts the time up to then, and puts its bits into the counters.  It changes
  nothing that another register shows of them, and of the fraction of a second only that of the seconds. -/
  written : ∀ address value register, (lastStores past).register? kind = some register →
    ∃ (clock counted : Clock) (set : Calendar),
      cart.mapper.clock? = some clock ∧ clock.Counted cart.now counted ∧
      (cart.writeRam address value).mapper.clock? = some { counted with
        time := set
        fraction := if register = .seconds then 0 else counted.fraction } ∧
      set.InRange ∧
      ∀ other, set.read other = if other = register then value &&& register.mask else counted.time.read other
  /-- Nothing else reaches the clock. -/
  untouched : ∀ operation, latches past operation = false →
    operation.written? kind (lastStores past) = none →
    (cart.perform operation).mapper.clock? = cart.mapper.clock?
  /-- What has been stored into a register is seen after a latch in the same instant. -/
  readsBack : ∀ address value register, (lastStores past).register? kind = some register →
    ∀ between, (∀ operation ∈ between, operation.atOnce = true) →
    ∀ last, latches (between ++ .store address value :: past) last = true →
      (cart.after (last :: between ++ [.store address value])).visible register = value &&& register.mask

section
variable {cart : Cartridge} {kind : Kind} {past : List Operation} {clock : Clock}

theorem after_append (cart : Cartridge) (later earlier : List Operation) :
    cart.after (later ++ earlier) = (cart.after earlier).after later := by
  induction later with
  | nil => rfl
  | cons last later ih => exact congrArg (·.perform last) ih

theorem now_writeRam (cart : Cartridge) (address : UInt16) (value : UInt8) :
    (cart.writeRam address value).now = cart.now := by
  rw [writeRam_eq]
  split <;> rfl

/-- The register that a store writes. -/
theorem met_store (address : UInt16) (value : UInt8) {register : ClockRegister}
    (selected : (lastStores past).register? kind = some register) (now : UInt64) :
    met kind past now clock (.store address value) = clock.write register value now := by
  rw [met, Operation.written?, selected]
  rfl

theorem Known.written (known : Known kind past cart clock) (address : UInt16) (value : UInt8)
    {register : ClockRegister} (selected : (lastStores past).register? kind = some register) :
    Known kind (.store address value :: past) (cart.writeRam address value)
      (clock.write register value cart.now) := by
  have stored := known.perform (.store address value)
  rwa [met_store address value selected] at stored

/-- **What is known is enough.** -/
theorem Known.latchesTime (known : Known kind past cart clock) : LatchesTime kind past cart where
  shown address register selected := by
    have shows : Shows _ kind address (cart.target address) := shows_of_follows known.follows address
    rcases shows.cell_or_none cart.ram.size with ⟨_, -, away, -⟩ | ⟨-, target⟩
    · rw [selected] at away
      cases away
    · rw [readRam, target, selected, visible_eq known.fitted]
      show cart.mapper.readClock register = _
      rw [Mapper.readClock, known.fitted]
  latched operation latching := by
    have step := (known.perform operation).fitted
    rw [met, if_pos latching] at step
    exact ⟨clock, clock.sync cart.now, known.fitted, Clock.counted_sync known.inRange cart.now, step,
      fun register => visible_eq step register⟩
  steady operations still register := by
    obtain ⟨later, after, same⟩ := known.quiet still
    rw [visible_eq after.fitted, visible_eq known.fitted, Clock.read, same, Clock.read]
  written address value register selected := by
    have counted := Clock.counted_sync known.inRange cart.now
    have stored := (known.written address value selected).fitted
    refine ⟨clock, clock.sync cart.now, _, known.fitted, counted, stored,
      counted.inRange.time.write register value, fun other => ?_⟩
    by_cases same : other = register
    · rw [if_pos same, same, Calendar.read_write_self]
    · rw [if_neg same, Calendar.read_write_of_ne _ _ same]
  untouched operation unlatched unwritten := by
    rw [(known.perform operation).fitted, met, unwritten, if_neg (by simp [unlatched]), known.fitted]
  readsBack address value register selected between atOnce last latching := by
    have stored := known.written address value selected
    have current : (clock.write register value cart.now).synced = (cart.writeRam address value).now :=
      (clock.synced_sync cart.now).trans (cart.now_writeRam address value).symm
    -- Between the store and the last latch the counters have not moved.
    obtain ⟨later, between', time, synced⟩ := stored.instant current atOnce
    have step := (between'.perform last).fitted
    rw [met, if_pos latching, ← synced, Clock.latch, between'.inRange.sync_synced, time] at step
    rw [List.cons_append, after, after_append]
    exact (visible_eq step register).trans (Calendar.read_write_self ..)

end

/-- **The clock of a cartridge is seen through its latch**, whatever has been done with the cartridge. -/
theorem latches_time {image : ByteArray} {now : UInt64} {cart : Cartridge}
    (accepted : ofImage image now = .ok cart) (third : cart.header.kind.controller = .mbc3)
    (timed : cart.header.kind.clock = true) (past : List Operation) :
    LatchesTime cart.header.kind past (cart.after past) := by
  obtain ⟨clock, known⟩ := (new_of_ofImage accepted).known third timed past
  exact known.latchesTime

/-- The halt switch, the carry and the high bit of the days, stored and latched in one instant, with a store
into another register of the controller between the zero and the one. -/
theorem latches_time_of_control :
    ∃ cart, ofImage (marked 0x0F 0x00 0x8000) 0 = .ok cart ∧ cart.header.kind.controller = .mbc3 ∧
      cart.header.kind.clock = true ∧
      ((cart.after [.elapse 86400000000001, .select 0x4000 0x0C, .select 0x0000 0x0A]).after
        [.select 0x6000 0x01, .select 0x2000 0x12, .select 0x7FFF 0x00, .store 0xA000 0xFF]).visible .control =
          0xC1 := by
  obtain ⟨cart, accepted, kind, -⟩ := exists_marked 0 (by decide : Header.limit ≤ 0x8000)
    (rfl : Kind.ofCode? 0x0F = _) (by decide) (rfl : Header.ramSize? 0x00 = _)
  have third : cart.header.kind.controller = .mbc3 := by rw [kind]
  have timed : cart.header.kind.clock = true := by rw [kind]
  have latches := latches_time accepted third timed
    [.elapse 86400000000001, .select 0x4000 0x0C, .select 0x0000 0x0A]
  refine ⟨cart, accepted, third, timed, ?_⟩
  rw [kind] at latches
  exact latches.readsBack 0xA000 0xFF .control (by decide) [.select 0x2000 0x12, .select 0x7FFF 0x00]
    (by decide) (.select 0x6000 0x01) (by decide)

end Cartridge
end DotMatrix
