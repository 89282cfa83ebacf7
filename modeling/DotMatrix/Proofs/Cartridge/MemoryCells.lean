import DotMatrix.Proofs.Cartridge.Registers
import DotMatrix.Proofs.Memory.Banked

/-! # Cells of the memory

An address of the memory window selects a cell of the memory, or none (`Stores.cell?`).  Which one is
decided by the registers of the controller alone, and reading and storing select the same one
(`readRam_of_follows`, `ram_writeRam_of_follows`).  A store changes that cell and no other, and apart from
loading nothing else changes the memory, so a cell holds what was stored in it last (`New.read_after`).
-/
namespace DotMatrix
namespace Cartridge

/-! ## Selecting a cell -/

namespace Stores
variable (stores : Stores) (kind : Kind)

/-- The memory bank that shows, if any; a selector beyond the four banks of the third controller stands
for something else. -/
def ramBank? : Option Nat :=
  match kind.controller with
  | .plain | .mbc2 => some 0
  | .mbc1 => some (if stores.advanced then stores.upper else 0)
  | .mbc3 => if stores.selector < 4 then some stores.selector else none
  | .mbc5 => some (stores.ramBank kind.rumble)

/-- Whether the memory window is open: without a controller nothing locks it. -/
def opened : Bool := kind.controller == .plain || stores.unlocked kind.controller

/-- The cells of a bank; the second controller has one bank, and that is a small one. -/
def bankSize (controller : Controller) : Nat := if controller = .mbc2 then 0x200 else 0x2000

/-- The cell that an address selects in a memory of `size` cells. -/
def cell? (size : Nat) (address : UInt16) : Option Nat :=
  if stores.opened kind ∧ 0 < size then
    (stores.ramBank? kind).map fun bank =>
      (bank * 0x2000 + address.toNat % bankSize kind.controller) % size
  else none

/-- The register of the clock that shows in the memory window, if any. -/
def register? : Option ClockRegister :=
  if kind.controller = .mbc3 ∧ kind.clock ∧ stores.opened kind then
    ClockRegister.ofNumber? stores.selector
  else none

end Stores

/-- What a cell keeps of a value: the cells of the second controller have four bits. -/
def kept (controller : Controller) (value : UInt8) : UInt8 :=
  if controller = .mbc2 then value &&& 0x0F else value

/-- What is read of the content of a cell. -/
def shown (controller : Controller) (content : UInt8) : UInt8 :=
  if controller = .mbc2 then 0xF0 ||| (content &&& 0x0F) else content

/-- **What the memory window shows**, by the registers. -/
inductive Shows (stores : Stores) (kind : Kind) (address : UInt16) : Target → Prop where
  | locked (locked : stores.opened kind = false) : Shows stores kind address .nothing
  | byte {bank : Nat} (opened : stores.opened kind = true) (whole : kind.controller ≠ .mbc2)
      (selected : stores.ramBank? kind = some bank) :
      Shows stores kind address (.byte (bank * 0x2000 + address.toNat % 0x2000))
  | nibble (opened : stores.opened kind = true) (small : kind.controller = .mbc2) :
      Shows stores kind address (.nibble (address.toNat % 0x200))
  | clock {register : ClockRegister} (away : stores.ramBank? kind = none)
      (found : stores.register? kind = some register) : Shows stores kind address (.clock register)
  | beyond (away : stores.ramBank? kind = none) (none : stores.register? kind = none) :
      Shows stores kind address .nothing

section Shows
variable {kind : Kind} {stores : Stores} {address : UInt16}

/-- Behind a lock there is something to be seen only while it is open. -/
theorem Shows.behind_lock {free : Bool} {target : Target} (opened : stores.opened kind = free)
    (h : stores.opened kind = true → Shows stores kind address target) :
    Shows stores kind address (if free then target else .nothing) := by
  cases free with
  | false => exact .locked opened
  | true => exact h opened

/-- **Each controller shows what its registers say.** -/
theorem shows_of_follows {mapper : Mapper} (h : mapper.Follows kind stores) (address : UInt16) :
    Shows stores kind address (mapper.target (address.toNat % 0x2000)) := by
  cases mapper with
  | plain =>
    have controller : kind.controller = .plain := h
    have opened : stores.opened kind = true := by rw [Stores.opened, controller]; rfl
    have bank : stores.ramBank? kind = some 0 := by rw [Stores.ramBank?, controller]
    have byte : Shows stores kind address (.byte (0 * 0x2000 + address.toNat % 0x2000)) :=
      .byte opened (by rw [controller]; decide) bank
    rwa [Nat.zero_mul, Nat.zero_add] at byte
  | mbc1 chip =>
    obtain ⟨controller, unlocked, -, upper, advanced⟩ := h
    refine Shows.behind_lock (by rw [Stores.opened, controller, unlocked]; rfl) fun opened => ?_
    refine .byte opened (by rw [controller]; decide) ?_
    rw [Stores.ramBank?, controller, Mbc1.ramBank, upper, advanced]
  | mbc2 chip =>
    obtain ⟨controller, unlocked, -⟩ := h
    refine Shows.behind_lock (by rw [Stores.opened, controller, unlocked]; rfl) fun opened => ?_
    rw [Nat.mod_mod_of_dvd _ (by decide : 0x200 ∣ 0x2000)]
    exact .nibble opened controller
  | mbc3 chip =>
    obtain ⟨controller, unlocked, -, selector, clock⟩ := h
    refine Shows.behind_lock (by rw [Stores.opened, controller, unlocked]; rfl) fun opened => ?_
    rw [Mbc3.target, selector, clock]
    by_cases within : stores.selector < 4
    · rw [if_pos within]
      refine .byte opened (by rw [controller]; decide) ?_
      rw [Stores.ramBank?, controller]
      exact if_pos within
    · have away : stores.ramBank? kind = none := by
        rw [Stores.ramBank?, controller]
        exact if_neg within
      rw [if_neg within]
      cases timed : kind.clock with
      | false =>
        refine .beyond away ?_
        rw [Stores.register?, timed]
        exact if_neg fun h => Bool.false_ne_true h.2.1
      | true =>
        have register : stores.register? kind = ClockRegister.ofNumber? stores.selector :=
          if_pos ⟨controller, timed, opened⟩
        rw [if_pos rfl]
        cases found : ClockRegister.ofNumber? stores.selector with
        | some number => exact .clock away (register.trans found)
        | none => exact .beyond away (register.trans found)
  | mbc5 chip =>
    obtain ⟨controller, unlocked, -, ramBank, -⟩ := h
    refine Shows.behind_lock (by rw [Stores.opened, controller, unlocked]; rfl) fun opened => ?_
    refine .byte opened (by rw [controller]; decide) ?_
    rw [Stores.ramBank?, controller, ramBank]

theorem ofNumber?_of_lt {number : Nat} (bank : number < 4) :
    ClockRegister.ofNumber? number = none := by
  match number, bank with
  | 0, _ | 1, _ | 2, _ | 3, _ => rfl

/-- Where a bank of the memory shows, no register of the clock does. -/
theorem register?_of_ramBank? {bank : Nat} (selected : stores.ramBank? kind = some bank) :
    stores.register? kind = none := by
  refine ite_eq_right_iff.mpr ?_
  rintro ⟨controller, -, -⟩
  rw [Stores.ramBank?, controller] at selected
  exact ofNumber?_of_lt (Option.ite_none_right_eq_some.mp selected).1

theorem register?_of_locked (locked : stores.opened kind = false) : stores.register? kind = none :=
  if_neg fun h => Bool.false_ne_true (locked.symm.trans h.2.2)

variable {size : Nat}

theorem cell?_of_locked (locked : stores.opened kind = false) :
    stores.cell? kind size address = none :=
  if_neg fun h => Bool.false_ne_true (locked.symm.trans h.1)

theorem cell?_of_away (away : stores.ramBank? kind = none) :
    stores.cell? kind size address = none := by
  rw [Stores.cell?, away]
  exact ite_self none

theorem cell?_of_bank {bank : Nat} (opened : stores.opened kind = true)
    (selected : stores.ramBank? kind = some bank) :
    stores.cell? kind size address = if 0 < size then
      some ((bank * 0x2000 + address.toNat % Stores.bankSize kind.controller) % size) else none := by
  rw [Stores.cell?, selected]
  by_cases filled : 0 < size
  · rw [if_pos ⟨opened, filled⟩, if_pos filled]
    rfl
  · rw [if_neg (fun h => filled h.2), if_neg filled]

theorem lt_of_cell? {cell : Nat} (selected : stores.cell? kind size address = some cell) :
    cell < size := by
  obtain ⟨⟨-, filled⟩, selected⟩ := Option.ite_none_right_eq_some.mp selected
  obtain ⟨bank, -, rfl⟩ := Option.map_eq_some_iff.mp selected
  exact Nat.mod_lt _ filled

/-- **What shows is a cell or no cell**: behind an offset into the memory is the cell that is selected, and
otherwise there is at most a register of the clock. -/
theorem Shows.cell_or_none {target : Target} (shows : Shows stores kind address target) (size : Nat) :
    (∃ offset, target = (if kind.controller = .mbc2 then .nibble offset else .byte offset) ∧
      stores.register? kind = none ∧
      stores.cell? kind size address = if 0 < size then some (offset % size) else none) ∨
    (stores.cell? kind size address = none ∧
      target = match stores.register? kind with
        | some register => .clock register
        | none => .nothing) := by
  cases shows with
  | locked locked =>
    refine .inr ⟨cell?_of_locked locked, ?_⟩
    rw [register?_of_locked locked]
  | byte opened whole selected =>
    refine .inl ⟨_, (if_neg whole).symm, register?_of_ramBank? selected, ?_⟩
    rw [cell?_of_bank opened selected, Stores.bankSize, if_neg whole]
  | nibble opened small =>
    have selected : stores.ramBank? kind = some 0 := by rw [Stores.ramBank?, small]
    refine .inl ⟨_, (if_pos small).symm, register?_of_ramBank? selected, ?_⟩
    rw [cell?_of_bank opened selected, Stores.bankSize, if_pos small, Nat.zero_mul, Nat.zero_add]
  | clock away found =>
    refine .inr ⟨cell?_of_away away, ?_⟩
    rw [found]
  | beyond away none =>
    refine .inr ⟨cell?_of_away away, ?_⟩
    rw [none]

/-- A cartridge with a clock has one at all times. -/
theorem exists_clock_of_follows {mapper : Mapper} (h : mapper.Follows kind stores)
    (third : kind.controller = .mbc3) (timed : kind.clock = true) :
    ∃ clock, mapper.clock? = some clock := by
  cases mapper with
  | mbc3 chip =>
    have fitted := h.2.clock
    rw [timed] at fitted
    exact Option.isSome_iff_exists.mp fitted
  | plain =>
    rw [show kind.controller = .plain from h] at third
    cases third
  | mbc1 | mbc2 | mbc5 =>
    rw [h.1] at third
    cases third

end Shows

/-! ## Reading and storing -/

section Access
variable {cart : Cartridge} {kind : Kind} {stores : Stores}

/-- An open bus reads as ones, whatever the cells keep. -/
theorem shown_open (controller : Controller) : shown controller 0xFF = 0xFF := by
  unfold shown
  split
  · decide
  · rfl

/-- **Reading** shows the selected cell, or else the register of the clock that is selected, or else an
open bus. -/
theorem readRam_of_follows (h : cart.mapper.Follows kind stores) (address : UInt16) :
    cart.readRam address = match stores.cell? kind cart.ram.size address with
      | some cell => shown kind.controller (cart.ram.read cell)
      | none => match stores.register? kind with
        | some register => cart.mapper.readClock register
        | none => 0xFF := by
  have shows : Shows stores kind address (cart.target address) := shows_of_follows h address
  rcases shows.cell_or_none cart.ram.size with ⟨offset, target, away, selected⟩ | ⟨none, target⟩
  · have seen : cart.readRam address = shown kind.controller (cart.ram.read offset) := by
      rw [readRam, target, shown]
      by_cases small : kind.controller = .mbc2
      · rw [if_pos small, if_pos small]
      · rw [if_neg small, if_neg small]
    rw [seen, selected, away]
    by_cases filled : 0 < cart.ram.size
    · rw [if_pos filled, ← Banked.read_mod]
    · rw [if_neg filled, Banked.read_of_empty (Nat.eq_zero_of_not_pos filled), shown_open]
  · rw [readRam, target, none]
    cases stores.register? kind with
    | none => rfl
    | some register => rfl

/-- **Storing** writes the selected cell, if there is one, and leaves the memory alone otherwise. -/
theorem ram_writeRam_of_follows (h : cart.mapper.Follows kind stores) (address : UInt16)
    (value : UInt8) :
    (cart.writeRam address value).ram = match stores.cell? kind cart.ram.size address with
      | some cell => cart.ram.write cell (kept kind.controller value)
      | none => cart.ram := by
  have shows : Shows stores kind address (cart.target address) := shows_of_follows h address
  rcases shows.cell_or_none cart.ram.size with ⟨offset, target, -, selected⟩ | ⟨none, target⟩
  · have stored : (cart.writeRam address value).ram =
        cart.ram.write offset (kept kind.controller value) := by
      rw [writeRam_eq, target, kept]
      by_cases small : kind.controller = .mbc2
      · rw [if_pos small, if_pos small]
      · rw [if_neg small, if_neg small]
    rw [stored, selected]
    by_cases filled : 0 < cart.ram.size
    · rw [if_pos filled, ← Banked.write_mod]
    · rw [if_neg filled, Banked.write_of_empty (Nat.eq_zero_of_not_pos filled)]
  · rw [writeRam_eq, target, none]
    cases stores.register? kind with
    | none => rfl
    | some register => rfl

end Access

/-! ## What a cell holds -/

/-- What an operation puts into a cell, if anything; `stores` is what was stored before. -/
def Operation.put? (kind : Kind) (size : Nat) (stores : Stores) (cell : Nat) :
    Operation → Option UInt8
  | .store address value =>
    if stores.cell? kind size address = some cell then some (kept kind.controller value) else none
  | .load saved => saved[cell]?
  | _ => none

/-- What was put into a cell last, and zero before anything was. -/
def held (kind : Kind) (size cell : Nat) : List Operation → UInt8
  | [] => 0
  | last :: earlier =>
    (last.put? kind size (lastStores earlier) cell).getD (held kind size cell earlier)

variable {cart : Cartridge}

theorem size_perform (cart : Cartridge) (operation : Operation) :
    (cart.perform operation).ram.size = cart.ram.size := by
  cases operation with
  | load saved => exact cart.ram.size_load saved
  | store address value =>
    show (cart.writeRam address value).ram.size = cart.ram.size
    rw [writeRam_eq]
    cases cart.target address with
    | byte | nibble => exact cart.ram.size_write ..
    | nothing | clock => rfl
  | select | read | elapse => rfl

/-- The memory after one more operation. -/
theorem read_perform {kind : Kind} {past : List Operation}
    (h : cart.mapper.Follows kind (lastStores past)) (operation : Operation) {cell : Nat}
    (inside : cell < cart.ram.size) :
    (cart.perform operation).ram.read cell =
      (operation.put? kind cart.ram.size (lastStores past) cell).getD (cart.ram.read cell) := by
  cases operation with
  | load saved => exact Banked.read_load saved inside
  | store address value =>
    show (cart.writeRam address value).ram.read cell = Option.getD (if _ then _ else _) _
    rw [ram_writeRam_of_follows h]
    cases selected : (lastStores past).cell? kind cart.ram.size address with
    | none => rfl
    | some other =>
      show (cart.ram.write other _).read cell = _
      rw [Banked.read_write other _ inside, Nat.mod_eq_of_lt (lt_of_cell? selected)]
      by_cases same : other = cell
      · rw [if_pos same, if_pos (congrArg some same)]
        rfl
      · rw [if_neg same, if_neg fun equal => same (Option.some.inj equal)]
        rfl
  | select | read | elapse => rfl

variable {image : ByteArray}

theorem New.size_after (new : New image cart) (past : List Operation) :
    (cart.after past).ram.size = cart.header.fittedRam := by
  induction past with
  | nil =>
    rw [after, new.ram]
    exact Banked.size_zeroed _
  | cons last earlier ih => exact (size_perform _ last).trans ih

/-- **A cell holds what was put into it last.** -/
theorem New.read_after (new : New image cart) (past : List Operation) {cell : Nat}
    (inside : cell < cart.header.fittedRam) :
    (cart.after past).ram.read cell = held cart.header.kind cart.header.fittedRam cell past := by
  induction past with
  | nil =>
    rw [after, new.ram]
    exact Banked.read_zeroed inside
  | cons last earlier ih =>
    have size := new.size_after earlier
    rw [after, read_perform (new.follows earlier) last (by rwa [size]), size, ih]
    rfl

/-! ## Keeping the memory -/

/-- **How the memory of a cartridge is kept**, after some operations: `size` cells, of which each access
meets at most one. -/
structure KeepsMemory (kind : Kind) (size : Nat) (past : List Operation) (cart : Cartridge) :
    Prop where
  /-- There are as many cells as at first. -/
  cells : cart.ram.size = size
  /-- Each holds what was put into it last. -/
  content : ∀ cell < size, cart.ram.read cell = held kind size cell past
  /-- A store into the program window changes none. -/
  select : ∀ address value, (cart.writeRom address value).ram = cart.ram
  /-- A store into the memory window changes the selected one and no other. -/
  store : ∀ address value, ∀ cell < size, (cart.writeRam address value).ram.read cell =
    if (lastStores past).cell? kind size address = some cell then kept kind.controller value
    else cart.ram.read cell
  /-- Reading shows what the selected one holds. -/
  shown : ∀ address cell, (lastStores past).cell? kind size address = some cell →
    cart.readRam address = shown kind.controller (held kind size cell past)
  /-- Where none is selected, and no register of a clock, reading shows an open bus. -/
  hidden : ∀ address, (lastStores past).cell? kind size address = none →
    (lastStores past).register? kind = none → cart.readRam address = 0xFF
  /-- Reading shows the latched copy of a selected register of the clock. -/
  timed : ∀ address register, (lastStores past).register? kind = some register →
    ∃ clock, cart.mapper.clock? = some clock ∧ cart.readRam address = clock.read register

/-- **Memory is kept**, whatever is done with a cartridge. -/
theorem memory_kept {now : UInt64} (accepted : ofImage image now = .ok cart)
    (past : List Operation) :
    KeepsMemory cart.header.kind cart.header.fittedRam past (cart.after past) := by
  have new := new_of_ofImage accepted
  have follows := new.follows past
  have size := new.size_after past
  have reads := readRam_of_follows follows
  rw [size] at reads
  refine ⟨size, fun cell inside => new.read_after past inside, fun _ _ => rfl, ?_, ?_, ?_, ?_⟩
  · intro address value cell inside
    have stored := read_perform follows (.store address value) (by rwa [size])
    rw [size] at stored
    refine stored.trans ?_
    rw [Operation.put?]
    split <;> rfl
  · intro address cell selected
    rw [reads, selected, ← new.read_after past (lt_of_cell? selected)]
  · intro address unselected away
    rw [reads, unselected, away]
  · intro address register found
    obtain ⟨⟨controller, timed, -⟩, -⟩ := Option.ite_none_right_eq_some.mp found
    have away : (lastStores past).ramBank? cart.header.kind = none := by
      refine Option.eq_none_iff_forall_ne_some.mpr fun bank selected => ?_
      rw [register?_of_ramBank? selected] at found
      cases found
    rw [reads, cell?_of_away away, found]
    obtain ⟨clock, fitted⟩ := exists_clock_of_follows follows controller timed
    refine ⟨clock, fitted, ?_⟩
    show Mapper.readClock _ register = clock.read register
    rw [Mapper.readClock, fitted]

/-- A byte in the last bank of a cartridge with a motor: the motor is no part of the bank, another bank is
another byte, and a store through the lock is lost. -/
theorem memory_kept_in_last_bank :
    ∃ cart, ofImage (marked 0x1D 0x03 0x8000) 0 = .ok cart ∧
      (cart.after [.select 0x0000 0x0A, .store 0xA123 0xFF, .select 0x0000 0x00, .select 0x4000 0x03,
        .store 0xA123 0x07, .select 0x4000 0x02, .store 0xA123 0x42, .select 0x4000 0x0B,
        .select 0x0000 0x0A]).readRam 0xA123 = 0x42 := by
  obtain ⟨cart, accepted, kind, ram⟩ := exists_marked 0 (by decide : Header.limit ≤ 0x8000)
    (rfl : Kind.ofCode? 0x1D = _) (by decide) (rfl : Header.ramSize? 0x03 = _)
  refine ⟨cart, accepted, ?_⟩
  have keeps := memory_kept accepted [.select 0x0000 0x0A, .store 0xA123 0xFF, .select 0x0000 0x00,
    .select 0x4000 0x03, .store 0xA123 0x07, .select 0x4000 0x02, .store 0xA123 0x42,
    .select 0x4000 0x0B, .select 0x0000 0x0A]
  have cells : cart.header.fittedRam = 0x8000 := by
    rw [Header.fittedRam, kind, ram]
    rfl
  rw [kind, cells] at keeps
  exact (keeps.shown 0xA123 0x6123 (by decide)).trans (by decide)

end Cartridge
end DotMatrix
