import DotMatrix.Serial

/-! # Transfers

A call that lets time pass shifts in at once all the bits that come in meanwhile.  `tick` says what the port
does in a single T-cycle, and a call does what its T-cycles do (`advance_eq_collect`), because two calls in
a row do what one call does that takes as long as both (`advance_add`).  So nothing depends on how time is
cut into calls, and a transfer follows from the T-cycles since it was started (`Sending`): one step keeps
this, and with it any number of uses of the port that leave the control register alone.
-/
namespace DotMatrix
namespace Serial

/-! ## Shifting -/

theorem shiftIn_add (first second : Nat) (byte : UInt8) :
    shiftIn (first + second) byte = shiftIn second (shiftIn first byte) := by
  induction first generalizing byte with
  | zero => rw [Nat.zero_add]; rfl
  | succ first ih =>
    rw [Nat.succ_add]
    exact ih (byte <<< 1 ||| 1)

/-- A shift puts a one at the bottom and every other bit one place up. -/
theorem hasBit_shift (byte : UInt8) (bit : Fin 8) :
    hasBit (byte <<< 1 ||| 1) bit = (decide (bit.val < 1) || hasBit byte (bit - 1)) := by
  revert byte bit
  exact forall_byte (by decide +kernel)

/-- **The bits after some shifts**: ones from below, and above them what there was. -/
theorem hasBit_shiftIn (count : Nat) (byte : UInt8) {bit : Nat} (inside : bit < 8) :
    hasBit (shiftIn count byte) bit = (decide (bit < count) || hasBit byte (bit - count)) := by
  induction count generalizing byte with
  | zero => rfl
  | succ count ih =>
    have first := hasBit_shift byte ⟨bit - count, by omega⟩
    rw [shiftIn, ih, first, ← Bool.or_assoc, ← Bool.decide_or, Nat.sub_sub]
    have either : (bit < count ∨ bit - count < 1) ↔ bit < count + 1 := by omega
    rw [decide_eq_decide.mpr either]

/-- Eight shifts leave nothing of a byte. -/
theorem shiftIn_eight (byte : UInt8) : shiftIn 8 byte = 0xFF := by
  revert byte
  exact forall_byte (by decide +kernel)

/-- After eight shifts any more change nothing. -/
theorem shiftIn_min (count : Nat) (byte : UInt8) : shiftIn (min 8 count) byte = shiftIn count byte := by
  have ones (more : Nat) : shiftIn more 0xFF = 0xFF := by
    induction more with
    | zero => rfl
    | succ more ih => exact ih
  by_cases few : count ≤ 8
  · rw [Nat.min_eq_right few]
  · obtain ⟨more, rfl⟩ := Nat.exists_eq_add_of_le (Nat.le_of_not_le few)
    rw [Nat.min_eq_left (Nat.le_add_right 8 more), shiftIn_add, shiftIn_eight, ones]

/-! ## Time -/

/-- **Several T-cycles**, whether a transfer runs or not, and whether it becomes complete in them. -/
theorem advance_eq (serial : Serial) (cycles : Nat) : serial.advance cycles =
    ({ serial with
        data := shiftIn (bitsLeft serial.remaining - bitsLeft (serial.remaining - cycles)) serial.data
        remaining := serial.remaining - cycles
        control := if 0 < serial.remaining ∧ serial.remaining ≤ cycles then serial.control &&& 0x7F
          else serial.control },
      if 0 < serial.remaining ∧ serial.remaining ≤ cycles then [.serial] else []) := by
  unfold advance
  split
  · rename_i rest
    rw [if_neg (by omega), if_neg (by omega), rest, Nat.zero_sub, Nat.sub_self]
    obtain ⟨data, control, remaining, output⟩ := serial
    obtain rfl : remaining = 0 := rest
    rfl
  · dsimp only
    split
    · rename_i runs complete
      rw [if_pos (by omega), if_pos (by omega), complete]
    · rename_i runs unfinished
      rw [if_neg (by omega), if_neg (by omega)]

/-- **Two calls in a row** do what one call does that takes as long as both. -/
theorem advance_add (serial : Serial) (first second : Nat) : serial.advance (first + second) =
    (((serial.advance first).1.advance second).1,
      (serial.advance first).2 ++ ((serial.advance first).1.advance second).2) := by
  have shifts : bitsLeft serial.remaining - bitsLeft (serial.remaining - (first + second)) =
      bitsLeft serial.remaining - bitsLeft (serial.remaining - first) +
        (bitsLeft (serial.remaining - first) - bitsLeft (serial.remaining - first - second)) := by
    unfold bitsLeft cyclesPerBit
    omega
  rw [advance_eq serial first, advance_eq _ second, advance_eq serial (first + second), shifts,
    shiftIn_add, Nat.sub_sub]
  -- The transfer becomes complete in the first call, or in the second, or in neither.
  dsimp only
  by_cases early : 0 < serial.remaining ∧ serial.remaining ≤ first
  · rw [if_pos early, if_pos early, if_pos (by omega), if_pos (by omega), if_neg (by omega),
      if_neg (by omega)]
    rfl
  · rw [if_neg early, if_neg early]
    by_cases late : 0 < serial.remaining - first ∧ serial.remaining - first ≤ second
    · rw [if_pos late, if_pos late, if_pos (by omega), if_pos (by omega)]
      rfl
    · rw [if_neg late, if_neg late, if_neg (by omega), if_neg (by omega)]
      rfl

/-- One T-cycle: with the last one of a bit a one is shifted in, and with the last one of all the transfer
is complete. -/
def tick (serial : Serial) : Serial × List Interrupt :=
  let left := serial.remaining - 1
  let shifted := serial.data <<< 1 ||| 1
  if serial.remaining = 0 then (serial, [])
  else if left = 0 then
    ({ serial with data := shifted, control := serial.control &&& 0x7F, remaining := 0 }, [.serial])
  else if left % cyclesPerBit = 0 then ({ serial with data := shifted, remaining := left }, [])
  else ({ serial with remaining := left }, [])

/-- The bit that a T-cycle completes, if it completes one. -/
theorem bitsLeft_sub_one (remaining : Nat) : bitsLeft remaining - bitsLeft (remaining - 1) =
    if 0 < remaining ∧ (remaining - 1) % cyclesPerBit = 0 then 1 else 0 := by
  unfold bitsLeft cyclesPerBit
  split <;> omega

theorem tick_eq (serial : Serial) : serial.tick = serial.advance 1 := by
  by_cases rest : serial.remaining = 0
  · have still : serial.advance 1 = (serial, []) := if_pos rest
    rw [still]
    exact if_pos rest
  · rw [advance_eq, bitsLeft_sub_one]
    unfold tick
    dsimp only
    rw [if_neg rest]
    by_cases last : serial.remaining - 1 = 0
    · have due : 0 < serial.remaining ∧ serial.remaining ≤ 1 := by omega
      have bit : 0 < serial.remaining ∧ (serial.remaining - 1) % cyclesPerBit = 0 := by
        rw [last]
        exact ⟨due.1, rfl⟩
      rw [if_pos last, if_pos due, if_pos due, if_pos bit, last]
      rfl
    · have undue : ¬ (0 < serial.remaining ∧ serial.remaining ≤ 1) := by omega
      rw [if_neg last, if_neg undue, if_neg undue]
      by_cases full : (serial.remaining - 1) % cyclesPerBit = 0
      · rw [if_pos full, if_pos ⟨by omega, full⟩]
        rfl
      · rw [if_neg full, if_neg fun both => full both.2]
        rfl

theorem advance_zero (serial : Serial) : serial.advance 0 = (serial, []) := by
  rw [advance_eq, Nat.sub_zero, Nat.sub_self]
  have undue : ¬ (0 < serial.remaining ∧ serial.remaining ≤ 0) := by omega
  rw [if_neg undue, if_neg undue]
  rfl

/-- **A call does what its T-cycles do**, one after the other. -/
theorem advance_eq_collect (serial : Serial) (cycles : Nat) :
    serial.advance cycles = Interrupt.collect tick cycles serial := by
  induction cycles generalizing serial with
  | zero => exact serial.advance_zero
  | succ cycles ih => rw [Interrupt.collect_succ, tick_eq, ← ih, Nat.add_comm, advance_add]

/-! ## Uses -/

/-- What can be done to a port. -/
inductive Use where
  /-- A call that lets so many T-cycles pass. -/
  | pass (cycles : Nat)
  | write (address : UInt16) (value : UInt8)
  deriving DecidableEq

/-- The port after a use, and what the use asks for. -/
def Use.perform : Use → Serial → Serial × List Interrupt
  | pass cycles, serial => serial.advance cycles
  | write address value, serial => (serial.write address value, [])

/-- The T-cycles that a use takes. -/
def Use.cycles : Use → Nat
  | pass cycles => cycles
  | write _ _ => 0

/-- The T-cycles that some uses take. -/
def elapsed : List Use → Nat
  | [] => 0
  | use :: uses => use.cycles + elapsed uses

/-- Several uses in a row, and all interrupts asked for by them, in order. -/
def drive : List Use → Serial → Serial × List Interrupt
  | [], serial => (serial, [])
  | use :: uses, serial =>
    ((drive uses (use.perform serial).1).1,
      (use.perform serial).2 ++ (drive uses (use.perform serial).1).2)

theorem drive_append (first second : List Use) (serial : Serial) :
    drive (first ++ second) serial = ((drive second (drive first serial).1).1,
      (drive first serial).2 ++ (drive second (drive first serial).1).2) := by
  induction first generalizing serial with
  | nil => rfl
  | cons use uses ih => rw [List.cons_append, drive, drive, ih, List.append_assoc]

/-! ## Cutting time into calls -/

/-- The same use with every T-cycle a call of its own. -/
def Use.singly : Use → List Use
  | pass cycles => List.replicate cycles (pass 1)
  | write address value => [write address value]

/-- The same uses with every T-cycle a call of its own. -/
def singly (uses : List Use) : List Use := uses.flatMap Use.singly

theorem drive_replicate (cycles : Nat) (serial : Serial) :
    drive (List.replicate cycles (.pass 1)) serial = serial.advance cycles := by
  induction cycles generalizing serial with
  | zero => exact serial.advance_zero.symm
  | succ cycles ih =>
    rw [Nat.add_comm, advance_add, ← ih, Nat.add_comm, List.replicate_succ]
    rfl

theorem drive_singly (uses : List Use) (serial : Serial) : drive (singly uses) serial = drive uses serial := by
  induction uses generalizing serial with
  | nil => rfl
  | cons use uses ih =>
    have same : drive use.singly serial = use.perform serial := by
      cases use with
      | pass cycles => exact drive_replicate cycles serial
      | write address value => rfl
    show drive (use.singly ++ singly uses) serial = drive (use :: uses) serial
    rw [drive_append, same, ih]
    rfl

/-! ## What is sent -/

/-- A value of the control register that starts a transfer has both its bits. -/
def starts (value : UInt8) : Bool := value &&& 0x81 == 0x81

theorem setControl_of_starts {serial : Serial} {value : UInt8} (start : starts value = true) :
    serial.setControl value = { serial with
      control := 0x81
      remaining := 4096
      output := serial.output.push serial.data } := by
  unfold setControl
  rw [eq_of_beq start]
  rfl

theorem setControl_of_not_starts {serial : Serial} {value : UInt8} (other : starts value = false) :
    serial.setControl value = { serial with control := value &&& 0x81, remaining := 0 } := by
  have unlike : ¬ (value &&& 0x81 == 0x81) = true := Bool.eq_false_iff.mp other
  exact if_neg unlike

theorem data_write_control (serial : Serial) (value : UInt8) :
    (serial.write 0xFF02 value).data = serial.data := by
  show (serial.setControl value).data = serial.data
  cases start : starts value with
  | true => rw [setControl_of_starts start]
  | false => rw [setControl_of_not_starts start]

/-- A store to another register reaches the data at most. -/
theorem exists_write_eq (serial : Serial) {address : UInt16} (elsewhere : address ≠ 0xFF02) (value : UInt8) :
    ∃ data, serial.write address value = { serial with data := data } ∧
      (address ≠ 0xFF01 → data = serial.data) := by
  unfold write
  split
  · exact ⟨value, rfl, fun other => absurd rfl other⟩
  · exact absurd rfl elsewhere
  · exact ⟨serial.data, rfl, fun _ => rfl⟩

/-- The byte that a use sends, if it starts a transfer. -/
def Use.sends : Use → Serial → List UInt8
  | write address value, serial =>
    if address = 0xFF02 ∧ starts value then [serial.read 0xFF01] else []
  | pass _, _ => []

/-- The bytes that some uses send: the data register at each start of a transfer. -/
def sent : List Use → Serial → List UInt8
  | [], _ => []
  | use :: uses, serial => use.sends serial ++ sent uses (use.perform serial).1

theorem output_perform (use : Use) (serial : Serial) :
    (use.perform serial).1.output.toList = serial.output.toList ++ use.sends serial := by
  cases use with
  | pass cycles =>
    show (serial.advance cycles).1.output.toList = serial.output.toList ++ []
    rw [advance_eq, List.append_nil]
  | write address value =>
    show (serial.write address value).output.toList = _
    by_cases control : address = 0xFF02
    · subst control
      show (serial.setControl value).output.toList = _
      cases start : starts value with
      | true =>
        rw [setControl_of_starts start, Use.sends, if_pos ⟨rfl, start⟩]
        exact Array.toList_push
      | false =>
        rw [setControl_of_not_starts start, Use.sends, if_neg (by simp [start]), List.append_nil]
    · obtain ⟨data, stored, -⟩ := serial.exists_write_eq control value
      rw [stored, Use.sends, if_neg fun both => control both.1, List.append_nil]

/-- **What is sent is kept**, and nothing else. -/
theorem output_drive (uses : List Use) (serial : Serial) :
    (drive uses serial).1.output.toList = serial.output.toList ++ sent uses serial := by
  induction uses generalizing serial with
  | nil => exact (List.append_nil _).symm
  | cons use uses ih => rw [drive, ih, output_perform, sent, List.append_assoc]

/-! ## A transfer -/

/-- A transfer was started so many T-cycles ago. -/
structure Sending (spent : Nat) (serial : Serial) : Prop where
  remaining : serial.remaining = 4096 - spent
  control : serial.control = if spent < 4096 then 0x81 else 0x01

namespace Sending
variable {spent : Nat} {serial : Serial}

theorem start {value : UInt8} (start : starts value = true) : Sending 0 (serial.write 0xFF02 value) := by
  show Sending 0 (serial.setControl value)
  rw [setControl_of_starts start]
  exact ⟨rfl, rfl⟩

theorem read_control (h : Sending spent serial) :
    serial.read 0xFF02 = if spent < 4096 then 0xFF else 0x7F := by
  show serial.control ||| 0x7E = _
  rw [h.control]
  split <;> rfl

theorem due_iff (h : Sending spent serial) (cycles : Nat) :
    0 < serial.remaining ∧ serial.remaining ≤ cycles ↔ spent < 4096 ∧ 4096 ≤ spent + cycles := by
  rw [h.remaining]
  omega

theorem advance (h : Sending spent serial) (cycles : Nat) :
    Sending (spent + cycles) (serial.advance cycles).1 ∧ (serial.advance cycles).2 =
      if spent < 4096 ∧ 4096 ≤ spent + cycles then [.serial] else [] := by
  have due := h.due_iff cycles
  rw [advance_eq]
  refine ⟨⟨?_, ?_⟩, ?_⟩
  · dsimp only
    rw [h.remaining, Nat.sub_sub]
  · dsimp only
    rw [h.control]
    by_cases completes : 0 < serial.remaining ∧ serial.remaining ≤ cycles
    · obtain ⟨runs, complete⟩ := due.mp completes
      rw [if_pos completes, if_pos runs, if_neg (Nat.not_lt.mpr complete)]
      rfl
    · rw [if_neg completes]
      rw [due] at completes
      by_cases runs : spent < 4096
      · rw [if_pos runs, if_pos (by omega)]
      · rw [if_neg runs, if_neg (by omega)]
  · simp only [due]

/-- **One use** that leaves the control register alone. -/
theorem perform (h : Sending spent serial) {use : Use} (kept : ∀ value, use ≠ .write 0xFF02 value) :
    Sending (spent + use.cycles) (use.perform serial).1 ∧ (use.perform serial).2 =
      if spent < 4096 ∧ 4096 ≤ spent + use.cycles then [.serial] else [] := by
  cases use with
  | pass cycles => exact h.advance cycles
  | write address value =>
    have elsewhere : address ≠ 0xFF02 := fun control => kept value (by rw [control])
    obtain ⟨data, stored, -⟩ := serial.exists_write_eq elsewhere value
    have quiet : ¬ (spent < 4096 ∧ 4096 ≤ spent + Use.cycles (.write address value)) := by
      rw [Use.cycles]
      omega
    rw [if_neg quiet]
    refine ⟨?_, rfl⟩
    show Sending spent (serial.write address value)
    rw [stored]
    exact ⟨h.remaining, h.control⟩

/-- **Any number of them**: the transfer becomes complete at one moment, and asks for one interrupt. -/
theorem drive (h : Sending spent serial) {uses : List Use} (kept : ∀ value, .write 0xFF02 value ∉ uses) :
    Sending (spent + elapsed uses) (drive uses serial).1 ∧ (Serial.drive uses serial).2 =
      if spent < 4096 ∧ 4096 ≤ spent + elapsed uses then [.serial] else [] := by
  induction uses generalizing spent serial with
  | nil =>
    refine ⟨h, (if_neg ?_).symm⟩
    rw [elapsed]
    omega
  | cons use uses ih =>
    obtain ⟨first, asked⟩ := h.perform fun value same => kept value (same ▸ List.mem_cons_self)
    obtain ⟨rest, later⟩ := ih first fun value member => kept value (List.mem_cons_of_mem use member)
    rw [Serial.drive, elapsed, ← Nat.add_assoc]
    refine ⟨rest, ?_⟩
    dsimp only
    rw [asked, later]
    by_cases early : spent < 4096 ∧ 4096 ≤ spent + use.cycles
    · rw [if_pos early, if_neg (by omega), if_pos (by omega)]
      rfl
    · rw [if_neg early, List.nil_append]
      congr 1
      exact propext (by omega)

/-- The bits that are left of a transfer, and those that came in. -/
theorem bitsLeft_eq (h : Sending spent serial) :
    bitsLeft serial.remaining = 8 - min 8 (spent / 512) := by
  rw [h.remaining]
  unfold bitsLeft cyclesPerBit
  omega

/-- The data register of a running transfer, if nothing is stored there. -/
theorem data_perform (h : Sending spent serial) {byte : UInt8}
    (shifted : serial.data = shiftIn (min 8 (spent / 512)) byte) {use : Use}
    (kept : ∀ value, use ≠ .write 0xFF02 value) (untouched : ∀ value, use ≠ .write 0xFF01 value) :
    (use.perform serial).1.data = shiftIn (min 8 ((spent + use.cycles) / 512)) byte := by
  cases use with
  | pass cycles =>
    have later := (h.advance cycles).1.bitsLeft_eq
    have steps : min 8 (spent / 512) + (bitsLeft serial.remaining - bitsLeft (serial.remaining - cycles)) =
        min 8 ((spent + cycles) / 512) := by
      rw [advance_eq] at later
      rw [later, h.bitsLeft_eq]
      omega
    show (serial.advance cycles).1.data = _
    rw [advance_eq]
    dsimp only
    rw [shifted, ← shiftIn_add, steps]
    rfl
  | write address value =>
    obtain ⟨data, stored, same⟩ :=
      serial.exists_write_eq (fun control => kept value (control ▸ rfl)) value
    show (serial.write address value).data = _
    rw [stored]
    exact (same fun there => untouched value (by rw [there])).trans shifted

theorem data_drive (h : Sending spent serial) {byte : UInt8}
    (shifted : serial.data = shiftIn (min 8 (spent / 512)) byte) {uses : List Use}
    (kept : ∀ value, .write 0xFF02 value ∉ uses) (untouched : ∀ value, .write 0xFF01 value ∉ uses) :
    (Serial.drive uses serial).1.data = shiftIn (min 8 ((spent + elapsed uses) / 512)) byte := by
  induction uses generalizing spent serial with
  | nil => exact shifted
  | cons use uses ih =>
    have control (value : UInt8) : use ≠ .write 0xFF02 value := fun same =>
      kept value (same ▸ List.mem_cons_self)
    have data (value : UInt8) : use ≠ .write 0xFF01 value := fun same =>
      untouched value (same ▸ List.mem_cons_self)
    rw [Serial.drive, elapsed, ← Nat.add_assoc]
    exact ih (h.perform control).1 (h.data_perform shifted control data)
      (fun value member => kept value (List.mem_cons_of_mem use member))
      (fun value member => untouched value (List.mem_cons_of_mem use member))

end Sending

/-! ## No transfer -/

/-- A use that starts no transfer leaves a port at rest, and only a store reaches its data. -/
theorem perform_of_rest {serial : Serial} (rest : serial.remaining = 0) {use : Use}
    (never : ∀ value, starts value = true → use ≠ .write 0xFF02 value) :
    (use.perform serial).1.remaining = 0 ∧ (use.perform serial).2 = [] ∧
      ((∀ value, use ≠ .write 0xFF01 value) → (use.perform serial).1.data = serial.data) := by
  cases use with
  | pass cycles =>
    have still : serial.advance cycles = (serial, []) := if_pos rest
    rw [Use.perform, still]
    exact ⟨rest, rfl, fun _ => rfl⟩
  | write address value =>
    rw [Use.perform]
    by_cases control : address = 0xFF02
    · subst control
      have other : starts value = false := by
        rw [← Bool.not_eq_true]
        exact fun start => never value start rfl
      have stored : serial.write 0xFF02 value = _ := setControl_of_not_starts other
      rw [stored]
      exact ⟨rfl, rfl, fun _ => rfl⟩
    · obtain ⟨data, stored, same⟩ := serial.exists_write_eq control value
      rw [stored]
      exact ⟨rest, rfl, fun untouched => same fun there => untouched value (by rw [there])⟩

/-- **A port without a transfer** asks for nothing until one is started. -/
theorem drive_of_rest {serial : Serial} (rest : serial.remaining = 0) {uses : List Use}
    (never : ∀ value, starts value = true → .write 0xFF02 value ∉ uses) :
    (drive uses serial).2 = [] ∧
      ((∀ value, .write 0xFF01 value ∉ uses) → (drive uses serial).1.data = serial.data) := by
  induction uses generalizing serial with
  | nil => exact ⟨rfl, fun _ => rfl⟩
  | cons use uses ih =>
    obtain ⟨still, quiet, kept⟩ := perform_of_rest rest fun value start same =>
      never value start (same ▸ List.mem_cons_self)
    obtain ⟨later, data⟩ :=
      ih still fun value start member => never value start (List.mem_cons_of_mem use member)
    rw [drive, quiet, later]
    refine ⟨rfl, fun untouched => ?_⟩
    rw [data fun value member => untouched value (List.mem_cons_of_mem use member)]
    exact kept fun value same => untouched value (same ▸ List.mem_cons_self)

/-! ## All there is to say -/

/-- **What a port does** with any uses. -/
structure Transfers (serial : Serial) : Prop where
  /-- A call does what its T-cycles do, one after the other. -/
  ticks : ∀ cycles, serial.advance cycles = Interrupt.collect tick cycles serial
  /-- It does not matter how the time between two stores is cut into calls. -/
  cuts : ∀ first second, singly first = singly second → drive first serial = drive second serial
  /-- What is kept is the data register at every start of a transfer, in order. -/
  output : ∀ uses, (drive uses serial).1.output.toList = serial.output.toList ++ sent uses serial
  /-- A transfer runs for 4096 T-cycles if nothing is stored into the control register meanwhile.  Only
  then it asks for its interrupt, once. -/
  completes : ∀ value, starts value = true → ∀ later, (∀ value, .write 0xFF02 value ∉ later) →
    let now := drive (.write 0xFF02 value :: later) serial
    now.1.read 0xFF02 = (if elapsed later < 4096 then 0xFF else 0x7F) ∧
      now.2 = if elapsed later < 4096 then [] else [.serial]
  /-- If nothing is stored into the data register either, each 512 T-cycles shift a one into it, until
  all its bits are ones. -/
  shifts : ∀ value, starts value = true → ∀ later, (∀ value, .write 0xFF02 value ∉ later) →
    (∀ value, .write 0xFF01 value ∉ later) →
    let byte := (drive (.write 0xFF02 value :: later) serial).1.read 0xFF01
    (∀ bit < 8, hasBit byte bit =
      (decide (bit < elapsed later / 512) || hasBit (serial.read 0xFF01) (bit - elapsed later / 512))) ∧
      (4096 ≤ elapsed later → byte = 0xFF)
  /-- Any other store into the control register ends a transfer: nothing is shifted and nothing asked for
  until the next one is started. -/
  cancels : ∀ value, starts value = false → ∀ later,
    (∀ value, starts value = true → .write 0xFF02 value ∉ later) →
    let now := drive (.write 0xFF02 value :: later) serial
    now.2 = [] ∧
      ((∀ value, .write 0xFF01 value ∉ later) → now.1.read 0xFF01 = serial.read 0xFF01)

/-- **Every port, in whatever state, does this.** -/
theorem transfers (serial : Serial) : serial.Transfers where
  ticks := serial.advance_eq_collect
  cuts first second same := by rw [← drive_singly first, same, drive_singly]
  output uses := output_drive uses serial
  completes value start later kept := by
    have begun : Sending 0 (serial.write 0xFF02 value) := .start start
    obtain ⟨sending, asked⟩ := begun.drive kept
    rw [Nat.zero_add] at sending asked
    refine ⟨sending.read_control, ?_⟩
    show (drive later (serial.write 0xFF02 value)).2 = _
    rw [asked]
    by_cases runs : elapsed later < 4096
    · rw [if_neg (by omega), if_pos runs]
    · rw [if_pos (by omega), if_neg runs]
  shifts value start later kept untouched := by
    have data := (Sending.start start).data_drive (serial.data_write_control value) kept untouched
    rw [Nat.zero_add] at data
    intro byte
    rw [show byte = _ from data]
    refine ⟨fun bit inside => ?_, fun complete => ?_⟩
    · rw [shiftIn_min]
      exact hasBit_shiftIn _ _ inside
    · rw [Nat.min_eq_left (by omega)]
      exact shiftIn_eight serial.data
  cancels value other later never := by
    have rest : (serial.write 0xFF02 value).remaining = 0 := by
      show (serial.setControl value).remaining = 0
      rw [setControl_of_not_starts other]
    obtain ⟨quiet, data⟩ := drive_of_rest rest never
    exact ⟨quiet, fun untouched => (data untouched).trans (serial.data_write_control value)⟩

end Serial
end DotMatrix
