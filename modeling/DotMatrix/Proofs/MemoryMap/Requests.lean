import DotMatrix.Proofs.Cpu.Serving
import DotMatrix.Proofs.Interrupt.Register
import DotMatrix.Proofs.MemoryMap.Calls
import DotMatrix.Proofs.Timer.FreeRun

/-! # Interrupt requests

Five devices and the processor share one register.  What sets a bit of it is an event of the bit's own
device, or a store to the register (`Cause`); what clears it is such a store, or the processor when it
serves the source (`Call.Withdraws`).  `asked_call` says that a call does exactly this to every bit, and
the rest follows: along the calls of a step a bit falls only by one of the two, and rises only by a cause.
-/
namespace DotMatrix

/-! ## The devices -/

namespace Timer

/-- The counter takes the reload value in the next T-cycle. -/
def Reloads (timer : Timer) : Prop := timer.settle.1.reload = .done

/-- The timer asks when the counter takes the reload value. -/
theorem mem_tick (timer : Timer) (source : Interrupt) :
    source ∈ timer.tick.2 ↔ source = .timer ∧ timer.Reloads := by
  rw [timer.tick_kept.2.2.2]
  unfold Reloads settle
  split <;> simp_all

theorem mem_advance (timer : Timer) (cycles : Nat) (source : Interrupt) :
    source ∈ (timer.advance cycles).2 ↔
      source = .timer ∧ ∃ clock < cycles, (timer.advance clock).1.Reloads := by
  induction cycles with
  | zero => simp [advance]
  | succ cycles ih =>
    have last : (∃ clock < cycles + 1, (timer.advance clock).1.Reloads) ↔
        (∃ clock < cycles, (timer.advance clock).1.Reloads) ∨ (timer.advance cycles).1.Reloads :=
      Nat.exists_lt_succ_right
    rw [advance_succ, List.mem_append, mem_tick, last, and_or_left]
    exact or_congr_left ih

end Timer

/-- The serial port asks when a transfer is over. -/
theorem Serial.mem_advance (serial : Serial) (cycles : Nat) (source : Interrupt) :
    source ∈ (serial.advance cycles).2 ↔
      source = .serial ∧ 0 < serial.remaining ∧ (serial.advance cycles).1.remaining = 0 := by
  unfold advance
  split
  · rename_i none
    simp [none]
  · rename_i running
    have running : 0 < serial.remaining := Nat.pos_of_ne_zero running
    dsimp only
    split
    · simp [running]
    · rename_i more
      simp [more]

namespace Joypad

/-- The joypad asks when a line falls. -/
theorem mem_refresh (joypad : Joypad) (source : Interrupt) :
    source ∈ joypad.refresh.2 ↔
      source = .joypad ∧ joypad.lines &&& ~~~joypad.refresh.1.lines ≠ 0 := by
  unfold refresh
  dsimp only
  split <;> simp_all

end Joypad

/-! ## Causes -/

/-- The calls that clear requests: a store to the register, which may clear any, and the one with which
the processor takes the request of the source it serves. -/
def Call.Withdraws (made : Call) (source : Interrupt) : Prop :=
  (∃ value, made = .write 0xFF0F value) ∨ made = .acknowledge source

namespace MemoryMap

/-- **What sets a request**: an event of the source's own device in an M-cycle, a line of the joypad
that falls, or a store to the register. -/
inductive Cause (map : MemoryMap) : Call → Interrupt → Prop where
  /-- The LCD, while it is on, begins the time between two frames. -/
  | vblank (on : map.lcd.control.enabled = true) (inFrame : map.lcd.mode ≠ .vblank)
    (entered : map.tick.lcd.mode = .vblank) : Cause map .tick .vblank
  /-- The status line of the LCD, while that is on, rises. -/
  | lcdStat (on : map.lcd.control.enabled = true) (low : map.lcd.statLine = false)
    (high : map.tick.lcd.statLine = true) : Cause map .tick .lcdStat
  /-- In one of the four T-cycles the counter of the timer takes the reload value. -/
  | timer (clock : Nat) (soon : clock < 4) (reloads : (map.timer.advance clock).1.Reloads) :
    Cause map .tick .timer
  /-- A transfer on the internal clock ends. -/
  | serial (internal : map.serial.control = 0x81) (running : 0 < map.serial.remaining)
    (ended : map.tick.serial.remaining = 0) : Cause map .tick .serial
  /-- A line of the joypad falls. -/
  | joypad {made : Call} (fell : map.joypad.lines &&& ~~~(map.call made).joypad.lines ≠ 0) :
    Cause map made .joypad
  | stored {value : UInt8} {source : Interrupt} (set : value.toNat.testBit source.index = true) :
    Cause map (.write 0xFF0F value) source

/-- What holds of every memory map that was used from the start. -/
structure Sound (map : MemoryMap) : Prop where
  bounded : map.ints.Bounded
  /-- Only a transfer on the internal clock is ever under way. -/
  internal : 0 < map.serial.remaining → map.serial.control = 0x81

variable {map : MemoryMap}

/-! ## Stores -/

/-- All that a store can do to the requests, and to the lines of the joypad. -/
inductive RequestStore (map : MemoryMap) (address : UInt16) (value : UInt8) : Prop where
  /-- It writes the request register. -/
  | register (only : address = 0xFF0F)
    (ints : (map.write address value).ints = map.ints.setRequests value)
    (joypad : (map.write address value).joypad = map.joypad)
  /-- It selects lines of the joypad. -/
  | joypad (other : address ≠ 0xFF0F)
    (ints : (map.write address value).ints = map.ints.requestAll (map.joypad.write value).2)
    (joypad : (map.write address value).joypad = (map.joypad.write value).1)
  | none (other : address ≠ 0xFF0F)
    (requested : (map.write address value).ints.requested = map.ints.requested)
    (joypad : (map.write address value).joypad = map.joypad)

theorem requestStore (map : MemoryMap) (address : UInt16) (value : UInt8) :
    RequestStore map address value := by
  by_cases only : address = 0xFF0F
  · subst only
    exact .register rfl rfl rfl
  cases region : Region.of address with
  | requests => exact absurd (Region.eq_of_register (region ▸ rfl)) only
  | joypad => exact .joypad only (by simp only [write, region]) (by simp only [write, region])
  | video | objects =>
    refine .none only ?_ ?_ <;> simp only [write, region] <;> split <;> rfl
  | _ =>
    exact .none only (by simp only [write, region, mapCart, Interrupts.setEnabled])
      (by simp only [write, region, mapCart])

/-- The serial port of a memory map after a store. -/
theorem serial_write (map : MemoryMap) (address : UInt16) (value : UInt8) :
    (map.write address value).serial = map.serial ∨
      (map.write address value).serial = map.serial.write address value := by
  cases region : Region.of address with
  | serial => exact .inr (by simp only [write, region])
  | video | objects =>
    left
    simp only [write, region]
    split <;> rfl
  | _ => exact .inl (by simp only [write, region, mapCart])

end MemoryMap

namespace Serial
variable {serial : Serial}

/-- Only transfers on the internal clock are ever started. -/
theorem internal_write (h : 0 < serial.remaining → serial.control = 0x81) (address : UInt16)
    (value : UInt8) : 0 < (serial.write address value).remaining →
      (serial.write address value).control = 0x81 := by
  unfold write
  split
  · exact h
  · unfold setControl
    dsimp only
    split <;> simp_all
  · exact h

theorem internal_advance (h : 0 < serial.remaining → serial.control = 0x81) (cycles : Nat) :
    0 < (serial.advance cycles).1.remaining → (serial.advance cycles).1.control = 0x81 := by
  unfold advance
  split
  · exact h
  · dsimp only
    split
    · simp
    · exact fun _ => h (by omega)

end Serial

namespace MemoryMap
variable {map : MemoryMap}

/-! ## Reachable memory maps -/

theorem Sound.call (h : Sound map) (made : Call) : Sound (map.call made) := by
  cases made with
  | poll => exact ⟨h.bounded.requestAll _, h.internal⟩
  | read | resetDivider => exact ⟨h.bounded, h.internal⟩
  | acknowledge source => exact ⟨h.bounded.clear source, h.internal⟩
  | tick =>
    have ticked := map.ticked
    refine ⟨?_, ?_⟩
    · show map.tick.ints.Bounded
      rw [ticked.ints]
      exact h.bounded.requestAll _
    · show 0 < map.tick.serial.remaining → map.tick.serial.control = 0x81
      rw [ticked.serial]
      exact Serial.internal_advance h.internal 4
  | write address value =>
    constructor
    · show (map.write address value).ints.Bounded
      cases map.requestStore address value with
      | register _ ints =>
        rw [ints]
        exact Interrupts.bounded_setRequests value
      | joypad _ ints =>
        rw [ints]
        exact h.bounded.requestAll _
      | none _ requested =>
        unfold Interrupts.Bounded
        rw [requested]
        exact h.bounded
    · show 0 < (map.write address value).serial.remaining →
        (map.write address value).serial.control = 0x81
      rcases map.serial_write address value with same | stored
      · rw [same]
        exact h.internal
      · rw [stored]
        exact Serial.internal_write h.internal address value

/-- What is done from outside leaves the requests as they are, unless the power goes off. -/
theorem ints_perform (map : MemoryMap) {operation : Operation} (outside : ∀ made, operation ≠ .call made)
    (on : operation ≠ .reset) : (map.perform operation).ints = map.ints := by
  cases operation with
  | call made => exact absurd rfl (outside made)
  | reset => exact absurd rfl on
  | _ => rfl

theorem sound_powerOn : Sound powerOn where
  bounded := (by decide : 0 < 32)
  internal running := absurd running (by decide)

theorem Reachable.sound (h : Reachable map) : Sound map := by
  induction h with
  | powerOn => exact sound_powerOn
  | afterBoot => exact ⟨(by decide : 1 < 32), sound_powerOn.internal⟩
  | perform operation _ ih =>
    cases operation with
    | call made => exact ih.call made
    | reset => exact ⟨sound_powerOn.bounded, sound_powerOn.internal⟩
    | _ => exact ⟨ih.bounded, ih.internal⟩

/-! ## One call -/

/-- Lines that stay do not fall. -/
theorem not_fell_of_joypad {made : Call} (same : (map.call made).joypad = map.joypad) :
    ¬ map.joypad.lines &&& ~~~(map.call made).joypad.lines ≠ 0 := by
  rw [same, UInt8.and_not_self]
  exact not_not_intro rfl

/-- What the devices ask for in an M-cycle are its causes. -/
theorem mem_requestsOfTick (h : Sound map) (source : Interrupt) :
    source ∈ map.requestsOfTick ↔ Cause map .tick source := by
  have ticked := map.ticked
  obtain ⟨oam, lcd⟩ := ticked.lcd
  have mode : map.tick.lcd.mode = (map.lcd.slice 4).1.mode := by rw [lcd]
  have line : map.tick.lcd.statLine = (map.lcd.slice 4).1.statLine := by rw [lcd]
  unfold requestsOfTick
  rw [List.mem_append, List.mem_append, Timer.mem_advance, Serial.mem_advance, Lcd.mem_slice,
    ← mode, ← line, ← ticked.serial]
  constructor
  · rintro ((⟨rfl, clock, soon, reloads⟩ | ⟨rfl, running, ended⟩) | ⟨on, frame | rise⟩)
    · exact .timer clock soon reloads
    · exact .serial (h.internal running) running ended
    · obtain ⟨rfl, inFrame, entered⟩ := frame
      exact .vblank on inFrame entered
    · obtain ⟨rfl, low, high⟩ := rise
      exact .lcdStat on low high
  · intro cause
    cases cause with
    | timer clock soon reloads => exact .inl (.inl ⟨rfl, clock, soon, reloads⟩)
    | serial _ running ended => exact .inl (.inr ⟨rfl, running, ended⟩)
    | vblank on inFrame entered => exact .inr ⟨on, .inl ⟨rfl, inFrame, entered⟩⟩
    | lcdStat on low high => exact .inr ⟨on, .inr ⟨rfl, low, high⟩⟩
    | joypad fell => exact absurd fell (not_fell_of_joypad ticked.joypad)

/-- Between two M-cycles only the joypad asks, apart from stores to the register. -/
theorem cause_iff_fell {made : Call} {source : Interrupt} (timeless : made ≠ .tick)
    (other : ∀ value, made ≠ .write 0xFF0F value) :
    Cause map made source ↔
      source = .joypad ∧ map.joypad.lines &&& ~~~(map.call made).joypad.lines ≠ 0 := by
  constructor
  · intro cause
    cases cause with
    | joypad fell => exact ⟨rfl, fell⟩
    | stored => exact absurd rfl (other _)
    | vblank | lcdStat | timer | serial => exact absurd rfl timeless
  · rintro ⟨rfl, fell⟩
    exact .joypad fell

/-- A call that takes no time and leaves the joypad alone asks for nothing. -/
theorem not_cause {made : Call} {source : Interrupt} (timeless : made ≠ .tick)
    (other : ∀ value, made ≠ .write 0xFF0F value) (same : (map.call made).joypad = map.joypad) :
    ¬ Cause map made source := by
  rw [cause_iff_fell timeless other]
  exact fun cause => not_fell_of_joypad same cause.2

theorem asked_write (map : MemoryMap) (address : UInt16) (value : UInt8) (source : Interrupt) :
    (map.write address value).ints.Asked source ↔ Cause map (.write address value) source ∨
      map.ints.Asked source ∧ ¬ (Call.write address value).Withdraws source := by
  have withdraws : (Call.write address value).Withdraws source ↔ address = 0xFF0F := by
    simp [Call.Withdraws]
  have elsewhere (other : address ≠ 0xFF0F) :
      ∀ stored, Call.write address value ≠ .write 0xFF0F stored := by
    rintro stored ⟨⟩
    exact other rfl
  rw [withdraws]
  cases map.requestStore address value with
  | register only ints joypad =>
    subst only
    rw [ints, Interrupts.asked_setRequests]
    constructor
    · exact fun set => .inl (.stored set)
    · rintro (cause | ⟨-, other⟩)
      · cases cause with
        | stored set => exact set
        | joypad fell => exact absurd fell (not_fell_of_joypad joypad)
      · exact absurd rfl other
  | joypad other ints joypad =>
    have lines : (map.call (.write address value)).joypad = (map.joypad.write value).1 := joypad
    rw [ints, Interrupts.asked_requestAll, cause_iff_fell (by simp) (elsewhere other), lines]
    unfold Joypad.write
    rw [Joypad.mem_refresh]
    simp only [other, not_false_iff, and_true, or_comm]
  | none other requested joypad =>
    have none : ¬ Cause map (.write address value) source :=
      not_cause (by simp) (elsewhere other) joypad
    simp [Interrupts.Asked, requested, other, none]

/-- **What a call does to the requests**: a bit is set afterwards if the call caused it, or if it was
set before and the call did not withdraw it. -/
theorem asked_call (h : Sound map) (made : Call) (source : Interrupt) :
    (map.call made).ints.Asked source ↔
      Cause map made source ∨ map.ints.Asked source ∧ ¬ made.Withdraws source := by
  cases made with
  | tick =>
    show map.tick.ints.Asked source ↔ _
    rw [map.ticked.ints, Interrupts.asked_requestAll, mem_requestsOfTick h]
    simp [Call.Withdraws, or_comm]
  | poll =>
    rw [cause_iff_fell (by simp) (by simp)]
    show (map.ints.requestAll (map.joypad.poll map.buttons).2).Asked source ↔ _
    unfold Joypad.poll
    rw [Interrupts.asked_requestAll, Joypad.mem_refresh]
    simp only [Call.Withdraws, reduceCtorEq, exists_false, or_self, not_false_iff, and_true, or_comm]
    rfl
  | read address value =>
    have none : ¬ Cause map (.read address value) source := not_cause (by simp) (by simp) rfl
    simp [call, none, Call.Withdraws]
  | resetDivider =>
    have none : ¬ Cause map .resetDivider source := not_cause (by simp) (by simp) rfl
    simp [call, resetDivider, none, Call.Withdraws]
  | acknowledge served =>
    have none : ¬ Cause map (.acknowledge served) source := not_cause (by simp) (by simp) rfl
    simp [call, Interrupts.asked_clear, none, Call.Withdraws, eq_comm]
  | write address value => exact map.asked_write address value source

/-! ## Calls in a row -/

/-- A bit that falls was withdrawn by one of the calls. -/
theorem exists_withdraws (h : Sound map) {made : List Call} {source : Interrupt}
    (before : map.ints.Asked source) (after : ¬ (map.calls made).ints.Asked source) :
    ∃ call ∈ made, call.Withdraws source := by
  induction made generalizing map with
  | nil => exact absurd before after
  | cons first more ih =>
    by_cases taken : first.Withdraws source
    · exact ⟨first, List.mem_cons_self .., taken⟩
    · have kept : (map.call first).ints.Asked source :=
        (asked_call h first source).mpr (.inr ⟨before, taken⟩)
      obtain ⟨call, member, withdraws⟩ := ih (h.call first) kept after
      exact ⟨call, List.mem_cons_of_mem first member, withdraws⟩

/-- A bit that rises was set by one of the calls, which had a cause at its time. -/
theorem exists_cause (h : Sound map) {made : List Call} {source : Interrupt}
    (before : ¬ map.ints.Asked source) (after : (map.calls made).ints.Asked source) :
    ∃ earlier call later, made = earlier ++ call :: later ∧
      Cause (map.calls earlier) call source := by
  induction made generalizing map with
  | nil => exact absurd after before
  | cons first more ih =>
    by_cases now : (map.call first).ints.Asked source
    · rcases (asked_call h first source).mp now with cause | ⟨already, -⟩
      · exact ⟨[], first, more, rfl, cause⟩
      · exact absurd already before
    · obtain ⟨earlier, call, later, split, cause⟩ := ih (h.call first) now after
      exact ⟨first :: earlier, call, later, congrArg (first :: ·) split, cause⟩

/-! ## The register as a whole -/

/-- **No request is lost and none is invented.** -/
structure Faithful (map : MemoryMap) : Prop where
  /-- No bit above those of the five sources is set. -/
  bounded : map.ints.requested.toNat < 32
  /-- Nothing clears a request but a store to the register, the processor, and the power switch. -/
  kept : ∀ operation : Operation, (∀ value, operation ≠ .call (.write 0xFF0F value)) →
    (∀ served, operation ≠ .call (.acknowledge served)) → operation ≠ .reset →
      ∀ source, map.ints.Asked source → (map.perform operation).ints.Asked source
  /-- The processor clears the request that it takes, and no other. -/
  acknowledged : ∀ served source, (map.perform (.call (.acknowledge served))).ints.Asked source ↔
    map.ints.Asked source ∧ source ≠ served
  /-- Every event of a device is entered in the register. -/
  heard : ∀ made source, Cause map made source → (map.perform (.call made)).ints.Asked source
  /-- Nothing else is. -/
  caused : ∀ operation source, ¬ map.ints.Asked source → (map.perform operation).ints.Asked source →
    ∃ made, operation = .call made ∧ Cause map made source
  /-- A request is gone after a step only if the step served it, or stored to the register. -/
  served : ∀ (cpu : Cpu) source, map.ints.Asked source → ¬ (cpu.step.run map).2.ints.Asked source →
    (cpu.step.run map).1.deed = .dispatch source ∨
      ∃ value, .write 0xFF0F value ∈ (cpu.step.record map).1
  /-- A request that is new after a step had its cause in one of the calls. -/
  raised : ∀ (cpu : Cpu) source, ¬ map.ints.Asked source → (cpu.step.run map).2.ints.Asked source →
    ∃ earlier made later, (cpu.step.record map).1 = earlier ++ made :: later ∧
      Cause (map.calls earlier) made source

/-- Nothing that is done from outside makes a request. -/
theorem asked_of_outside {operation : Operation} (outside : ∀ made, operation ≠ .call made)
    {source : Interrupt} (after : (map.perform operation).ints.Asked source) :
    map.ints.Asked source := by
  by_cases off : operation = .reset
  · subst off
    have none : ¬ powerOn.ints.Asked source := by cases source <;> decide
    exact absurd after none
  · rwa [map.ints_perform outside off] at after

theorem kept_of_not_withdraws (h : Sound map) {operation : Operation} (on : operation ≠ .reset)
    {source : Interrupt} (kept : ∀ made, operation = .call made → ¬ made.Withdraws source)
    (before : map.ints.Asked source) : (map.perform operation).ints.Asked source := by
  cases operation with
  | call made => exact (asked_call h made source).mpr (.inr ⟨before, kept made rfl⟩)
  | reset => exact absurd rfl on
  | _ => exact before

/-- **The request register is faithful**, however the memory map was used before. -/
theorem faithful_of_reachable (h : Reachable map) : Faithful map where
  bounded := h.sound.bounded
  kept := by
    intro operation noStore noService on source before
    refine kept_of_not_withdraws h.sound on ?_ before
    rintro made rfl (⟨value, rfl⟩ | rfl)
    · exact noStore value rfl
    · exact noService source rfl
  acknowledged served source := Interrupts.asked_clear served
  heard made source cause := (asked_call h.sound made source).mpr (.inl cause)
  caused := by
    intro operation source before after
    cases operation with
    | call made =>
      rcases (asked_call h.sound made source).mp after with cause | ⟨already, -⟩
      · exact ⟨made, rfl, cause⟩
      · exact absurd already before
    | _ => exact absurd (asked_of_outside (by simp) after) before
  served := by
    intro cpu source before after
    rw [← calls_record] at after
    obtain ⟨made, member, ⟨value, rfl⟩ | rfl⟩ := exists_withdraws h.sound before after
    · exact .inr ⟨value, member⟩
    · left
      rw [← Dialogue.record_snd]
      exact cpu.taken_step.of_record map source member
  raised := by
    intro cpu source before after
    rw [← calls_record] at after
    exact exists_cause h.sound before after

/-- The boot program leaves a frame behind, which a processor that listens serves in its first step. -/
theorem faithful_at_dispatch :
    let map := MemoryMap.afterBoot.perform (.call (.write 0xFFFF 0x01))
    let cpu : Cpu := { Cpu.afterBoot with ime := true }
    Reachable map ∧ map.ints.Asked .vblank ∧ ¬ (cpu.step.run map).2.ints.Asked .vblank ∧
      (cpu.step.run map).1.deed = .dispatch .vblank := by
  intro map cpu
  have reachable : Reachable map := .perform _ .afterBoot
  have before : map.ints.Asked .vblank := by decide
  have after : ¬ (cpu.step.run map).2.ints.Asked .vblank := by decide
  have calls : (cpu.step.record map).1 = [.poll, .acknowledge .vblank, .tick, .tick,
      .write 0xFFFD 0x01, .tick, .write 0xFFFC 0x00, .tick, .tick] := by
    decide
  refine ⟨reachable, before, after, ?_⟩
  rcases (faithful_of_reachable reachable).served cpu .vblank before after with deed | ⟨value, stored⟩
  · exact deed
  · rw [calls] at stored
    simp at stored

end MemoryMap
end DotMatrix
