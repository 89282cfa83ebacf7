import DotMatrix.Proofs.MemoryMap.Requests
import DotMatrix.Proofs.Timer.Alignment

/-! # The M-cycle before a reload

When the counter overflows, the reload comes with the end of the next M-cycle.  Whatever is done before
that M-cycle, the reload is made (`pending_performs`), unless the counter is written; then it is not, and
what was written stays, as long as the clock signal does not fall (`steady_performs`).  If the signal
falls on the highest value after the store, though, that is an overflow of its own, with a reload in the
very same M-cycle.
-/
namespace DotMatrix
namespace MemoryMap

/-! ## Operations and the timer -/

/-- The timer sees the stores at its own addresses, and would ignore all others. -/
theorem timer_write (map : MemoryMap) (address : UInt16) (value : UInt8) :
    (map.write address value).timer = map.timer.write address value := by
  have elsewhere (other : Region.of address ≠ .timer) : map.timer.write address value = map.timer := by
    unfold Timer.write
    split
    · exact absurd rfl other
    · exact absurd rfl other
    · exact absurd rfl other
    · exact absurd rfl other
    · rfl
  cases region : Region.of address with
  | timer => simp only [write, region]
  | video | objects =>
    rw [elsewhere (by rw [region]; decide)]
    simp only [write, region]
    split <;> rfl
  | _ =>
    rw [elsewhere (by rw [region]; decide)]
    simp only [write, region, mapCart]

/-- The value that an operation puts into the counter of the timer: by a store, or by switching the
power off and on, after which the counter is zero. -/
def Operation.counterStore? : Operation → Option UInt8
  | .call (.write address value) => if address = 0xFF05 then some value else none
  | .reset => some 0
  | _ => none

/-- An operation that neither takes time nor writes the counter of the timer. -/
def Operation.Quiet (operation : Operation) : Prop :=
  operation ≠ .call .tick ∧ operation.counterStore? = none

/-- All that an operation can do to the timer. -/
inductive TimerStep (map : MemoryMap) (operation : Operation) : Prop where
  | cycle (time : operation = .call .tick)
    (timer : (map.perform operation).timer = (map.timer.advance 4).1)
  | off (stored : operation.counterStore? = some 0) (timer : (map.perform operation).timer = {})
  | store (value : UInt8) (stored : operation.counterStore? = some value)
    (timer : (map.perform operation).timer = map.timer.use (.write 0xFF05 value))
  | use (made : Timer.Use) (timeless : made ≠ .tick) (unstored : ∀ value, made ≠ .write 0xFF05 value)
    (stored : operation.counterStore? = none)
    (timer : (map.perform operation).timer = map.timer.use made)
  | none (stored : operation.counterStore? = none)
    (timer : (map.perform operation).timer = map.timer)

theorem timerStep (map : MemoryMap) (operation : Operation) : TimerStep map operation := by
  cases operation with
  | reset => exact .off rfl rfl
  | call made =>
    cases made with
    | tick => exact .cycle rfl map.ticked.timer
    | resetDivider => exact .use .resetDivider (by decide) (by simp) rfl rfl
    | write address value =>
      have timer := map.timer_write address value
      by_cases counter : address = 0xFF05
      · subst counter
        exact .store value rfl timer
      · refine .use (.write address value) (by simp) ?_ (if_neg counter) timer
        rintro stored ⟨⟩
        exact counter rfl
    | poll | read | acknowledge => exact .none rfl rfl
  | _ => exact .none rfl rfl

variable {map : MemoryMap}

theorem Reachable.timer (h : Reachable map) : Timer.Reachable map.timer := by
  induction h with
  | powerOn => exact .new 0
  | afterBoot => exact .new Timer.dividerAfterBoot
  | @perform map operation _ ih =>
    cases map.timerStep operation with
    | cycle _ timer =>
      rw [timer, Timer.advance_succ, Timer.advance_succ, Timer.advance_succ, Timer.advance_succ]
      exact ih.tick.tick.tick.tick
    | off _ timer =>
      rw [timer]
      exact .new 0
    | store _ _ timer | use _ _ _ _ timer =>
      rw [timer]
      exact ih.use _
    | none _ timer =>
      rw [timer]
      exact ih

/-- **Between operations the timer stands between two M-cycles.** -/
theorem Reachable.aligned (h : Reachable map) : map.timer.Aligned := by
  induction h with
  | powerOn => exact ⟨rfl, .inl rfl⟩
  | afterBoot => exact ⟨rfl, .inl rfl⟩
  | @perform map operation before ih =>
    have coherent := before.timer.coherent
    cases map.timerStep operation with
    | cycle _ timer =>
      rw [timer]
      exact ih.advance coherent
    | off _ timer =>
      rw [timer]
      exact ⟨rfl, .inl rfl⟩
    | store _ _ timer =>
      rw [timer]
      exact ih.use coherent (by simp)
    | use _ timeless _ _ timer =>
      rw [timer]
      exact ih.use coherent timeless
    | none _ timer =>
      rw [timer]
      exact ih

/-! ## The clock signal along a run -/

/-- The clock signal of the timer is high before an operation and low after it. -/
def Falls (map : MemoryMap) (operation : Operation) : Prop :=
  map.timer.level = true ∧ (map.perform operation).timer.level = false

/-- The clock signal falls while the counter is at its highest value. -/
def Wraps (map : MemoryMap) (operation : Operation) : Prop :=
  map.Falls operation ∧ map.timer.counter = 0xFF

instance (map : MemoryMap) (operation : Operation) : Decidable (map.Falls operation) :=
  inferInstanceAs (Decidable (_ ∧ _))

instance (map : MemoryMap) (operation : Operation) : Decidable (map.Wraps operation) :=
  inferInstanceAs (Decidable (_ ∧ _))

/-- Something happens in none of the operations, each carried out on what the ones before it left. -/
def Never (event : MemoryMap → Operation → Prop) (map : MemoryMap) : List Operation → Prop
  | [] => True
  | first :: more => ¬ event map first ∧ Never event (map.perform first) more

theorem Never.of_append {event : MemoryMap → Operation → Prop} {made more : List Operation}
    (h : Never event map (made ++ more)) :
    Never event map made ∧ Never event (map.performs made) more := by
  induction made generalizing map with
  | nil => exact ⟨trivial, h⟩
  | cons first made ih =>
    obtain ⟨now, later⟩ := h
    exact ⟨⟨now, (ih later).1⟩, (ih later).2⟩

/-! ## Between two M-cycles -/

/-- **What the clock does between two M-cycles**: it moves the counter on if the signal falls, and
begins a countdown if the counter wraps. -/
theorem Reachable.clocked (h : Reachable map) {operation : Operation} (quiet : operation.Quiet)
    (undone : map.timer.reload ≠ .done) :
    (map.perform operation).timer.counter =
        map.timer.counter + (if map.Falls operation then 1 else 0) ∧
      (map.perform operation).timer.reload =
        if map.Wraps operation then .pending 4 else map.timer.reload := by
  obtain ⟨timeless, unstored⟩ := quiet
  cases map.timerStep operation with
  | cycle time => exact absurd time timeless
  | off stored | store _ stored =>
    rw [stored] at unstored
    cases unstored
  | use made untimed other _ timer =>
    have clocking := h.timer.clocking made
    have falls : map.Falls operation ↔ map.timer.Falls made := by
      unfold Falls Timer.Falls
      rw [timer]
    obtain ⟨counter, reload⟩ := Timer.unclocked_quiet untimed other undone
    unfold Wraps
    rw [timer, clocking.counter, clocking.reload, counter, reload]
    simp only [falls, and_self]
  | none _ timer =>
    have steady : ¬ map.Falls operation := by
      rintro ⟨high, low⟩
      rw [timer, high] at low
      cases low
    rw [timer, if_neg steady, if_neg fun wraps => steady wraps.1]
    exact ⟨(UInt8.add_zero _).symm, rfl⟩

/-- A store puts its value into the counter and ends a countdown. -/
theorem stored_perform {operation : Operation} {value : UInt8}
    (stored : operation.counterStore? = some value) (undone : map.timer.reload ≠ .done) :
    (map.perform operation).timer.counter = value ∧
      (map.perform operation).timer.reload = .idle := by
  cases map.timerStep operation with
  | cycle time =>
    rw [time] at stored
    cases stored
  | off zero timer =>
    rw [zero] at stored
    cases stored
    rw [timer]
    exact ⟨rfl, rfl⟩
  | store other same timer =>
    rw [same] at stored
    cases stored
    rw [timer]
    show (map.timer.setCounter value).counter = value ∧ (map.timer.setCounter value).reload = .idle
    rw [Timer.setCounter_eq undone]
    exact ⟨rfl, rfl⟩
  | use _ _ _ unstored | none unstored =>
    rw [unstored] at stored
    cases stored

/-- Only an M-cycle ends with a reload. -/
theorem Reachable.undone_perform (h : Reachable map) {operation : Operation}
    (timeless : operation ≠ .call .tick) (undone : map.timer.reload ≠ .done) :
    (map.perform operation).timer.reload ≠ .done := by
  cases stored : operation.counterStore? with
  | some value =>
    rw [(stored_perform stored undone).2]
    decide
  | none =>
    rw [(h.clocked ⟨timeless, stored⟩ undone).2]
    split
    · decide
    · exact undone

theorem Reachable.undone_performs (h : Reachable map) {made : List Operation}
    (timeless : ∀ operation ∈ made, operation ≠ .call .tick) (undone : map.timer.reload ≠ .done) :
    (map.performs made).timer.reload ≠ .done := by
  induction made generalizing map with
  | nil => exact undone
  | cons first more ih =>
    obtain ⟨now, later⟩ := List.forall_mem_cons.mp timeless
    exact ih (h.perform first) later (h.undone_perform now undone)

section
variable {made : List Operation} (quiet : ∀ operation ∈ made, operation.Quiet)
include quiet

/-- **A countdown goes on** if the counter is not written, whatever else is done. -/
theorem Reachable.pending_performs (h : Reachable map) (pending : map.timer.reload = .pending 4) :
    (map.performs made).timer.reload = .pending 4 := by
  induction made generalizing map with
  | nil => exact pending
  | cons first more ih =>
    obtain ⟨now, later⟩ := List.forall_mem_cons.mp quiet
    have undone : map.timer.reload ≠ .done := ne_of_eq_of_ne pending (by decide)
    refine ih later (h.perform first) ?_
    rw [(h.clocked now undone).2, pending]
    exact ite_self _

/-- No countdown begins if the counter does not wrap. -/
theorem Reachable.idle_performs (h : Reachable map) (idle : map.timer.reload = .idle)
    (never : Never Wraps map made) : (map.performs made).timer.reload = .idle := by
  induction made generalizing map with
  | nil => exact idle
  | cons first more ih =>
    obtain ⟨now, later⟩ := List.forall_mem_cons.mp quiet
    obtain ⟨still, never⟩ := never
    have undone : map.timer.reload ≠ .done := ne_of_eq_of_ne idle (by decide)
    refine ih later (h.perform first) ?_ never
    rw [(h.clocked now undone).2, if_neg still, idle]

/-- The counter stays as it is if the clock signal does not fall. -/
theorem Reachable.steady_performs (h : Reachable map) (undone : map.timer.reload ≠ .done)
    (never : Never Falls map made) : (map.performs made).timer.counter = map.timer.counter := by
  induction made generalizing map with
  | nil => rfl
  | cons first more ih =>
    obtain ⟨now, later⟩ := List.forall_mem_cons.mp quiet
    obtain ⟨still, never⟩ := never
    have undone' := h.undone_perform now.1 undone
    rw [performs_cons, ih later (h.perform first) undone' never, (h.clocked now undone).1,
      if_neg still, UInt8.add_zero]

end

/-! ## The M-cycle -/

/-- **An M-cycle of the timer** as the memory map sees it. -/
theorem Reachable.timer_tick (h : Reachable map) : map.tick.timer = map.timer.cycled.sample := by
  rw [map.ticked.timer, Timer.advance_mcycle h.timer.coherent h.aligned]

/-- The timer asks for an interrupt exactly in the M-cycle after an overflow. -/
theorem Reachable.timer_mem_requestsOfTick (h : Reachable map) :
    .timer ∈ map.requestsOfTick ↔ map.timer.reload = .pending 4 := by
  have others : .timer ∉ (map.serial.advance 4).2 ∧ .timer ∉ (map.lcd.slice 4).2 := by
    simp [Serial.mem_advance, Lcd.mem_slice]
  unfold requestsOfTick
  rw [List.mem_append, List.mem_append, Timer.advance_mcycle h.timer.coherent h.aligned]
  simp only [others, or_false]
  split <;> simp_all

/-- The clock in an M-cycle. -/
theorem Reachable.falls_tick_iff (h : Reachable map) : map.Falls (.call .tick) ↔
    map.timer.cycled.signal = true ∧ map.timer.cycled.level = false := by
  have after : (map.perform (.call .tick)).timer = map.timer.cycled.sample := h.timer_tick
  have before : map.timer.cycled.signal = map.timer.level := h.timer.coherent
  unfold Falls
  rw [after, Timer.level_sample, before]

theorem Reachable.counter_tick (h : Reachable map) : map.tick.timer.counter =
    map.timer.cycled.counter + if map.Falls (.call .tick) then 1 else 0 := by
  have falls := h.falls_tick_iff
  rw [h.timer_tick, Timer.sample_counter]
  simp only [falls]

theorem Reachable.reload_tick (h : Reachable map) : map.tick.timer.reload =
    if map.Falls (.call .tick) ∧ map.timer.cycled.counter = 0xFF then .pending 4
    else map.timer.cycled.reload := by
  have falls := h.falls_tick_iff
  rw [h.timer_tick, Timer.sample_reload]
  simp only [falls]

/-! ## The window -/

/-- **What becomes of an overflow.** -/
structure Windowed (map : MemoryMap) : Prop where
  divider : map.timer.divider.toNat % 4 = 0
  reload : map.timer.reload = .idle ∨ map.timer.reload = .pending 4 ∨ map.timer.reload = .done
  /-- If the counter is not written before the next M-cycle, it takes in that M-cycle the reload value
  of then, and an interrupt is asked for; unless the clock signal falls just then, too. -/
  reloads : map.timer.reload = .pending 4 →
    ∀ between : List Operation, (∀ operation ∈ between, operation.Quiet) →
      ¬ (map.performs between).Falls (.call .tick) →
        (map.performs between).tick.timer.counter = (map.performs between).timer.modulo ∧
        (map.performs between).tick.timer.reload = .done ∧
        .timer ∈ (map.performs between).requestsOfTick ∧
        (map.performs between).tick.ints.Asked .timer
  /-- If it is written, and does not wrap between the last store and the next M-cycle, that M-cycle
  brings neither a reload nor a request: it leaves the counter to the clock.  If the clock signal does
  not fall at all, the counter keeps what was written. -/
  cancels : map.timer.reload = .pending 4 →
    ∀ (earlier : List Operation) (store : Operation) (value : UInt8) (later : List Operation),
      (∀ operation ∈ earlier, operation ≠ .call .tick) → store.counterStore? = some value →
      (∀ operation ∈ later, operation.Quiet) →
      Never Wraps (map.performs (earlier ++ [store])) later →
        (map.performs (earlier ++ store :: later)).tick.timer.counter =
          (map.performs (earlier ++ store :: later)).timer.counter +
            (if (map.performs (earlier ++ store :: later)).Falls (.call .tick) then 1 else 0) ∧
        (map.performs (earlier ++ store :: later)).tick.timer.reload ≠ .done ∧
        .timer ∉ (map.performs (earlier ++ store :: later)).requestsOfTick ∧
        (Never Falls (map.performs (earlier ++ [store])) (later ++ [.call .tick]) →
          (map.performs (earlier ++ store :: later)).tick.timer.counter = value)
  /-- In the M-cycle after a reload a store to the counter is lost, and the counter follows a store to
  the reload value. -/
  late : map.timer.reload = .done → ∀ value, map.write 0xFF05 value = map ∧
    (map.write 0xFF06 value).timer = { map.timer with modulo := value, counter := value }

theorem Reachable.reloads (h : Reachable map) (pending : map.timer.reload = .pending 4)
    (still : ¬ map.Falls (.call .tick)) : map.tick.timer.counter = map.timer.modulo ∧
      map.tick.timer.reload = .done ∧ .timer ∈ map.requestsOfTick ∧ map.tick.ints.Asked .timer := by
  have asks := h.timer_mem_requestsOfTick.mpr pending
  refine ⟨?_, ?_, asks, ?_⟩
  · rw [h.counter_tick, if_neg still, UInt8.add_zero]
    exact if_pos pending
  · rw [h.reload_tick, if_neg fun both => still both.1]
    exact if_pos pending
  · rw [map.ticked.ints, Interrupts.asked_requestAll]
    exact .inr asks

theorem Reachable.cancelled (h : Reachable map) (idle : map.timer.reload = .idle) :
    map.tick.timer.counter =
        map.timer.counter + (if map.Falls (.call .tick) then 1 else 0) ∧
      map.tick.timer.reload ≠ .done ∧ .timer ∉ map.requestsOfTick := by
  have settled : map.timer.reload ≠ .pending 4 := ne_of_eq_of_ne idle (by decide)
  refine ⟨?_, ?_, ?_⟩
  · rw [h.counter_tick]
    unfold Timer.cycled
    rw [if_neg settled]
  · rw [h.reload_tick]
    unfold Timer.cycled
    rw [if_neg settled, if_neg settled]
    split <;> exact Reload.noConfusion
  · rw [h.timer_mem_requestsOfTick]
    exact settled

/-- **The window of a reload is the M-cycle after the overflow**, however the memory map was used
before. -/
theorem windowed_of_reachable (h : Reachable map) : Windowed map where
  divider := h.aligned.divider
  reload := h.aligned.reload
  reloads pending between quiet still :=
    (h.performs between).reloads (h.pending_performs quiet pending) still
  cancels := by
    intro pending earlier store value later timeless stored quiet never
    have undone : (map.performs earlier).timer.reload ≠ .done :=
      h.undone_performs timeless (ne_of_eq_of_ne pending (by decide))
    have begun : map.performs (earlier ++ [store]) = (map.performs earlier).perform store :=
      map.performs_append earlier [store]
    have reached : map.performs (earlier ++ store :: later) =
        ((map.performs earlier).perform store).performs later :=
      map.performs_append earlier (store :: later)
    rw [begun] at never ⊢
    rw [reached]
    obtain ⟨counter, idle⟩ := stored_perform stored undone
    have start := (h.performs earlier).perform store
    have still := start.idle_performs quiet idle never
    obtain ⟨clocked, unmade, unasked⟩ := (start.performs later).cancelled still
    refine ⟨clocked, unmade, unasked, ?_⟩
    intro steady
    obtain ⟨steady, last⟩ := Never.of_append steady
    have kept := start.steady_performs quiet (ne_of_eq_of_ne idle (by decide)) steady
    rw [clocked, if_neg last.1, UInt8.add_zero, kept, counter]
  late := by
    intro done value
    constructor
    · show { map with timer := map.timer.setCounter value } = map
      unfold Timer.setCounter
      rw [done]
    · exact if_pos (beq_iff_eq.mpr done)

/-- Clearing the divider makes the counter overflow.  If the reload value is written then, the counter
takes the new one; if the counter is written, it stays. -/
theorem windowed_of_cleared_divider :
    let map := powerOn.performs [.call (.write 0xFF07 0x05), .call .tick, .call .tick,
      .call (.write 0xFF05 0xFF), .call .resetDivider]
    let renewed := map.performs [.call (.write 0xFF06 0x42)]
    let cancelled := map.performs [.call (.write 0xFF05 0x10)]
    Reachable map ∧ map.timer.reload = .pending 4 ∧ renewed.tick.timer.counter = 0x42 ∧
      renewed.tick.timer.reload = .done ∧ renewed.tick.ints.Asked .timer ∧
      cancelled.tick.timer.counter = 0x10 ∧ .timer ∉ cancelled.requestsOfTick := by
  intro map renewed cancelled
  have reachable : Reachable map := Reachable.powerOn.performs _
  have windowed := windowed_of_reachable reachable
  have pending : map.timer.reload = .pending 4 := by decide
  have quiet : ∀ operation ∈ [Operation.call (.write 0xFF06 0x42)], operation.Quiet := by
    intro operation member
    obtain rfl := List.mem_singleton.mp member
    exact ⟨by simp, rfl⟩
  obtain ⟨counter, done, -, asked⟩ := windowed.reloads pending _ quiet (by decide)
  obtain ⟨-, -, unasked, kept⟩ := windowed.cancels pending [] (.call (.write 0xFF05 0x10)) 0x10 []
    (by simp) rfl (by simp) trivial
  have modulo : renewed.timer.modulo = 0x42 := by decide
  exact ⟨reachable, pending, counter.trans modulo, done, asked, kept ⟨by decide, trivial⟩, unasked⟩

/-- **A store does not always prevent the reload**: after it the counter can overflow again before the
next M-cycle, here by turning the timer off.  Nor does a countdown always go on if no register is
written and the clock signal does not fall: the power may be switched. -/
theorem reloads_despite_store :
    let map := powerOn.performs [.call (.write 0xFF07 0x05), .call .tick, .call .tick,
      .call (.write 0xFF06 0x42), .call (.write 0xFF05 0xFF), .call (.write 0xFF07 0x00)]
    let again := map.performs [.call (.write 0xFF07 0x05), .call (.write 0xFF05 0xFF),
      .call (.write 0xFF07 0x00)]
    let switched := map.performs [.reset]
    map.timer.reload = .pending 4 ∧ again.tick.timer.counter = 0x42 ∧
      again.tick.timer.reload = .done ∧ ¬ again.ints.Asked .timer ∧ again.tick.ints.Asked .timer ∧
      Never Falls map [.reset, .call .tick] ∧ switched.tick.timer.reload = .idle ∧
      ¬ switched.tick.ints.Asked .timer := by
  intro map again switched
  have steady : Never Falls map [.reset, .call .tick] := ⟨by decide, by decide, trivial⟩
  exact ⟨by decide, by decide, by decide, by decide, by decide, steady, by decide, by decide⟩

end MemoryMap
end DotMatrix
