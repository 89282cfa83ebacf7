import DotMatrix.Proofs.Timer.Edges
import Mathlib.Logic.Function.Iterate

/-! # The timer in M-cycles

The timer counts T-cycles, but it is used between M-cycles only.  There the divider is a multiple of
four, and each bit that can clock the counter lasts for at least four T-cycles; so in an M-cycle the
counter is clocked in the last T-cycle or not at all (`tick_early`), and a countdown of four T-cycles
that is under way between two M-cycles is a whole one.  It ends in the T-cycle in which the clock may
move the reloaded counter on at once (`advance_mcycle`).
-/
namespace DotMatrix

/-- What is left of an overflow one T-cycle later, while no reload is due. -/
def Reload.next : Reload → Reload
  | .pending cycles => .pending (cycles - 1)
  | .idle | .done => .idle

namespace Timer

/-! ## The beginning of an M-cycle -/

/-- The bits that clock the counter change at multiples of four. -/
theorem level_early {timer : Timer} (early : timer.divider.toNat % 4 ≠ 3) :
    { timer with divider := timer.divider + 1 }.level = timer.level := by
  have next : (timer.divider + 1).toNat = timer.divider.toNat + 1 := by
    have small := timer.divider.toNat_lt
    rw [UInt16.toNat_add]
    exact Nat.mod_eq_of_lt (show timer.divider.toNat + 1 < 65536 by omega)
  have same : { timer with divider := timer.divider + 1 }.clockBit = timer.clockBit := rfl
  unfold level
  rw [same]
  dsimp only
  rw [next]
  rcases timer.period_cases with ⟨bit, -⟩ | ⟨bit, -⟩ | ⟨bit, -⟩ | ⟨bit, -⟩ <;>
    · rw [bit]
      simp only [Nat.pow_eq, Nat.reducePow]
      congr 3
      omega

theorem settle_early {timer : Timer} (early : timer.reload ≠ .pending 1) :
    timer.settle = ({ timer with reload := timer.reload.next }, []) := by
  unfold settle
  split <;> rename_i reload
  · rw [reload, Reload.next, ← reload]
  · exact absurd reload early
  · rw [reload, Reload.next]
  · rw [reload, Reload.next]

/-- **A T-cycle that is not the last of its M-cycle** only counts. -/
theorem tick_early {timer : Timer} (coherent : timer.signal = timer.level)
    (early : timer.divider.toNat % 4 ≠ 3) (undue : timer.reload ≠ .pending 1) :
    timer.tick =
      ({ timer with divider := timer.divider + 1, reload := timer.reload.next }, []) := by
  have plain : timer.unclocked .tick =
      { timer with divider := timer.divider + 1, reload := timer.reload.next } := by
    show { timer.settle.1 with divider := timer.divider + 1 } = _
    rw [settle_early undue]
  have seen : (timer.unclocked .tick).signal = (timer.unclocked .tick).level := by
    rw [unclocked_signal, coherent, plain]
    exact (level_early early).symm
  have after : timer.tick.1 = timer.unclocked .tick :=
    (use_eq_sample coherent .tick).trans (sample_of_seen seen)
  have asks : timer.tick.2 = [] := by
    rw [timer.tick_kept.2.2.2, settle_early undue]
  exact Prod.ext (after.trans plain) asks

/-! ## Between two M-cycles -/

/-- The timer as it is between two M-cycles. -/
structure Aligned (timer : Timer) : Prop where
  divider : timer.divider.toNat % 4 = 0
  reload : timer.reload = .idle ∨ timer.reload = .pending 4 ∨ timer.reload = .done

/-- What an M-cycle does apart from the clock: the divider counts, and a countdown ends. -/
def cycled (timer : Timer) : Timer :=
  { timer with
    divider := timer.divider + 4
    counter := if timer.reload = .pending 4 then timer.modulo else timer.counter
    reload := if timer.reload = .pending 4 then .done else .idle }

/-- Time does not make the timer lose sight of its signal. -/
theorem coherent_advance {timer : Timer} (coherent : timer.signal = timer.level) (cycles : Nat) :
    (timer.advance cycles).1.signal = (timer.advance cycles).1.level := by
  cases cycles with
  | zero => exact coherent
  | succ cycles =>
    rw [advance_succ]
    exact coherent_tick _

/-- Up to the last T-cycle of an M-cycle there is only counting. -/
theorem advance_early {timer : Timer} (coherent : timer.signal = timer.level)
    (aligned : timer.Aligned) {cycles : Nat} (few : cycles < 4) : timer.advance cycles =
      ({ timer with
          divider := timer.divider + UInt16.ofNat cycles
          reload := Nat.iterate Reload.next cycles timer.reload }, []) := by
  induction cycles with
  | zero =>
    have same : timer.divider + UInt16.ofNat 0 = timer.divider := UInt16.add_zero _
    rw [same]
    rfl
  | succ cycles ih =>
    have before := ih (Nat.lt_of_succ_lt few)
    have seen := coherent_advance coherent cycles
    rw [before] at seen
    have phase : (timer.divider + UInt16.ofNat cycles).toNat % 4 = cycles := by
      have start := aligned.divider
      rw [UInt16.toNat_add, UInt16.toNat_ofNat']
      omega
    have undue : Nat.iterate Reload.next cycles timer.reload ≠ .pending 1 := by
      obtain rfl | rfl | rfl : cycles = 0 ∨ cycles = 1 ∨ cycles = 2 := by omega
      all_goals rcases aligned.reload with reload | reload | reload <;> rw [reload] <;> decide
    have next := tick_early seen (by dsimp only; omega) undue
    rw [advance_succ, before, next, UInt16.ofNat_add, ← UInt16.add_assoc]
    simp only [Function.iterate_succ_apply']
    rfl

/-- **An M-cycle**: a countdown ends with a reload, for which an interrupt is asked; after that the
counter is clocked if the signal fell. -/
theorem advance_mcycle {timer : Timer} (coherent : timer.signal = timer.level)
    (aligned : timer.Aligned) :
    timer.advance 4 = (timer.cycled.sample, if timer.reload = .pending 4 then [.timer] else []) := by
  have four : timer.divider + 3 + 1 = timer.divider + 4 := UInt16.add_assoc ..
  rw [advance_succ, advance_early coherent aligned (by decide)]
  dsimp only
  unfold tick cycled
  rcases aligned.reload with reload | reload | reload <;>
    simp [reload, Reload.next, settle, four]

/-! ## Alignment is kept -/

theorem Aligned.sample {timer : Timer} (h : timer.Aligned) : timer.sample.Aligned := by
  refine ⟨?_, ?_⟩
  · rw [timer.sample_kept.1]
    exact h.divider
  · rw [sample_reload]
    split
    · exact .inr (.inl rfl)
    · exact h.reload

theorem Aligned.cycled {timer : Timer} (h : timer.Aligned) : timer.cycled.Aligned := by
  have start := h.divider
  refine ⟨?_, ?_⟩
  · show (timer.divider + 4).toNat % 4 = 0
    rw [UInt16.toNat_add]
    show (timer.divider.toNat + 4) % 65536 % 4 = 0
    omega
  · unfold Timer.cycled
    dsimp only
    split
    · exact .inr (.inr rfl)
    · exact .inl rfl

theorem Aligned.advance {timer : Timer} (h : timer.Aligned) (coherent : timer.signal = timer.level) :
    (timer.advance 4).1.Aligned := by
  rw [advance_mcycle coherent h]
  exact h.cycled.sample

theorem Aligned.unclocked {timer : Timer} (h : timer.Aligned) {made : Use} (timeless : made ≠ .tick) :
    (timer.unclocked made).Aligned := by
  cases timer.unclocking made with
  | counted time => exact absurd time timeless
  | cleared after =>
    rw [after]
    exact ⟨rfl, h.reload⟩
  | counter _ _ after =>
    rw [after]
    exact ⟨h.divider, .inl rfl⟩
  | late _ _ after | modulo _ after | control _ after | none after =>
    rw [after]
    exact ⟨h.divider, h.reload⟩

/-- Nothing that is done between M-cycles breaks the alignment. -/
theorem Aligned.use {timer : Timer} (h : timer.Aligned) (coherent : timer.signal = timer.level)
    {made : Use} (timeless : made ≠ .tick) : (timer.use made).Aligned := by
  rw [use_eq_sample coherent]
  exact (h.unclocked timeless).sample

/-! ## Between two M-cycles only the clock and stores reach the counter -/

/-- Without a store to the counter, what is done between M-cycles leaves it and the countdown to the
clock. -/
theorem unclocked_quiet {timer : Timer} {made : Use} (timeless : made ≠ .tick)
    (unstored : ∀ value, made ≠ .write 0xFF05 value) (undone : timer.reload ≠ .done) :
    (timer.unclocked made).counter = timer.counter ∧
      (timer.unclocked made).reload = timer.reload := by
  cases timer.unclocking made with
  | counted time => exact absurd time timeless
  | counter value stored => exact absurd stored (unstored value)
  | late _ done => exact absurd done undone
  | cleared after | modulo _ after | control _ after | none after =>
    rw [after]
    exact ⟨rfl, rfl⟩

end Timer
end DotMatrix
