import DotMatrix.Word

/-! # Interrupts

The five sources in order of priority, and the pair of registers that says which are enabled and
which are requested. When a request is served is the processor's business; here it is only kept.
-/
namespace DotMatrix

/-! ## Sources -/

/-- What can interrupt the processor; the first is served first. -/
inductive Interrupt where
  | vblank
  | lcdStat
  | timer
  | serial
  | joypad
  deriving DecidableEq, Inhabited

namespace Interrupt

/-- All sources in order of priority. -/
def all : List Interrupt := [vblank, lcdStat, timer, serial, joypad]

/-- Position in the order of priority, which is also the number of the source's bit. -/
def index : Interrupt → Nat
  | vblank => 0
  | lcdStat => 1
  | timer => 2
  | serial => 3
  | joypad => 4

/-- The bit of this source in both registers. -/
def bit : Interrupt → UInt8
  | vblank => 0x01
  | lcdStat => 0x02
  | timer => 0x04
  | serial => 0x08
  | joypad => 0x10

/-- Where the handler of this source starts. -/
def vector : Interrupt → UInt16
  | vblank => 0x40
  | lcdStat => 0x48
  | timer => 0x50
  | serial => 0x58
  | joypad => 0x60

theorem bit_eq (source : Interrupt) : source.bit = UInt8.ofNat (Nat.pow 2 source.index) := by
  cases source <;> rfl

theorem vector_eq (source : Interrupt) :
    source.vector = UInt16.ofNat (0x40 + 8 * source.index) := by
  cases source <;> rfl

/-- The first source in order of priority whose bit is set in `mask`. -/
def highest? (mask : UInt8) : Option Interrupt := all.find? fun source => mask &&& source.bit != 0

theorem highest?_eq_none_iff (mask : UInt8) : highest? mask = none ↔ mask &&& 0x1F = 0 := by
  revert mask
  exact forall_byte (by decide +kernel)

end Interrupt

/-! ## The two registers -/

/-- The sources that are enabled (IE, all eight bits kept) and requested (IF, five bits). -/
structure Interrupts where
  enabled : UInt8 := 0
  requested : UInt8 := 0
  deriving DecidableEq, Inhabited

namespace Interrupts

/-- Set the request of one source. -/
def request (ints : Interrupts) (source : Interrupt) : Interrupts :=
  { ints with requested := ints.requested ||| source.bit }

/-- Set the requests of several sources. -/
def requestAll (ints : Interrupts) (sources : List Interrupt) : Interrupts :=
  sources.foldl request ints

/-- Clear the request of one source. -/
def clear (ints : Interrupts) (source : Interrupt) : Interrupts :=
  { ints with requested := ints.requested &&& ~~~source.bit }

/-- Sources both enabled and requested. -/
def pending (ints : Interrupts) : UInt8 := ints.enabled &&& ints.requested &&& 0x1F

/-- The pending source that is served first. -/
def highest? (ints : Interrupts) : Option Interrupt := Interrupt.highest? ints.pending

/-- The request register as read: the bits without a source read as set. -/
def requestByte (ints : Interrupts) : UInt8 := ints.requested ||| 0xE0

/-- Write the request register; only bits with a source are kept. -/
def setRequests (ints : Interrupts) (value : UInt8) : Interrupts :=
  { ints with requested := value &&& 0x1F }

/-- Write the enable register. -/
def setEnabled (ints : Interrupts) (value : UInt8) : Interrupts := { ints with enabled := value }

end Interrupts

/-! ## Devices

A device does not see the registers above. Each of its steps returns the requests that the step
makes, in order; whoever drives the device sets them. -/

namespace Interrupt

/-- `count` steps of a device in a row, and all requests they make, in order. -/
@[specialize]
def collect {σ : Type} (step : σ → σ × List Interrupt) (count : Nat) (start : σ) :
    σ × List Interrupt :=
  go count start []
where
  /-- The steps that are left, with the requests made before them. -/
  go : Nat → σ → List Interrupt → σ × List Interrupt
    | 0, state, made => (state, made)
    | count + 1, state, made =>
      match step state with
      | (state, more) => go count state (made ++ more)

variable {σ : Type} (step : σ → σ × List Interrupt)

theorem go_eq (count : Nat) (state : σ) (made : List Interrupt) :
    collect.go step count state made =
      ((collect.go step count state []).1, made ++ (collect.go step count state []).2) := by
  induction count generalizing state made with
  | zero => simp [collect.go]
  | succ count ih =>
    simp only [collect.go, List.nil_append]
    rw [ih _ (made ++ _), ih _ (step state).2, List.append_assoc]

@[simp]
theorem collect_zero (state : σ) : collect step 0 state = (state, []) := rfl

/-- The first step, and then the others. -/
theorem collect_succ (count : Nat) (state : σ) :
    collect step (count + 1) state =
      ((collect step count (step state).1).1,
        (step state).2 ++ (collect step count (step state).1).2) := by
  simp only [collect, collect.go, List.nil_append]
  exact go_eq step count (step state).1 _

/-- Some steps, and then the others. -/
theorem collect_add (first second : Nat) (state : σ) :
    collect step (first + second) state =
      ((collect step second (collect step first state).1).1,
        (collect step first state).2 ++ (collect step second (collect step first state).1).2) := by
  induction first generalizing state with
  | zero => simp
  | succ first ih =>
    rw [Nat.succ_add, collect_succ, ih, collect_succ]
    simp only [List.append_assoc]

end Interrupt
end DotMatrix
