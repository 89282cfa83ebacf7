import DotMatrix.Bus.Basic

/-! # Dialogues with a bus

One step of the processor is a finite conversation with its bus: each node is one call, and where the
bus answers, the answer chooses how it goes on. A dialogue is written down before there is any bus,
so what a step does can be said once for all buses: `run` holds it with a given one, and `record`
also writes down the calls.
-/
namespace DotMatrix

/-- A conversation with a bus that ends in a result. -/
inductive Dialogue (α : Type) where
  | done (result : α)
  | poll (rest : Dialogue α)
  | read (address : UInt16) (rest : UInt8 → Dialogue α)
  | write (address : UInt16) (value : UInt8) (rest : Dialogue α)
  | tick (rest : Dialogue α)
  | pending (rest : UInt8 → Dialogue α)
  | acknowledge (source : Interrupt) (rest : Dialogue α)
  | buttonHeld (rest : Bool → Dialogue α)
  | resetDivider (rest : Dialogue α)

namespace Dialogue
variable {α γ β : Type}

/-! ## Sequencing -/

/-- Go on with `next` where `dialogue` ends. -/
def bind (dialogue : Dialogue α) (next : α → Dialogue γ) : Dialogue γ :=
  match dialogue with
  | done result => next result
  | poll rest => poll (rest.bind next)
  | read address rest => read address fun value => (rest value).bind next
  | write address value rest => write address value (rest.bind next)
  | tick rest => tick (rest.bind next)
  | pending rest => pending fun mask => (rest mask).bind next
  | acknowledge source rest => acknowledge source (rest.bind next)
  | buttonHeld rest => buttonHeld fun held => (rest held).bind next
  | resetDivider rest => resetDivider (rest.bind next)

instance : Monad Dialogue where
  pure := done
  bind := bind

/-! ## Holding a dialogue -/

/-- Hold the dialogue with a bus: the result, and the bus afterwards. -/
@[specialize]
def run [Bus β] : Dialogue α → β → α × β
  | done result, bus => (result, bus)
  | poll rest, bus => rest.run (Bus.poll bus)
  | read address rest, bus =>
    match Bus.read bus address with
    | (value, bus) => (rest value).run bus
  | write address value rest, bus => rest.run (Bus.write bus address value)
  | tick rest, bus => rest.run (Bus.tick bus)
  | pending rest, bus => (rest (Bus.pending bus)).run bus
  | acknowledge source rest, bus => rest.run (Bus.acknowledge bus source)
  | buttonHeld rest, bus => (rest (Bus.buttonHeld bus)).run bus
  | resetDivider rest, bus => rest.run (Bus.resetDivider bus)

/-- Hold the dialogue and write down the calls in the order in which they were made. Questions that
leave the bus alone are not calls. -/
@[specialize]
def record [Bus β] : Dialogue α → β → List Call × α × β
  | done result, bus => ([], result, bus)
  | poll rest, bus =>
    let (calls, out) := rest.record (Bus.poll bus)
    (.poll :: calls, out)
  | read address rest, bus =>
    let (value, bus) := Bus.read bus address
    let (calls, out) := (rest value).record bus
    (.read address value :: calls, out)
  | write address value rest, bus =>
    let (calls, out) := rest.record (Bus.write bus address value)
    (.write address value :: calls, out)
  | tick rest, bus =>
    let (calls, out) := rest.record (Bus.tick bus)
    (.tick :: calls, out)
  | pending rest, bus => (rest (Bus.pending bus)).record bus
  | acknowledge source rest, bus =>
    let (calls, out) := rest.record (Bus.acknowledge bus source)
    (.acknowledge source :: calls, out)
  | buttonHeld rest, bus => (rest (Bus.buttonHeld bus)).record bus
  | resetDivider rest, bus =>
    let (calls, out) := rest.record (Bus.resetDivider bus)
    (.resetDivider :: calls, out)

/-- Writing down the calls changes neither the result nor the bus. -/
theorem record_snd [Bus β] (dialogue : Dialogue α) (bus : β) :
    (dialogue.record bus).2 = dialogue.run bus := by
  induction dialogue generalizing bus with
  | buttonHeld rest ih => exact ih _ _
  | _ => simp_all [record, run]

/-- Holding two dialogues in a row. -/
theorem run_bind [Bus β] (dialogue : Dialogue α) (next : α → Dialogue γ) (bus : β) :
    (dialogue.bind next).run bus = (next (dialogue.run bus).1).run (dialogue.run bus).2 := by
  induction dialogue generalizing bus with
  | buttonHeld rest ih => exact ih _ _
  | _ => simp_all [bind, run]

/-- Writing down two dialogues in a row. -/
theorem record_bind [Bus β] (dialogue : Dialogue α) (next : α → Dialogue γ) (bus : β) :
    (dialogue.bind next).record bus =
      let first := dialogue.record bus
      let second := (next first.2.1).record first.2.2
      (first.1 ++ second.1, second.2) := by
  induction dialogue generalizing bus with
  | buttonHeld rest ih => exact ih _ _
  | _ => simp_all [bind, record]

/-! ## What holds however the bus answers -/

/-- `p` holds of the calls made and of the result, whatever the bus answers. -/
def Meets : Dialogue α → (List Call → α → Prop) → Prop
  | done result, p => p [] result
  | poll rest, p => rest.Meets fun calls => p (.poll :: calls)
  | read address rest, p =>
    ∀ value, (rest value).Meets fun calls => p (.read address value :: calls)
  | write address value rest, p => rest.Meets fun calls => p (.write address value :: calls)
  | tick rest, p => rest.Meets fun calls => p (.tick :: calls)
  | pending rest, p => ∀ mask, (rest mask).Meets p
  | acknowledge source rest, p => rest.Meets fun calls => p (.acknowledge source :: calls)
  | buttonHeld rest, p => ∀ held, (rest held).Meets p
  | resetDivider rest, p => rest.Meets fun calls => p (.resetDivider :: calls)

theorem Meets.mono {p q : List Call → α → Prop} {dialogue : Dialogue α} (h : dialogue.Meets p)
    (le : ∀ calls result, p calls result → q calls result) : dialogue.Meets q := by
  induction dialogue generalizing p q with
  | done => exact le _ _ h
  | poll _ ih | write _ _ _ ih | tick _ ih | acknowledge _ _ ih | resetDivider _ ih =>
    exact ih h fun _ => le _
  | read _ _ ih => exact fun value => ih value (h value) fun _ => le _
  | pending _ ih => exact fun mask => ih mask (h mask) le
  | buttonHeld _ ih => exact fun held => ih held (h held) le

theorem Meets.and {p q : List Call → α → Prop} {dialogue : Dialogue α} (hp : dialogue.Meets p)
    (hq : dialogue.Meets q) : dialogue.Meets fun calls result => p calls result ∧ q calls result := by
  induction dialogue generalizing p q with
  | done => exact ⟨hp, hq⟩
  | poll _ ih | write _ _ _ ih | tick _ ih | acknowledge _ _ ih | resetDivider _ ih => exact ih hp hq
  | read _ _ ih => exact fun value => ih value (hp value) (hq value)
  | pending _ ih => exact fun mask => ih mask (hp mask) (hq mask)
  | buttonHeld _ ih => exact fun held => ih held (hp held) (hq held)

/-- Of two dialogues in a row the second goes on with the calls of the first behind it. -/
theorem Meets.bind {p : List Call → α → Prop} {q : List Call → γ → Prop} {dialogue : Dialogue α}
    {next : α → Dialogue γ} (h : dialogue.Meets p)
    (k : ∀ calls result, p calls result → (next result).Meets fun more => q (calls ++ more)) :
    (dialogue.bind next).Meets q := by
  induction dialogue generalizing p q with
  | done => exact k _ _ h
  | poll _ ih | write _ _ _ ih | tick _ ih | acknowledge _ _ ih | resetDivider _ ih =>
    exact ih h fun _ => k _
  | read _ _ ih => exact fun value => ih value (h value) fun _ => k _
  | pending _ ih => exact fun mask => ih mask (h mask) k
  | buttonHeld _ ih => exact fun held => ih held (h held) k

/-- What holds however the bus answers holds of what is written down. -/
theorem Meets.of_record [Bus β] {p : List Call → α → Prop} {dialogue : Dialogue α}
    (h : dialogue.Meets p) (bus : β) : p (dialogue.record bus).1 (dialogue.record bus).2.1 := by
  induction dialogue generalizing p bus with
  | done => exact h
  | poll _ ih | write _ _ _ ih | tick _ ih | acknowledge _ _ ih | resetDivider _ ih => exact ih h _
  | read _ _ ih => exact ih _ (h _) _
  | pending _ ih => exact ih _ (h _) _
  | buttonHeld _ ih => exact ih _ (h _) _

theorem Meets.of_run [Bus β] {p : α → Prop} {dialogue : Dialogue α}
    (h : dialogue.Meets fun _ => p) (bus : β) : p (dialogue.run bus).1 := by
  rw [← record_snd]
  exact h.of_record bus

/-! ## What the bus keeps -/

/-- `holds n` speaks of a bus to which `n` M-cycles have been passed on; no call breaks it, and an
M-cycle leads from `n` to `n + 1`. -/
structure Keeps [Bus β] (holds : Nat → β → Prop) : Prop where
  read : ∀ {n bus}, holds n bus → ∀ address, holds n (Bus.read bus address).2
  write : ∀ {n bus}, holds n bus → ∀ address value, holds n (Bus.write bus address value)
  tick : ∀ {n bus}, holds n bus → holds (n + 1) (Bus.tick bus)
  acknowledge : ∀ {n bus}, holds n bus → ∀ source, holds n (Bus.acknowledge bus source)
  poll : ∀ {n bus}, holds n bus → holds n (Bus.poll bus)
  resetDivider : ∀ {n bus}, holds n bus → holds n (Bus.resetDivider bus)

/-- **An invariant of the bus holds after every dialogue**, with the M-cycles counted. -/
theorem Keeps.run [Bus β] {holds : Nat → β → Prop} (keeps : Keeps holds) (dialogue : Dialogue α)
    {n : Nat} {bus : β} (h : holds n bus) :
    holds (n + (dialogue.record bus).1.count .tick) (dialogue.run bus).2 := by
  induction dialogue generalizing n bus with
  | done => exact h
  | poll _ ih => exact ih (keeps.poll h)
  | read address _ ih => exact ih _ (keeps.read h address)
  | write address value _ ih => exact ih (keeps.write h address value)
  | tick rest ih =>
    have more := ih (keeps.tick h)
    rw [Nat.add_right_comm, Nat.add_assoc] at more
    show holds (n + List.count Call.tick (Call.tick :: (rest.record (Bus.tick bus)).1)) _
    rwa [List.count_cons_self]
  | pending _ ih => exact ih _ h
  | acknowledge source _ ih => exact ih (keeps.acknowledge h source)
  | buttonHeld _ ih => exact ih _ h
  | resetDivider _ ih => exact ih (keeps.resetDivider h)

end Dialogue
end DotMatrix
