import DotMatrix.Machine.Run
import DotMatrix.Proofs.Machine.Frames

/-! # Delivery of frames

Whoever owns a machine drives it step by step, in bounded runs, frame by frame or until something is
seen, and changes the buttons in between (`Event`).  All of that is steps in a row (`Run`), and so what
happens to the frames is a matter of single steps.  Delivery is as it should be (`Delivers`) exactly if
no step that fails finishes a frame, and no frame was left over from before (`delivers_iff`): a step
that fails returns before the frame is looked at, and nobody looks later.
-/
namespace DotMatrix
namespace Machine

/-! ## Driving a machine -/

/-- What the owner of a machine does.  A run during which the buttons change is the same steps one by
one. -/
inductive Event where
  | step
  | runForCycles (cycles : Nat)
  | runUntilFrame
  | runUntil {σ : Type} (look : Machine → σ → Bool × σ) (limit : Nat) (memory : σ)
  | press (buttons : Buttons)

/-- The machines at which a run until something is seen makes a step. -/
def visitedUntil {σ : Type} (look : Machine → σ → Bool × σ) (limit spent : Nat) (memory : σ)
    (machine : Machine) : List Machine :=
  match look machine memory with
  | (true, _) => []
  | (false, memory) =>
    if _ : spent < limit then
      match _took : machine.step with
      | (.ok cycles, next) => machine :: visitedUntil look limit (spent + cycles) memory next
      | (.error _, _) => [machine]
    else []
termination_by limit - spent
decreasing_by
  have := (cost_of_step _took).1
  omega

namespace Event

/-- The machine after an event. -/
def apply (machine : Machine) : Event → Machine
  | step => machine.step.2
  | runForCycles cycles => (machine.runForCycles cycles).2
  | runUntilFrame => machine.runUntilFrame.2
  | runUntil look limit memory => (machine.runUntil look limit 0 memory).2.2
  | press buttons => { machine with memory := { machine.memory with buttons := buttons } }

/-- The machines at which an event makes a step. -/
def visited (machine : Machine) : Event → List Machine
  | step => [machine]
  | runForCycles cycles => visitedUntil (fun _ () => (false, ())) cycles 0 () machine
  | runUntilFrame =>
    visitedUntil (fun machine () => (machine.frameDone, ())) cyclesPerFrame 0 ()
      { machine with frameDone := false }
  | runUntil look limit memory => visitedUntil look limit 0 memory machine
  | press _ => []

end Event

/-- The machine after several events. -/
def applyAll (events : List Event) (machine : Machine) : Machine := events.foldl Event.apply machine

/-- The machines at which several events make a step. -/
def visitedAll : List Event → Machine → List Machine
  | [], _ => []
  | event :: events, machine => event.visited machine ++ visitedAll events (event.apply machine)

/-! ## Steps in a row -/

/-- `Run machine visited after` says that steps lead from `machine` to `after`, each made at one of
the machines `visited`, in order.  Between steps the LCD, the processor and the sink are left alone. -/
inductive Run : Machine → List Machine → Machine → Prop where
  | rest (machine : Machine) : Run machine [] machine
  | touch {machine touched after : Machine} {visited : List Machine}
    (cpu : touched.cpu = machine.cpu) (lcd : touched.memory.lcd = machine.memory.lcd)
    (sink : touched.sink = machine.sink) :
    Run touched visited after → Run machine visited after
  | step {machine after : Machine} {visited : List Machine} :
    Run machine.step.2 visited after → Run machine (machine :: visited) after

theorem Run.append {machine between after : Machine} {first second : List Machine}
    (h : Run machine first between) (h' : Run between second after) :
    Run machine (first ++ second) after := by
  induction h with
  | rest => exact h'
  | touch cpu lcd sink _ ih => exact .touch cpu lcd sink (ih h')
  | step _ ih => exact .step (ih h')

section
variable {σ : Type} {look : Machine → σ → Bool × σ} {limit spent : Nat} {memory later : σ}
  {machine : Machine}

theorem runUntil_of_seen (seen : look machine memory = (true, later)) :
    machine.runUntil look limit spent memory = (.ok true, later, machine) := by
  rw [runUntil, seen]

theorem runUntil_of_late (unseen : look machine memory = (false, later)) (late : ¬ spent < limit) :
    machine.runUntil look limit spent memory = (.ok false, later, machine) := by
  rw [runUntil, unseen]
  exact dif_neg late

theorem runUntil_of_ok (unseen : look machine memory = (false, later)) (time : spent < limit)
    {cycles : Nat} {next : Machine} (took : machine.step = (.ok cycles, next)) :
    machine.runUntil look limit spent memory =
      next.runUntil look limit (spent + cycles) later := by
  rw [runUntil, unseen]
  refine (dif_pos time).trans ?_
  rw [took]

theorem runUntil_of_error (unseen : look machine memory = (false, later)) (time : spent < limit)
    {fault : Fault} {next : Machine} (took : machine.step = (.error fault, next)) :
    machine.runUntil look limit spent memory = (.error fault, later, next) := by
  rw [runUntil, unseen]
  refine (dif_pos time).trans ?_
  rw [took]

end

theorem run_runUntil {σ : Type} (look : Machine → σ → Bool × σ) (limit spent : Nat) (memory : σ)
    (machine : Machine) :
    Run machine (visitedUntil look limit spent memory machine)
      (machine.runUntil look limit spent memory).2.2 := by
  fun_induction visitedUntil look limit spent memory machine with
  | case1 spent memory machine later seen =>
    rw [runUntil_of_seen seen]
    exact .rest machine
  | case2 spent memory machine later unseen time cycles next took ih =>
    rw [runUntil_of_ok unseen time took]
    rw [show next = machine.step.2 from (congrArg Prod.snd took).symm] at ih ⊢
    exact .step ih
  | case3 spent memory machine later unseen time fault next took =>
    rw [runUntil_of_error unseen time took]
    refine .step ?_
    rw [took]
    exact .rest next
  | case4 spent memory machine later unseen late =>
    rw [runUntil_of_late unseen late]
    exact .rest machine

/-- A bounded run looks at nothing but its condition. -/
theorem runUnless_eq (stop : Machine → Bool) (limit spent : Nat) (machine : Machine) :
    (runUnless stop limit spent machine).2 =
      (machine.runUntil (fun machine () => (stop machine, ())) limit spent ()).2.2 := by
  fun_induction runUnless stop limit spent machine with
  | case1 spent machine goes cycles next took ih =>
    rw [Bool.and_eq_true, decide_eq_true_eq, Bool.not_eq_true'] at goes
    have unseen : (stop machine, ()) = (false, ()) := by rw [goes.2]
    rw [ih, runUntil_of_ok unseen goes.1 took]
  | case2 spent machine goes fault next took =>
    rw [Bool.and_eq_true, decide_eq_true_eq, Bool.not_eq_true'] at goes
    have unseen : (stop machine, ()) = (false, ()) := by rw [goes.2]
    rw [runUntil_of_error unseen goes.1 took]
  | case3 spent machine ends =>
    cases seen : stop machine with
    | true => rw [runUntil_of_seen (by rw [seen])]
    | false =>
      have late : ¬ spent < limit := by simpa [seen] using ends
      rw [runUntil_of_late (by rw [seen]) late]

/-- **Every event is steps in a row.** -/
theorem run_event (event : Event) (machine : Machine) :
    Run machine (event.visited machine) (event.apply machine) := by
  cases event with
  | step => exact .step (.rest _)
  | runForCycles cycles =>
    show Run machine _ (runUnless (fun _ => false) cycles 0 machine).2
    rw [runUnless_eq]
    exact run_runUntil _ _ _ _ _
  | runUntilFrame =>
    show Run machine _ (runUnless frameDone cyclesPerFrame 0 { machine with frameDone := false }).2
    rw [runUnless_eq]
    exact @Run.touch machine { machine with frameDone := false } _ _ rfl rfl rfl
      (run_runUntil _ _ _ _ _)
  | runUntil look limit memory => exact run_runUntil look limit 0 memory machine
  | press buttons =>
    exact @Run.touch machine (Event.apply machine (.press buttons)) _ _ rfl rfl rfl (.rest _)

theorem run_events (events : List Event) (machine : Machine) :
    Run machine (visitedAll events machine) (applyAll events machine) := by
  induction events generalizing machine with
  | nil => exact .rest machine
  | cons event events ih => exact (run_event event machine).append (ih (event.apply machine))

/-! ## Along a run -/

/-- No step that fails finishes a frame. -/
def NoneMissed (visited : List Machine) : Prop :=
  ∀ stop ∈ visited, ∀ fault, stop.step.1 = .error fault → stop.step.2.frames = stop.frames

/-- If a frame was left over, the first step takes its own frame along with it. -/
def LeftOver (machine : Machine) (visited : List Machine) : Prop :=
  machine.memory.lcd.frameReady = true → ∀ first ∈ visited.head?, ∀ spent,
    first.step.1 = .ok spent → first.step.2.frames = first.frames + 1

/-- From a settled machine nothing is left over: a step that finds a frame is refused. -/
theorem Settled.leftOver {machine : Machine} (settled : machine.Settled) (visited : List Machine) :
    LeftOver machine (machine :: visited) := by
  intro waits first isFirst spent went
  obtain rfl := Option.some.inj isFirst
  exact absurd (fault_of_ok went) (settled waits)

/-- A step hands over no frame but those it finishes. -/
theorem handed_le {machine : Machine} (settled : machine.Settled) :
    machine.frames + machine.handed.length ≤ machine.step.2.frames := by
  cases result : machine.step.1 with
  | ok spent => exact Nat.le_of_eq (frames_of_ok settled result).symm
  | error fault =>
    have frames := machine.frames_step_le
    rw [handed_of_error result, List.length_nil]
    omega

/-- **When a step hands over what it finishes**: if it does not lose a frame by failing, nor hands over
one that was left. -/
theorem handed_eq_iff (machine : Machine) (visited : List Machine) :
    machine.frames + machine.handed.length = machine.step.2.frames ↔
      (∀ fault, machine.step.1 = .error fault → machine.step.2.frames = machine.frames) ∧
        LeftOver machine (machine :: visited) := by
  cases result : machine.step.1 with
  | error fault =>
    rw [handed_of_error result, List.length_nil]
    constructor
    · intro kept
      refine ⟨fun _ _ => kept.symm, fun _ first isFirst spent went => ?_⟩
      obtain rfl := Option.some.inj isFirst
      rw [result] at went
      cases went
    · rintro ⟨none, -⟩
      exact (none fault rfl).symm
  | ok spent =>
    constructor
    · intro kept
      refine ⟨nofun, fun waits first isFirst _ _ => ?_⟩
      obtain rfl := Option.some.inj isFirst
      rw [handed_of_left waits result] at kept
      exact kept.symm
    · rintro ⟨-, left⟩
      cases waits : machine.memory.lcd.frameReady with
      | true =>
        rw [handed_of_left waits result]
        exact (left waits machine rfl spent result).symm
      | false =>
        have settled : machine.Settled := fun ready => by
          rw [waits] at ready
          cases ready
        exact (frames_of_ok settled result).symm

/-- A step that hands over only what it finishes hands it over in time. -/
theorem timely_of_le {machine : Machine}
    (h : machine.frames + machine.handed.length ≤ machine.step.2.frames) {frame : ByteArray}
    (has : frame ∈ machine.handed) :
    machine.step.2.frames = machine.frames + 1 ∧ frame = machine.step.2.screen.rgba := by
  refine ⟨?_, eq_of_mem_handed has⟩
  have some := List.length_pos_of_mem has
  have frames := machine.frames_step_le
  omega

namespace Run
variable {machine after : Machine} {visited : List Machine}

/-- The sink is given what the steps hand over, in order. -/
theorem sink_eq (h : Run machine visited after) : after.sink =
    machine.sink.map fun sink => (visited.flatMap handed).foldl Handoff.publish sink := by
  induction h with
  | rest machine => cases machine.sink <;> rfl
  | touch _ _ sink _ ih => rw [ih, sink]
  | @step machine after visited _ ih =>
    rw [ih, sink_step, Option.map_map]
    congr 1
    funext sink
    simp only [Function.comp, List.flatMap_cons, List.foldl_append]

/-- From a machine without anything left over no step finds anything left over. -/
theorem settled (h : Run machine visited after) (settled : machine.Settled) :
    ∀ stop ∈ visited, stop.Settled := by
  induction h with
  | rest => exact fun stop member => absurd member List.not_mem_nil
  | touch cpu lcd _ _ ih =>
    refine ih ?_
    unfold Settled
    rw [cpu, lcd]
    exact settled
  | @step machine after visited _ ih =>
    intro stop member
    rcases List.mem_cons.mp member with rfl | later
    · exact settled
    · exact ih machine.settled_step stop later

/-- **The books of a run**: no frame is handed over but those finished meanwhile, and all of them are
exactly if none is missed. -/
theorem frames_le (h : Run machine visited after) (settled : machine.Settled) :
    machine.frames + (visited.flatMap handed).length ≤ after.frames ∧
      (machine.frames + (visited.flatMap handed).length = after.frames ↔ NoneMissed visited) := by
  induction h with
  | rest =>
    exact ⟨Nat.le_refl _, fun _ stop member => absurd member List.not_mem_nil, fun _ => rfl⟩
  | @touch machine touched after visited cpu lcd _ _ ih =>
    have same : touched.frames = machine.frames := congrArg Lcd.frames lcd
    rw [← same]
    refine ih ?_
    unfold Settled
    rw [cpu, lcd]
    exact settled
  | @step machine after visited _ ih =>
    obtain ⟨later, none⟩ := ih machine.settled_step
    have first := handed_le settled
    rw [List.flatMap_cons, List.length_append]
    refine ⟨by omega, ?_⟩
    -- Neither part can make up for what the other is short of.
    have both : machine.frames + (machine.handed.length + (visited.flatMap handed).length) =
        after.frames ↔ machine.frames + machine.handed.length = machine.step.2.frames ∧
          machine.step.2.frames + (visited.flatMap handed).length = after.frames := by
      omega
    rw [both, handed_eq_iff machine visited, and_iff_left (settled.leftOver visited), none, NoneMissed,
      NoneMissed, List.forall_mem_cons]

end Run

/-! ## Delivery -/

/-- **Delivery as it should be**, for steps made at `visited` on the way from `machine` to `after`. -/
structure Delivers (machine : Machine) (visited : List Machine) (after : Machine) : Prop where
  /-- As many frames are handed over as are finished. -/
  count : machine.frames + (visited.flatMap handed).length = after.frames
  /-- Each is handed over in the step that finishes it, and is the picture at the end of that step. -/
  timely : ∀ stop ∈ visited, ∀ frame ∈ stop.handed,
    stop.step.2.frames = stop.frames + 1 ∧ frame = stop.step.2.screen.rgba

/-- **When delivery is as it should be**: exactly if no step that fails finishes a frame, and nothing
was left over that is handed over too late. -/
theorem Run.delivers_iff {machine after : Machine} {visited : List Machine}
    (h : Run machine visited after) :
    Delivers machine visited after ↔ NoneMissed visited ∧ LeftOver machine visited := by
  induction h with
  | rest =>
    constructor
    · intro _
      refine ⟨fun stop member => absurd member List.not_mem_nil, fun _ first isFirst => ?_⟩
      cases isFirst
    · intro _
      exact ⟨rfl, fun stop member => absurd member List.not_mem_nil⟩
  | @touch machine touched after visited cpu lcd _ _ ih =>
    have same : touched.frames = machine.frames := congrArg Lcd.frames lcd
    have left : LeftOver touched visited ↔ LeftOver machine visited := by
      unfold LeftOver
      rw [lcd]
    rw [← left, ← ih]
    constructor
    · intro good
      exact ⟨same ▸ good.count, good.timely⟩
    · intro good
      exact ⟨same ▸ good.count, good.timely⟩
  | @step machine after visited rest _ =>
    obtain ⟨finished, all⟩ := rest.frames_le machine.settled_step
    have settled := rest.settled machine.settled_step
    have first := handed_eq_iff machine visited
    constructor
    · intro good
      have count := good.count
      rw [List.flatMap_cons, List.length_append] at count
      have few := length_handed_le machine
      have frames := machine.frames_step_le
      -- A first step in time hands over no more than it finishes, and so do all the others: none of
      -- them can make up for another.
      have own : machine.handed.length ≠ 0 → machine.step.2.frames = machine.frames + 1 := by
        intro some
        obtain ⟨frame, has⟩ := List.exists_mem_of_length_pos (Nat.pos_of_ne_zero some)
        exact (good.timely machine List.mem_cons_self frame has).1
      obtain ⟨now, left⟩ := first.mp (by omega)
      exact ⟨List.forall_mem_cons.mpr ⟨now, all.mp (by omega)⟩, left⟩
    · rintro ⟨none, left⟩
      obtain ⟨now, later⟩ := List.forall_mem_cons.mp none
      have kept := first.mpr ⟨now, left⟩
      have keptLater := all.mpr later
      refine ⟨?_, List.forall_mem_cons.mpr ⟨fun frame => timely_of_le (Nat.le_of_eq kept), ?_⟩⟩
      · rw [List.flatMap_cons, List.length_append]
        omega
      · exact fun stop member frame => timely_of_le (handed_le (settled stop member))

/-- **Delivery of frames.**  Whatever a machine with a sink goes through, the sink is given exactly the
frames that the steps hand over, in order; and that is every finished frame, once, in the step that
finishes it, exactly if no step that fails finishes one and none was left over. -/
theorem delivers_iff_none_missed (machine : Machine) (sink : Handoff) (events : List Event) :
    let start := machine.setSink sink
    let visited := visitedAll events start
    let after := applyAll events start
    after.sink = some ((visited.flatMap handed).foldl Handoff.publish sink) ∧
      (Delivers start visited after ↔ NoneMissed visited ∧ LeftOver start visited) := by
  intro start visited after
  have run : Run start visited after := run_events events start
  exact ⟨run.sink_eq, run.delivers_iff⟩

/-- A machine that is about to fetch an opcode that names nothing, in the M-cycle in which its LCD
finishes a frame. -/
def losing : Machine where
  cpu := .powerOn
  memory :=
    { boot := ⟨#[0xD3]⟩
      bootMapped := true
      lcd := { control := ⟨0x80⟩, line := 143, mode := .hblank, clock := 200 } }

/-- **Not every frame is delivered**: that of `losing` never is. -/
theorem not_delivers : ¬ ∀ (machine : Machine) (sink : Handoff) (events : List Event),
    Delivers (machine.setSink sink) (visitedAll events (machine.setSink sink))
      (applyAll events (machine.setSink sink)) := by
  intro always
  have count := (always losing .empty [.step]).count
  exact absurd count (by decide)

end Machine
end DotMatrix
