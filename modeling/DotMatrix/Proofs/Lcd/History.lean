import DotMatrix.Proofs.Lcd.Representation

/-! # The history of an LCD

A run of an LCD is a list of uses, in which time passes in calls of any size.  Its history is finer: a
call is cut into the slices it consists of (`Use.pieces`), which leaves the run what it was
(`drive_pieces`), and every slice or access is an event that remembers the LCD it found.  What is said
about the past is read off the events alone: whether the LCD was on, which line was drawn, when a frame
was finished.

`Course` ties a history to the states of its run, so that an invariant takes one induction, and
`Event.happening` is the one place where an event is taken apart.
-/
namespace DotMatrix
namespace Lcd

/-! ## Cutting a run into slices -/

theorem drive_append (first second : List Use) (lcd : Lcd) :
    drive (first ++ second) lcd = ((drive second (drive first lcd).1).1,
      (drive first lcd).2 ++ (drive second (drive first lcd).1).2) := by
  induction first generalizing lcd with
  | nil => rfl
  | cons use first ih =>
    rw [List.cons_append, drive, ih, drive]
    simp only [List.append_assoc]

namespace Use

/-- The uses that a use consists of: a call is as many full slices as there are, and a shorter one for
the rest. -/
def pieces : Use → List Use
  | pass cycles =>
    List.replicate (cycles / 4) (pass 4) ++ if cycles % 4 = 0 then [] else [pass (cycles % 4)]
  | use => [use]

/-- The use takes no time, or is one slice. -/
def Short : Use → Prop
  | pass cycles => 0 < cycles ∧ cycles ≤ 4
  | _ => True

theorem short_of_mem_pieces {use piece : Use} (h : piece ∈ use.pieces) : piece.Short := by
  cases use with
  | pass cycles =>
    rcases List.mem_append.mp h with full | rest
    · rw [List.eq_of_mem_replicate full]
      exact ⟨by decide, by decide⟩
    · split at rest
      · cases rest
      · rw [List.mem_singleton.mp rest]
        exact ⟨by omega, by omega⟩
  | register | video | objects | ask =>
    rw [List.mem_singleton.mp h]
    trivial

end Use

/-- Full slices in a row. -/
theorem drive_replicate (count : Nat) (lcd : Lcd) :
    drive (List.replicate count (.pass 4)) lcd = Interrupt.collect (slice 4) count lcd := by
  induction count generalizing lcd with
  | zero => rfl
  | succ count ih =>
    have first : Use.perform (.pass 4) lcd = lcd.slice 4 := lcd.advance_four
    rw [List.replicate_succ, drive, ih, first, Interrupt.collect_succ]

theorem drive_pieces (use : Use) (lcd : Lcd) : drive use.pieces lcd = use.perform lcd := by
  cases use with
  | pass cycles =>
    rw [Use.pieces, drive_append, drive_replicate]
    show _ = lcd.advance cycles
    unfold advance
    dsimp only
    split
    · simp only [drive, List.append_nil]
    · have rest := advance_of_short (Interrupt.collect (slice 4) (cycles / 4) lcd).1
        (by omega : 0 < cycles % 4) (by omega)
      simp only [drive, Use.perform, rest, List.append_nil]
  | register | video | objects | ask => rfl

/-- **Cutting a run into slices leaves it what it was.** -/
theorem drive_flatMap_pieces (uses : List Use) (lcd : Lcd) :
    drive (uses.flatMap Use.pieces) lcd = drive uses lcd := by
  induction uses generalizing lcd with
  | nil => rfl
  | cons use uses ih => rw [List.flatMap_cons, drive_append, drive_pieces, ih, drive]

/-! ## Events -/

/-- What was done at a moment of a run, and the LCD that it was done to. -/
structure Event where
  before : Lcd
  use : Use

namespace Event

/-- The LCD after the event. -/
def after (event : Event) : Lcd := (event.use.perform event.before).1

/-- The interrupts asked for by the event. -/
def requests (event : Event) : List Interrupt := (event.use.perform event.before).2

/-- A slice that finds the LCD on. -/
def ticks (event : Event) : Bool :=
  match event.use with
  | .pass _ => event.before.control.enabled
  | _ => false

/-- The LCD is switched on. -/
def switchesOn (event : Event) : Bool :=
  !event.before.control.enabled && event.after.control.enabled

/-- The LCD is switched off. -/
def switchesOff (event : Event) : Bool :=
  event.before.control.enabled && !event.after.control.enabled

/-- The line that is drawn: the one that leaves the mode for drawing for the wait at its end, in a slice
and not by being cut short. -/
def draws (event : Event) : Option Nat :=
  if event.ticks && event.before.mode == .transfer && event.after.mode == .hblank then
    some event.before.line
  else none

/-- The time between two frames is entered. -/
def enters (event : Event) : Bool :=
  event.ticks && event.before.mode != .vblank && event.after.mode == .vblank

/-- The line goes back to the first one. -/
def wraps (event : Event) : Bool :=
  event.ticks && event.before.line != 0 && event.after.line == 0

end Event

/-- The events of uses that are performed one after the other. -/
def record : List Use → Lcd → List Event
  | [], _ => []
  | use :: uses, lcd => ⟨lcd, use⟩ :: record uses (use.perform lcd).1

theorem record_append (first second : List Use) (lcd : Lcd) :
    record (first ++ second) lcd = record first lcd ++ record second (drive first lcd).1 := by
  induction first generalizing lcd with
  | nil => rfl
  | cons use first ih => rw [List.cons_append, record, ih, record, drive, List.cons_append]

/-- **The history of a run**: its slices and accesses, in order. -/
def history (uses : List Use) (lcd : Lcd) : List Event := record (uses.flatMap Use.pieces) lcd

theorem history_append (first second : List Use) (lcd : Lcd) :
    history (first ++ second) lcd = history first lcd ++ history second (drive first lcd).1 := by
  rw [history, List.flatMap_append, record_append, drive_flatMap_pieces, history, history]

/-- What came after the last event of a kind, latest first. -/
def since (mark : Event → Bool) (past : List Event) : List Event :=
  past.reverse.takeWhile fun event => !mark event

theorem since_concat (mark : Event → Bool) (past : List Event) (event : Event) :
    since mark (past ++ [event]) = if mark event then [] else event :: since mark past := by
  unfold since
  rw [List.reverse_append, List.reverse_singleton, List.singleton_append, List.takeWhile_cons]
  cases mark event <;> rfl

theorem requests_record (uses : List Use) (lcd : Lcd) :
    (record uses lcd).flatMap Event.requests = (drive uses lcd).2 := by
  induction uses generalizing lcd with
  | nil => rfl
  | cons use uses ih =>
    rw [record, List.flatMap_cons, ih]
    rfl

/-- The interrupts of a run are those of its history. -/
theorem requests_history (uses : List Use) (lcd : Lcd) :
    (history uses lcd).flatMap Event.requests = (drive uses lcd).2 := by
  rw [history, requests_record, drive_flatMap_pieces]

/-! ## The course of a run -/

/-- The events that led from a start to where the LCD is. -/
inductive Course (start : Lcd) : List Event → Lcd → Prop where
  | nil : Course start [] start
  | concat {past : List Event} {lcd : Lcd} (use : Use) (short : use.Short) :
    Course start past lcd → Course start (past ++ [⟨lcd, use⟩]) (use.perform lcd).1

namespace Course
variable {start lcd : Lcd} {past later : List Event} {event : Event}

theorem record {uses : List Use} (course : Course start past lcd) (short : ∀ use ∈ uses, use.Short) :
    Course start (past ++ Lcd.record uses lcd) (drive uses lcd).1 := by
  induction uses generalizing past lcd with
  | nil => rwa [Lcd.record, List.append_nil]
  | cons use uses ih =>
    have first := course.concat use (short use List.mem_cons_self)
    have rest := ih first fun later member => short later (List.mem_cons_of_mem use member)
    rwa [List.append_assoc] at rest

/-- **Every run takes the course of its history.** -/
theorem history (uses : List Use) (start : Lcd) :
    Course start (Lcd.history uses start) (drive uses start).1 := by
  have short : ∀ piece ∈ uses.flatMap Use.pieces, piece.Short := by
    intro piece member
    obtain ⟨use, -, inUse⟩ := List.mem_flatMap.mp member
    exact Use.short_of_mem_pieces inUse
  have course := Course.record (.nil : Course start [] start) short
  rwa [drive_flatMap_pieces] at course

/-- A course can be parted at any event. -/
theorem split (course : Course start (past ++ later) lcd) :
    ∃ middle, Course start past middle ∧ Course middle later lcd := by
  generalize whole : past ++ later = events at course
  induction course generalizing later with
  | nil =>
    obtain ⟨rfl, rfl⟩ := List.append_eq_nil_iff.mp whole
    exact ⟨start, .nil, .nil⟩
  | @concat earlier lcd use short course ih =>
    rcases List.eq_nil_or_concat later with rfl | ⟨later, last, rfl⟩
    · rw [List.append_nil] at whole
      subst whole
      exact ⟨_, course.concat use short, .nil⟩
    · rw [List.concat_eq_append, ← List.append_assoc] at whole
      obtain ⟨earlier, same⟩ := List.append_inj' whole rfl
      obtain ⟨middle, first, second⟩ := ih earlier
      rw [List.concat_eq_append, List.singleton_inj.mp same]
      exact ⟨middle, first, second.concat use short⟩

/-- The last step of a course. -/
theorem of_concat (course : Course start (past ++ [event]) lcd) :
    Course start past event.before ∧ event.use.Short ∧ lcd = event.after := by
  generalize whole : past ++ [event] = events at course
  cases course with
  | nil => simp at whole
  | concat use short earlier =>
    obtain ⟨rfl, same⟩ := List.append_inj' whole rfl
    obtain rfl := List.singleton_inj.mp same
    exact ⟨earlier, short, rfl⟩

/-- What was done before an event led to the LCD that it found. -/
theorem before (course : Course start (past ++ event :: later) lcd) :
    Course start past event.before ∧ event.use.Short := by
  rw [← List.singleton_append, ← List.append_assoc] at course
  obtain ⟨middle, first, -⟩ := course.split
  obtain ⟨earlier, short, -⟩ := first.of_concat
  exact ⟨earlier, short⟩

/-- A run leads from reachable states to reachable ones. -/
theorem reachable (course : Course start past lcd) (h : Reachable start) : Reachable lcd := by
  induction course with
  | nil => exact h
  | concat use _ _ ih =>
    cases use with
    | pass cycles => exact ih.advance cycles
    | register address value => exact ih.write address value
    | video address value => exact ih.writeVram address value
    | objects address value => exact ih.writeOam address value
    | ask => exact ih.takeFrameReady

end Course

/-! ## What can happen at an event -/

theorem Use.perform_pass {cycles : Nat} (short : (pass cycles).Short) (lcd : Lcd) :
    (pass cycles).perform lcd = lcd.slice cycles :=
  lcd.advance_of_short short.1 short.2

namespace Event

/-- All that can happen at an event at which no time passes, or none for the LCD. -/
inductive Untimed (event : Event) : Prop where
  | still (enabled : event.after.control.enabled = event.before.control.enabled)
    (mode : event.after.mode = event.before.mode) (line : event.after.line = event.before.line)
    (windowLine : event.after.windowLine = event.before.windowLine)
    (screen : event.after.screen = event.before.screen)
    (statLine : event.after.statLine = event.before.statLine)
  | off (wasOn : event.before.control.enabled = true) (isOff : event.after.control.enabled = false)
    (windowLine : event.after.windowLine = 0) (screen : event.after.screen = event.before.screen)
    (statLine : event.after.statLine = false)
  | on (wasOff : event.before.control.enabled = false) (isOn : event.after.control.enabled = true)
    (mode : event.after.mode = .search) (line : event.after.line = event.before.line)
    (windowLine : event.after.windowLine = event.before.windowLine)
    (screen : event.after.screen = event.before.screen)
    (statLine : event.after.statLine = event.before.statLine)

/-- Without time nothing is asked for. -/
theorem untimed {event : Event} (short : event.use.Short) (untimed : event.ticks = false) :
    Untimed event ∧ event.requests = [] := by
  obtain ⟨before, use⟩ := event
  cases use with
  | pass cycles =>
    have off : before.control.enabled = false := untimed
    have nothing : Use.perform (.pass cycles) before = (before, []) := by
      rw [Use.perform_pass short, slice_of_off off]
    have after : after ⟨before, .pass cycles⟩ = before := congrArg Prod.fst nothing
    refine ⟨?_, congrArg Prod.snd nothing⟩
    apply Untimed.still <;> rw [after]
  | register address value =>
    refine ⟨?_, rfl⟩
    by_cases control : address = 0xFF40
    · subst control
      have after : after ⟨before, .register 0xFF40 value⟩ = before.setControl value := rfl
      cases before.switching value with
      | off wasOn isOff switched =>
        rw [switched] at after
        apply Untimed.off wasOn <;> rw [after]
        exact isOff
      | on wasOff isOn switched =>
        rw [switched] at after
        have alike := alike_compareLine
          { before with control := ⟨value⟩, mode := .search, clock := 0 }
        apply Untimed.on wasOff <;> rw [after]
        · rw [alike.control]
          exact isOn
        · exact alike.mode
        · exact alike.line
        · exact alike.windowLine
        · exact alike.screen
        · exact alike.statLine
      | same kept switched =>
        rw [switched] at after
        apply Untimed.still <;> rw [after]
        exact kept
    · have alike := before.alike_write control value
      exact .still (congrArg Control.enabled alike.control) alike.mode alike.line alike.windowLine
        alike.screen alike.statLine
  | video | objects | ask => exact ⟨.still rfl rfl rfl rfl rfl rfl, rfl⟩

/-- A slice of an LCD that is on. -/
theorem timed {event : Event} (short : event.use.Short) (timed : event.ticks = true) :
    event.before.control.enabled = true ∧ ∃ cycles, event.use = .pass cycles ∧ cycles ≤ 4 ∧
      event.after = (event.before.slice cycles).1 ∧
      event.requests = (event.before.slice cycles).2 := by
  obtain ⟨before, use⟩ := event
  cases use with
  | pass cycles =>
    have sliced := Use.perform_pass short before
    exact ⟨timed, cycles, rfl, short.2, congrArg Prod.fst sliced, congrArg Prod.snd sliced⟩
  | register | video | objects | ask => cases timed

/-- What a history tells of an event. -/
structure Marked (event : Event) (draws : Option Nat) (enters wraps : Bool) : Prop where
  draws : event.draws = draws
  enters : event.enters = enters
  wraps : event.wraps = wraps

/-- **All that can happen at an event**, as far as the picture is concerned. -/
inductive Happening (event : Event) : Prop where
  /-- Nothing, or the next mode of the line or the next line begins. -/
  | quiet (marked : Marked event none false false)
    (enabled : event.after.control.enabled = event.before.control.enabled)
    (between : event.after.mode = .vblank ↔ event.before.mode = .vblank)
    (linesDrawn : event.after.linesDrawn = event.before.linesDrawn)
    (windowLine : event.after.windowLine = event.before.windowLine)
    (screen : event.after.screen = event.before.screen)
  | drawn (marked : Marked event (some event.before.line) false false)
    (wasOn : event.before.control.enabled = true) (isOn : event.after.control.enabled = true)
    (was : event.before.mode = .transfer) (mode : event.after.mode = .hblank)
    (line : event.after.line = event.before.line)
    (windowLine : event.after.windowLine =
      if event.before.windowShown then event.before.windowLine + 1 else event.before.windowLine)
    (screen : event.after.screen = event.before.screen.setRow event.before.line event.before.row)
  /-- The frame is finished. -/
  | entry (marked : Marked event none true false)
    (wasOn : event.before.control.enabled = true) (isOn : event.after.control.enabled = true)
    (was : event.before.mode = .hblank) (last : event.before.line = 143)
    (mode : event.after.mode = .vblank) (ready : event.after.frameReady = true)
    (windowLine : event.after.windowLine = event.before.windowLine)
    (screen : event.after.screen = event.before.screen)
  /-- The first line of the next frame begins. -/
  | top (marked : Marked event none false true)
    (wasOn : event.before.control.enabled = true) (isOn : event.after.control.enabled = true)
    (was : event.before.mode = .vblank) (mode : event.after.mode = .search)
    (line : event.after.line = 0) (windowLine : event.after.windowLine = 0)
    (screen : event.after.screen = event.before.screen)
  | off (marked : Marked event none false false)
    (wasOn : event.before.control.enabled = true) (isOff : event.after.control.enabled = false)
    (windowLine : event.after.windowLine = 0) (screen : event.after.screen = event.before.screen)
  | on (marked : Marked event none false false)
    (wasOff : event.before.control.enabled = false) (isOn : event.after.control.enabled = true)
    (mode : event.after.mode = .search) (line : event.after.line = event.before.line)
    (windowLine : event.after.windowLine = event.before.windowLine)
    (screen : event.after.screen = event.before.screen)

theorem marked_of_untimed {event : Event} (untimed : event.ticks = false) :
    Marked event none false false := by
  constructor <;> simp [draws, enters, wraps, untimed]

theorem happening_of_timed {event : Event} (short : event.use.Short) (ticks : event.ticks = true) :
    Happening event := by
  obtain ⟨on, cycles, -, -, after, -⟩ := timed short ticks
  obtain ⟨coincidence, level, sliced⟩ := exists_slice_eq on cycles
  rw [sliced] at after
  cases (event.before.later cycles).turning with
  | stays _ turned =>
    rw [turned] at after
    have marked : Marked event none false false := by
      constructor
      · cases mode : event.before.mode <;> simp [draws, after, mode]
      · cases mode : event.before.mode <;> simp [enters, after, mode]
      · simp [wraps, after]
    apply Happening.quiet marked <;> rw [after]
    exact linesDrawn_congr rfl rfl
  | next was _ _ turned =>
    replace was : event.before.mode = .hblank := was
    rw [turned] at after
    have marked : Marked event none false false := by
      constructor <;> simp [draws, enters, wraps, after]
    apply Happening.quiet marked <;> rw [after]
    · simp [was]
    · simp [linesDrawn, was]
  | between was _ _ turned =>
    replace was : event.before.mode = .vblank := was
    rw [turned] at after
    have marked : Marked event none false false := by
      constructor <;> simp [draws, enters, wraps, after, was]
    apply Happening.quiet marked <;> rw [after]
    simp [linesDrawn, was]
  | searched was _ turned =>
    replace was : event.before.mode = .search := was
    rw [turned] at after
    have marked : Marked event none false false := by
      constructor <;> simp [draws, enters, wraps, after, search]
    apply Happening.quiet marked <;> rw [after]
    · rfl
    · simp [was]
    · simp [linesDrawn, was, search]
    · rfl
    · rfl
  | drawn was _ turned =>
    replace was : event.before.mode = .transfer := was
    rw [turned] at after
    have marked : Marked event (some event.before.line) false false := by
      constructor <;> simp [draws, enters, wraps, after, was, ticks, draw]
    apply Happening.drawn marked on _ was <;> rw [after]
    · rfl
    · rfl
    · rfl
    · exact on
  | entry was _ last turned =>
    replace was : event.before.mode = .hblank := was
    rw [turned] at after
    have marked : Marked event none true false := by
      constructor <;> simp [draws, enters, wraps, after, was, ticks]
    apply Happening.entry marked on _ was last <;> rw [after]
    exact on
  | top was _ last turned =>
    replace was : event.before.mode = .vblank := was
    rw [turned] at after
    have marked : Marked event none false true := by
      have line : event.before.line ≠ 0 := Nat.ne_of_gt (Nat.lt_of_lt_of_le (by decide) last)
      constructor <;> simp [draws, enters, wraps, after, was, ticks, line]
    apply Happening.top marked on _ was <;> rw [after]
    exact on

/-- **Every event is one of these.** -/
theorem happening {event : Event} (short : event.use.Short) : Happening event := by
  by_cases ticks : event.ticks = true
  · exact happening_of_timed short ticks
  have ticks : event.ticks = false := Bool.eq_false_iff.mpr ticks
  have marked := marked_of_untimed ticks
  cases (untimed short ticks).1 with
  | still enabled mode line windowLine screen =>
    exact .quiet marked enabled (by rw [mode]) (linesDrawn_congr mode line) windowLine screen
  | off wasOn isOff windowLine screen => exact .off marked wasOn isOff windowLine screen
  | on wasOff isOn mode line windowLine screen =>
    exact .on marked wasOff isOn mode line windowLine screen

end Event
end Lcd
end DotMatrix
