import DotMatrix.Proofs.Lcd.History

/-! # Whole frames

The picture is drawn one row at a time, whenever a line has been worked on for long enough, and handed
out when the last line is over.  Nothing in the LCD counts the rows of a frame.  That they are all
there, each drawn once and in order, follows from the modes alone: from the start of a frame on, the rows
drawn are those above the line that is being worked on (`Underway`).  Stores to registers may change what
a row shows, but not which row is drawn next, unless the LCD is switched off.
-/
namespace DotMatrix
namespace Lcd

/-! ## Rows -/

/-- **A row changes only when its line is drawn**, and is then drawn from one end to the other. -/
theorem Event.pixel_after {event : Event} (short : event.use.Short)
    (reachable : Reachable event.before) {x y : Nat} (hx : x < 160) (hy : y < 144) :
    event.after.screen.pixel x y =
      if event.draws = some y then Screen.dot event.before.row[x]
      else event.before.screen.pixel x y := by
  cases Event.happening short with
  | drawn marked _ _ was _ _ _ screen =>
    have line : event.before.line < 144 := reachable.sound.visible (by rw [was]; decide)
    rw [screen, Screen.pixel_setRow _ _ line hx hy, marked.draws]
    simp only [Option.some.injEq, eq_comm]
  | quiet marked _ _ _ _ screen | entry marked _ _ _ _ _ _ _ screen
    | top marked _ _ _ _ _ _ screen | off marked _ _ _ screen | on marked _ _ _ _ _ screen =>
    rw [screen, marked.draws, if_neg (by simp)]

theorem Event.lt_of_draws {event : Event} (short : event.use.Short)
    (reachable : Reachable event.before) {y : Nat} (draws : event.draws = some y) : y < 144 := by
  cases Event.happening short with
  | drawn marked _ _ was =>
    rw [marked.draws] at draws
    obtain rfl := Option.some.inj draws
    exact reachable.sound.visible (by rw [was]; decide)
  | quiet marked | entry marked | top marked | off marked | on marked =>
    rw [marked.draws] at draws
    cases draws

/-! ## A frame under way -/

/-- The rows of the next frame that are drawn; none while the last frame is still being waited out. -/
def rowsDrawn (lcd : Lcd) : Nat := if lcd.mode = .vblank then 0 else lcd.linesDrawn

theorem Reachable.rowsDrawn_le {lcd : Lcd} (h : Reachable lcd) : lcd.rowsDrawn ≤ 144 := by
  unfold rowsDrawn
  split
  · exact Nat.zero_le 144
  · exact linesDrawn_le h.sound.visible

/-- **Rows are drawn one after the other**: as long as the LCD is on and the frame is not finished, an
event draws the row that comes next, or none. -/
theorem Event.rowsDrawn_after {event : Event} (short : event.use.Short)
    (wasOn : event.before.control.enabled = true) (isOn : event.after.control.enabled = true)
    (unfinished : event.enters = false) :
    event.draws = none ∧ event.after.rowsDrawn = event.before.rowsDrawn ∨
      event.draws = some event.before.rowsDrawn ∧
        event.after.rowsDrawn = event.before.rowsDrawn + 1 := by
  cases Event.happening short with
  | quiet marked _ between linesDrawn =>
    refine .inl ⟨marked.draws, ?_⟩
    simp only [rowsDrawn, between, linesDrawn]
  | drawn marked _ _ was mode line =>
    have before : event.before.rowsDrawn = event.before.line := by simp [rowsDrawn, linesDrawn, was]
    refine .inr ⟨before ▸ marked.draws, ?_⟩
    rw [before]
    simp [rowsDrawn, linesDrawn, mode, line]
  | top marked _ _ was mode line =>
    refine .inl ⟨marked.draws, ?_⟩
    simp [rowsDrawn, linesDrawn, was, mode, line]
  | entry marked =>
    rw [marked.enters] at unfinished
    cases unfinished
  | off _ _ isOff =>
    rw [isOff] at isOn
    cases isOn
  | on _ wasOff =>
    rw [wasOff] at wasOn
    cases wasOn

/-- A frame is finished after its last row, by an event that draws none. -/
theorem Event.rowsDrawn_of_enters {event : Event} (short : event.use.Short)
    (enters : event.enters = true) :
    event.before.rowsDrawn = 144 ∧ event.draws = none ∧
      event.after.frameReady = true ∧ event.after.screen = event.before.screen := by
  cases Event.happening short with
  | entry marked _ _ was last _ ready _ screen =>
    refine ⟨?_, marked.draws, ready, screen⟩
    rw [rowsDrawn, if_neg (by rw [was]; decide), linesDrawn, was, last]
  | quiet marked | drawn marked | top marked | off marked | on marked =>
    rw [marked.enters] at enters
    cases enters

/-- **A frame under way**: since it began, the rows above the current line were drawn, in order, and the
picture still shows them as they were drawn. -/
structure Underway (stretch : List Event) (lcd : Lcd) : Prop where
  on : lcd.control.enabled = true
  rows : stretch.filterMap Event.draws = List.range lcd.rowsDrawn
  shown : ∀ y < lcd.rowsDrawn, ∃ event ∈ stretch, event.draws = some y ∧
    ∀ x < 160, lcd.screen.pixel x y = event.after.screen.pixel x y

namespace Underway
variable {stretch : List Event} {event : Event}

/-- A frame begins where one was finished, or the LCD was switched on. -/
theorem start (short : event.use.Short) (reachable : Reachable event.before)
    (opens : event.enters = true ∨ event.switchesOn = true) : Underway [] event.after := by
  suffices ready : event.after.control.enabled = true ∧ event.after.rowsDrawn = 0 by
    obtain ⟨on, none⟩ := ready
    exact ⟨on, by rw [none]; rfl, fun y early => absurd early (by rw [none]; exact Nat.not_lt_zero y)⟩
  have steady (enabled : event.after.control.enabled = event.before.control.enabled)
      (enters : event.enters = false) : False := by
    rcases opens with entered | switched
    · rw [enters] at entered
      cases entered
    · simp [Event.switchesOn, enabled] at switched
  cases Event.happening short with
  | quiet marked enabled => exact (steady enabled marked.enters).elim
  | drawn marked wasOn isOn | top marked wasOn isOn =>
    exact (steady (isOn.trans wasOn.symm) marked.enters).elim
  | off marked wasOn isOff =>
    rcases opens with entered | switched
    · rw [marked.enters] at entered
      cases entered
    · simp [Event.switchesOn, isOff] at switched
  | entry _ _ isOn _ _ mode => exact ⟨isOn, if_pos mode⟩
  | on _ wasOff isOn mode line =>
    refine ⟨isOn, ?_⟩
    rw [rowsDrawn, if_neg (by rw [mode]; decide), linesDrawn, mode, line]
    exact (reachable.resting wasOff).line

/-- **Each event of a frame goes on with it**, as long as the LCD stays on and the frame is not
finished. -/
theorem step (h : Underway stretch event.before) (short : event.use.Short)
    (reachable : Reachable event.before) (on : event.after.control.enabled = true)
    (unfinished : event.enters = false) : Underway (stretch ++ [event]) event.after := by
  have visible := reachable.rowsDrawn_le
  -- The rows drawn before are left as they are.
  have kept (other : ∀ y < event.before.rowsDrawn, event.draws ≠ some y) :
      ∀ y < event.before.rowsDrawn, ∃ earlier ∈ stretch ++ [event], earlier.draws = some y ∧
        ∀ x < 160, event.after.screen.pixel x y = earlier.after.screen.pixel x y := by
    intro y early
    obtain ⟨earlier, member, draws, shown⟩ := h.shown y early
    refine ⟨earlier, List.mem_append_left _ member, draws, fun x hx => ?_⟩
    rw [Event.pixel_after short reachable hx (by omega), if_neg (other y early)]
    exact shown x hx
  rcases Event.rowsDrawn_after short h.on on unfinished with ⟨none, same⟩ | ⟨next, more⟩
  · refine ⟨on, ?_, ?_⟩
    · rw [List.filterMap_append, h.rows, same]
      simp [none]
    · rw [same]
      exact kept (by simp [none])
  · refine ⟨on, ?_, ?_⟩
    · rw [List.filterMap_append, h.rows, more, List.range_succ]
      simp [next]
    · rw [more]
      intro y early
      by_cases last : y = event.before.rowsDrawn
      · subst last
        exact ⟨event, by simp, next, fun _ _ => rfl⟩
      · refine kept (fun y before => ?_) y (by omega)
        rw [next]
        intro same
        exact Nat.ne_of_gt before (Option.some.inj same)

/-- A frame stays under way until it is finished or the LCD is switched off. -/
theorem along {middle lcd : Lcd} (course : Course middle stretch lcd) (reachable : Reachable middle)
    (h : Underway [] middle) (on : ∀ event ∈ stretch, event.after.control.enabled = true)
    (unfinished : ∀ event ∈ stretch, event.enters = false) : Underway stretch lcd := by
  induction course with
  | nil => exact h
  | @concat past lcd use short course ih =>
    have before := ih (fun event member => on event (List.mem_append_left _ member))
      (fun event member => unfinished event (List.mem_append_left _ member))
    have last : (⟨lcd, use⟩ : Event) ∈ past ++ [⟨lcd, use⟩] := by simp
    exact @step past ⟨lcd, use⟩ before short (course.reachable reachable) (on _ last)
      (unfinished _ last)

end Underway

/-! ## Whole frames -/

/-- **What a history tells of the picture.** -/
structure Whole (history : List Event) : Prop where
  /-- A row changes only where its line is drawn. -/
  changes : ∀ event ∈ history, ∀ x < 160, ∀ y < 144,
    event.after.screen.pixel x y ≠ event.before.screen.pixel x y → event.draws = some y
  /-- A line that is drawn is on the screen, and all of its dots are drawn. -/
  redrawn : ∀ event ∈ history, ∀ y, event.draws = some y →
    y < 144 ∧ ∀ (x : Nat) (hx : x < 160),
      event.after.screen.pixel x y = Screen.dot event.before.row[x]
  /-- From the end of a frame, or from switching on, to the end of the next frame every row is drawn
  once, in order, as long as the LCD stays on; and the frame that is ready shows what was drawn then. -/
  frames : ∀ past opening stretch entry later,
    history = past ++ opening :: (stretch ++ entry :: later) →
    (opening.enters = true ∨ opening.switchesOn = true) →
    (∀ event ∈ stretch, event.enters = false ∧ event.after.control.enabled = true) →
    entry.enters = true →
    (stretch ++ [entry]).filterMap Event.draws = List.range 144 ∧
      entry.after.frameReady = true ∧
      ∀ y < 144, ∃ event ∈ stretch, event.draws = some y ∧
        ∀ x < 160, entry.after.screen.pixel x y = event.after.screen.pixel x y

/-- **The frames of every run are whole**, whatever is stored while they are drawn and in whatever pieces
time passes. -/
theorem frames_are_whole {start : Lcd} (reachable : Reachable start) (uses : List Use) :
    Whole (history uses start) := by
  have course := Course.history uses start
  have found : ∀ event ∈ history uses start, event.use.Short ∧ Reachable event.before := by
    intro event member
    obtain ⟨past, later, whole⟩ := List.append_of_mem member
    rw [whole] at course
    exact ⟨course.before.2, course.before.1.reachable reachable⟩
  refine ⟨?_, ?_, ?_⟩
  · intro event member x hx y hy changed
    obtain ⟨short, reached⟩ := found event member
    by_cases drawn : event.draws = some y
    · exact drawn
    · rw [Event.pixel_after short reached hx hy, if_neg drawn] at changed
      exact absurd rfl changed
  · intro event member y draws
    obtain ⟨short, reached⟩ := found event member
    have visible := Event.lt_of_draws short reached draws
    refine ⟨visible, fun x hx => ?_⟩
    rw [Event.pixel_after short reached hx visible, if_pos draws]
  · intro past opening stretch entry later whole opens stays enters
    obtain ⟨short, reached⟩ := found opening (by simp [whole])
    have begun := Underway.start short reached opens
    -- The stretch leads from where the frame began to where it is finished.
    rw [whole, ← List.singleton_append, ← List.append_assoc] at course
    obtain ⟨middle, first, rest⟩ := course.split
    obtain ⟨-, -, rfl⟩ := first.of_concat
    obtain ⟨stretched, last⟩ := rest.before
    have underway := begun.along stretched (first.reachable reachable)
      (fun event member => (stays event member).2) (fun event member => (stays event member).1)
    obtain ⟨all, none, ready, screen⟩ := Event.rowsDrawn_of_enters last enters
    refine ⟨?_, ready, ?_⟩
    · rw [List.filterMap_append, underway.rows, all]
      simp [none]
    · rw [screen, ← all]
      exact underway.shown

namespace Position
variable {finished cycles count : Nat} {lcd : Lcd} {event : Event}

/-- Full slices follow each other at distances of four T-cycles. -/
theorem mem_record (h : Position finished cycles lcd)
    (member : event ∈ record (List.replicate count (.pass 4)) lcd) :
    ∃ i < count, Position finished (cycles + 4 * i) event.before ∧ event.use = .pass 4 := by
  induction count generalizing cycles lcd with
  | zero => cases member
  | succ count ih =>
    rw [List.replicate_succ, record] at member
    rcases List.mem_cons.mp member with rfl | later
    · exact ⟨0, Nat.succ_pos count, h, rfl⟩
    · obtain ⟨i, few, position, use⟩ := ih (h.advance 4) later
      have same : cycles + 4 * (i + 1) = cycles + 4 + 4 * i := by omega
      exact ⟨i + 1, Nat.succ_lt_succ few, same ▸ position, use⟩

theorem after_full (h : Position finished cycles event.before) (use : event.use = .pass 4) :
    Position finished (cycles + 4) event.after := by
  rw [Event.after, use]
  exact h.advance 4

/-- Where the frame is finished. -/
theorem enters_iff (h : Position finished cycles event.before) (use : event.use = .pass 4) :
    event.enters = true ↔
      cycles % 70224 / 456 < 144 ∧ 144 ≤ (cycles + 4) % 70224 / 456 := by
  have after := h.after_full use
  have ticks : event.ticks = true := by
    rw [Event.ticks, use]
    exact h.on
  rw [← h.line_eq, ← after.line_eq, ← after.between, ← Nat.not_le, ← h.between]
  simp [Event.enters, ticks]

end Position

theorem elapsed_replicate (count : Nat) (use : Use) :
    elapsed (List.replicate count use) = count * use.cycles := by
  induction count with
  | zero => exact (Nat.zero_mul _).symm
  | succ count ih => rw [List.replicate_succ, elapsed, ih, Nat.succ_mul, Nat.add_comm]

/-- Of 144 lines without a store, every row is drawn once and in order. -/
theorem frames_are_whole_of_first :
    (history [.register 0xFF40 0x91, .pass 65664] {}).filterMap Event.draws = List.range 144 := by
  obtain ⟨lit, is⟩ : ∃ lit : Lcd, lit = ({} : Lcd).write 0xFF40 0x91 := ⟨_, rfl⟩
  have position : Position 0 0 lit := by
    rw [is]
    exact @Position.switch_on {} 0x91 ⟨rfl, rfl, rfl, rfl⟩ (by decide) (by decide)
  -- All slices but the last one lead up to the end of line 143.
  obtain ⟨slices, all⟩ : ∃ slices : List Use, slices = List.replicate 16415 (.pass 4) := ⟨_, rfl⟩
  have whole : history [.register 0xFF40 0x91, .pass 65664] {} =
      ⟨{}, .register 0xFF40 0x91⟩ :: (record slices lit ++ [⟨(drive slices lit).1, .pass 4⟩]) := by
    have pieces : Use.pieces (.pass 65664) = slices ++ [.pass 4] := by
      rw [all, ← List.replicate_succ', Use.pieces, if_pos rfl, List.append_nil]
    have store : Use.pieces (.register 0xFF40 0x91) = [.register 0xFF40 0x91] := rfl
    rw [history, List.flatMap_cons, List.flatMap_singleton, pieces, store, List.singleton_append,
      record, record_append, is]
    rfl
  have stays : ∀ event ∈ record slices lit,
      event.enters = false ∧ event.after.control.enabled = true := by
    intro event member
    rw [all] at member
    obtain ⟨i, few, before, use⟩ := position.mem_record member
    refine ⟨Bool.eq_false_iff.mpr fun enters => ?_, (before.after_full use).on⟩
    have late := ((before.enters_iff use).mp enters).2
    omega
  have last : Event.enters ⟨(drive slices lit).1, .pass 4⟩ = true := by
    have before : Position 0 (0 + elapsed slices) (drive slices lit).1 := by
      refine position.drive fun use member => ?_
      rw [all] at member
      rw [List.eq_of_mem_replicate member]
      trivial
    rw [all, elapsed_replicate, ← all] at before
    exact (before.enters_iff rfl).mpr ⟨by decide, by decide⟩
  obtain ⟨-, -, frames⟩ := frames_are_whole .new [.register 0xFF40 0x91, .pass 65664]
  obtain ⟨rows, -⟩ := frames [] _ (record slices lit) _ [] whole (.inr (by decide)) stays last
  rw [whole]
  exact rows

end Lcd
end DotMatrix
