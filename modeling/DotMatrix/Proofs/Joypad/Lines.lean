import DotMatrix.Joypad

/-! # The lines of the joypad

The lines are kept in a field of their own, which a sample of the buttons and a store to the register both
bring up to date.  So the field is never out of date (`after_eq`): whatever was done, a joypad is what the
last store and the last sample make of it.  What a program reads, and when a line falls, follow from these
two alone (`memoryless`).
-/
namespace DotMatrix

/-! ## Groups of buttons -/

/-- The groups of buttons; a program selects either, both or neither. -/
inductive ButtonGroup where
  | directions
  | actions
  deriving DecidableEq

namespace ButtonGroup

/-- The bit of the register that selects a group while it is clear. -/
def selector : ButtonGroup → Nat
  | directions => 4
  | actions => 5

/-- The button of a group on a line. -/
def button : ButtonGroup → Fin 4 → Button
  | directions, line => [Button.right, .left, .up, .down].get line
  | actions, line => [Button.a, .b, .select, .start].get line

/-- A value of the register selects a group. -/
def SelectedBy (group : ButtonGroup) (value : UInt8) : Prop := value.toNat.testBit group.selector = false

end ButtonGroup

namespace Joypad

/-- A line is pulled low: a button on it is down, and the group of the button is selected. -/
def Pulled (value : UInt8) (buttons : Buttons) (line : Fin 4) : Prop :=
  ∃ group : ButtonGroup, group.SelectedBy value ∧ buttons.isDown (group.button line) = true

/-! ## Bits -/

theorem testBit_maskIf (condition : Bool) (mask : UInt8) (bit : Nat) :
    (maskIf condition mask).toNat.testBit bit = (condition && mask.toNat.testBit bit) := by
  cases condition <;> simp [maskIf]

/-- Of a byte of lines no bit above the fourth is set. -/
theorem testBit_and_nibble (byte : UInt8) {bit : Nat} (above : 4 ≤ bit) :
    (byte &&& 0x0F).toNat.testBit bit = false := by
  have low : (byte &&& 0x0F).toNat ≤ 15 := by
    rw [UInt8.toNat_and]
    exact Nat.and_le_right
  have room : 2 ^ 4 ≤ 2 ^ bit := Nat.pow_le_pow_right (by decide) above
  exact Nat.testBit_lt_two_pow (by omega)

/-- A group is selected exactly if its bit is not set. -/
theorem selects_iff (value : UInt8) (group : ButtonGroup) :
    (value &&& UInt8.ofNat (Nat.pow 2 group.selector) == 0) = true ↔ group.SelectedBy value := by
  have set : (value &&& UInt8.ofNat (Nat.pow 2 group.selector) != 0) =
      value.toNat.testBit group.selector := by
    cases group with
    | directions => exact flag_eq_testBit value 4
    | actions => exact flag_eq_testBit value 5
  rw [ButtonGroup.SelectedBy, ← set, bne, Bool.not_eq_false']

theorem isDown_directions (buttons : Buttons) (line : Fin 4) :
    buttons.isDown (ButtonGroup.directions.button line) = (buttons.bits &&& 0x0F).toNat.testBit line := by
  have every : ∀ byte : UInt8, ∀ line : Fin 4,
      (byte &&& (ButtonGroup.directions.button line).mask != 0) = (byte &&& 0x0F).toNat.testBit line :=
    forall_byte (by decide +kernel)
  exact every buttons.bits line

theorem isDown_actions (buttons : Buttons) (line : Fin 4) :
    buttons.isDown (ButtonGroup.actions.button line) = (buttons.bits >>> 4).toNat.testBit line := by
  have every : ∀ byte : UInt8, ∀ line : Fin 4,
      (byte &&& (ButtonGroup.actions.button line).mask != 0) = (byte >>> 4).toNat.testBit line :=
    forall_byte (by decide +kernel)
  exact every buttons.bits line

/-- **A line is low exactly if it is pulled low.** -/
theorem testBit_level (value : UInt8) (buttons : Buttons) (line : Fin 4) :
    (level value buttons.bits).toNat.testBit line = false ↔ Pulled value buttons line := by
  have inverted : ∀ byte : UInt8, ∀ line : Fin 4,
      (~~~byte &&& 0x0F).toNat.testBit line = !byte.toNat.testBit line := forall_byte (by decide +kernel)
  have directions := selects_iff value .directions
  have actions := selects_iff value .actions
  unfold level Pulled
  rw [inverted, UInt8.toNat_or, Nat.testBit_or, testBit_maskIf, testBit_maskIf, ← isDown_directions,
    ← isDown_actions, Bool.not_eq_false', Bool.or_eq_true, Bool.and_eq_true, Bool.and_eq_true]
  constructor
  · rintro (⟨selected, down⟩ | ⟨selected, down⟩)
    · exact ⟨.directions, directions.mp selected, down⟩
    · exact ⟨.actions, actions.mp selected, down⟩
  · rintro ⟨_ | _, selected, down⟩
    · exact .inl ⟨directions.mpr selected, down⟩
    · exact .inr ⟨actions.mpr selected, down⟩

/-- A byte has a bit that another one has not, exactly if something is left when that is masked out. -/
theorem and_not_ne_zero_iff (before after : UInt8) : before &&& ~~~after ≠ 0 ↔
    ∃ bit : Fin 8, before.toNat.testBit bit = true ∧ after.toNat.testBit bit = false := by
  have nonzero : ∀ byte : UInt8, byte ≠ 0 ↔ ∃ bit : Fin 8, byte.toNat.testBit bit = true :=
    forall_byte (by decide +kernel)
  have inverted : ∀ byte : UInt8, ∀ bit : Fin 8,
      (~~~byte).toNat.testBit bit = !byte.toNat.testBit bit := forall_byte (by decide +kernel)
  rw [nonzero]
  simp only [UInt8.toNat_and, Nat.testBit_and, inverted, Bool.and_eq_true, Bool.not_eq_true']

/-! ## Using a joypad -/

/-- What is done to a joypad. -/
inductive Use where
  /-- The buttons are sampled. -/
  | poll (buttons : Buttons)
  /-- A value is stored in the register. -/
  | write (value : UInt8)

/-- What a use makes of a joypad, and what it asks for. -/
def use (joypad : Joypad) : Use → Joypad × List Interrupt
  | .poll buttons => joypad.poll buttons
  | .write value => joypad.write value

/-- What a joypad becomes in the course of uses, of which the latest comes first. -/
def after : List Use → Joypad
  | [] => {}
  | last :: earlier => ((after earlier).use last).1

/-- The value that was stored last; at first no group is selected. -/
def stored : List Use → UInt8
  | [] => 0x30
  | .write value :: _ => value
  | .poll _ :: earlier => stored earlier

/-- The sample that was taken last; at first no button is down. -/
def sampled : List Use → Buttons
  | [] => {}
  | .poll buttons :: _ => buttons
  | .write _ :: earlier => sampled earlier

/-- **The lines are never out of date.** -/
theorem after_eq (past : List Use) : after past =
    { select := stored past &&& 0x30
      pressed := (sampled past).bits
      lines := level (stored past &&& 0x30) (sampled past).bits } := by
  induction past with
  | nil => rfl
  | cons last earlier ih =>
    cases last with
    | poll buttons =>
      show ((after earlier).poll buttons).1 = _
      rw [ih]
      rfl
    | write value =>
      show ((after earlier).write value).1 = _
      rw [ih]
      rfl

/-! ## What a program reads -/

variable (past : List Use)

/-- Only the bits of the groups count of a value that is stored. -/
theorem selectedBy_and (group : ButtonGroup) (value : UInt8) :
    group.SelectedBy (value &&& 0x30) ↔ group.SelectedBy value := by
  have counts : (0x30 : UInt8).toNat.testBit group.selector = true := by cases group <;> rfl
  unfold ButtonGroup.SelectedBy
  rw [UInt8.toNat_and, Nat.testBit_and, counts, Bool.and_true]

/-- A line is kept low exactly if it is pulled low. -/
theorem testBit_lines (line : Fin 4) :
    (after past).lines.toNat.testBit line = false ↔ Pulled (stored past) (sampled past) line := by
  rw [after_eq, testBit_level]
  simp only [Pulled, selectedBy_and]

/-- Above the four lines no bit is kept. -/
theorem testBit_lines_of_le {bit : Nat} (above : 4 ≤ bit) :
    (after past).lines.toNat.testBit bit = false := by
  rw [after_eq, level, testBit_and_nibble _ above]

theorem testBit_read (bit : Nat) : (after past).read.toNat.testBit bit =
    ((0xC0 : UInt8).toNat.testBit bit ||
      ((stored past).toNat.testBit bit && (0x30 : UInt8).toNat.testBit bit) ||
      (after past).lines.toNat.testBit bit) := by
  have select : (after past).select = stored past &&& 0x30 := by rw [after_eq]
  rw [read, select, UInt8.toNat_or, UInt8.toNat_or, UInt8.toNat_and, Nat.testBit_or, Nat.testBit_or,
    Nat.testBit_and]

/-- A line reads as it is kept. -/
theorem testBit_read_line (line : Fin 4) :
    (after past).read.toNat.testBit line = (after past).lines.toNat.testBit line := by
  have fixed : ∀ line : Fin 4, (0xC0 : UInt8).toNat.testBit line = false := by decide
  have groups : ∀ line : Fin 4, (0x30 : UInt8).toNat.testBit line = false := by decide
  rw [testBit_read, fixed, groups, Bool.and_false, Bool.false_or, Bool.false_or]

/-- The bit of a group reads as it was stored. -/
theorem testBit_read_selector (group : ButtonGroup) :
    (after past).read.toNat.testBit group.selector = (stored past).toNat.testBit group.selector := by
  have fixed : (0xC0 : UInt8).toNat.testBit group.selector = false := by cases group <;> rfl
  have counts : (0x30 : UInt8).toNat.testBit group.selector = true := by cases group <;> rfl
  have above : 4 ≤ group.selector := by cases group <;> decide
  rw [testBit_read, fixed, counts, testBit_lines_of_le past above, Bool.and_true, Bool.false_or,
    Bool.or_false]

/-! ## When it asks -/

/-- A line falls: it reads high before a use, and low after it. -/
def Falls (next : Use) (line : Fin 4) : Prop :=
  (after past).read.toNat.testBit line = true ∧ (after (next :: past)).read.toNat.testBit line = false

theorem use_snd (next : Use) : ((after past).use next).2 =
    if (after past).lines &&& ~~~(after (next :: past)).lines != 0 then [.joypad] else [] := by
  cases next <;> rfl

/-- **A use asks exactly if a line falls in it.** -/
theorem asks_iff (next : Use) :
    .joypad ∈ ((after past).use next).2 ↔ ∃ line, Falls past next line := by
  have asks : .joypad ∈ ((after past).use next).2 ↔
      (after past).lines &&& ~~~(after (next :: past)).lines ≠ 0 := by
    rw [use_snd]
    split <;> simp_all
  rw [asks, and_not_ne_zero_iff]
  constructor
  · rintro ⟨⟨bit, _⟩, high, low⟩
    -- What was high is one of the four lines.
    have inside : bit < 4 := by
      apply Nat.lt_of_not_le
      intro above
      rw [testBit_lines_of_le past above] at high
      cases high
    refine ⟨⟨bit, inside⟩, ?_, ?_⟩
    · exact (testBit_read_line past ⟨bit, inside⟩).trans high
    · exact (testBit_read_line (next :: past) ⟨bit, inside⟩).trans low
  · rintro ⟨line, high, low⟩
    rw [testBit_read_line] at high low
    exact ⟨⟨line, by omega⟩, high, low⟩

/-- A line falls exactly if it comes to be pulled. -/
theorem falls_iff (next : Use) (line : Fin 4) : Falls past next line ↔
    ¬ Pulled (stored past) (sampled past) line ∧
      Pulled (stored (next :: past)) (sampled (next :: past)) line := by
  rw [Falls, testBit_read_line, testBit_read_line, testBit_lines, ← testBit_lines past, Bool.not_eq_false]

/-! ## Without memory -/

/-- **What a joypad shows and asks for** after it was used in some way. -/
structure Memoryless (past : List Use) : Prop where
  /-- The two highest bits always read one. -/
  fixed : ∀ bit, bit = 6 ∨ bit = 7 → (after past).read.toNat.testBit bit = true
  /-- The two bits of the groups read as they were stored. -/
  groups : ∀ bit, bit = 4 ∨ bit = 5 →
    (after past).read.toNat.testBit bit = (stored past).toNat.testBit bit
  /-- A line reads low exactly if a button on it is down whose group is selected. -/
  lines : ∀ line : Fin 4,
    (after past).read.toNat.testBit line = false ↔ Pulled (stored past) (sampled past) line
  /-- Nothing else was remembered. -/
  alone : ∀ other, stored other = stored past → sampled other = sampled past → after other = after past
  /-- A use asks exactly if a line falls in it, once for however many lines, and for nothing else. -/
  asks : ∀ next, (.joypad ∈ ((after past).use next).2 ↔ ∃ line, Falls past next line) ∧
    ((after past).use next).2 ⊆ [.joypad] ∧ ((after past).use next).2.length ≤ 1
  /-- A sample asks for nothing if each button that is down in it was down before, is not selected, or is
  on a line that was low already. -/
  held : ∀ buttons, (∀ (group : ButtonGroup) (line : Fin 4), buttons.isDown (group.button line) = true →
      (sampled past).isDown (group.button line) = true ∨ ¬ group.SelectedBy (stored past) ∨
        (after past).read.toNat.testBit line = false) →
    .joypad ∉ ((after past).use (.poll buttons)).2
  /-- A store asks for nothing if it selects no group that was not selected before. -/
  deselects : ∀ value, (∀ group : ButtonGroup, group.SelectedBy value → group.SelectedBy (stored past)) →
    .joypad ∉ ((after past).use (.write value)).2
  /-- A store that selects a group pulls every high line low on which a button of the group is held, and
  then it asks. -/
  selects : ∀ value (group : ButtonGroup) (line : Fin 4), group.SelectedBy value →
    (sampled past).isDown (group.button line) = true → (after past).read.toNat.testBit line = true →
      (after (.write value :: past)).read.toNat.testBit line = false ∧
        .joypad ∈ ((after past).use (.write value)).2

/-- **The lines have no memory.**  Whatever was done to a joypad, it shows what the last store and the last
sample make of it, and it asks exactly when a line falls. -/
theorem memoryless (past : List Use) : Memoryless past where
  fixed := by
    rintro bit (rfl | rfl) <;> rw [testBit_read] <;> rfl
  groups := by
    rintro bit (rfl | rfl)
    · exact testBit_read_selector past .directions
    · exact testBit_read_selector past .actions
  lines line := by
    rw [testBit_read_line]
    exact testBit_lines past line
  alone other same same' := by
    rw [after_eq, after_eq, same, same']
  asks next := by
    refine ⟨asks_iff past next, ?_, ?_⟩ <;> rw [use_snd] <;> split <;> simp
  held buttons unchanged := by
    rw [asks_iff]
    rintro ⟨line, falls⟩
    obtain ⟨high, group, selected, down⟩ := (falls_iff past _ line).mp falls
    rcases unchanged group line down with before | unselected | low
    · exact high ⟨group, selected, before⟩
    · exact unselected selected
    · rw [testBit_read_line, testBit_lines] at low
      exact high low
  deselects value fewer := by
    rw [asks_iff]
    rintro ⟨line, falls⟩
    obtain ⟨high, group, selected, down⟩ := (falls_iff past _ line).mp falls
    exact high ⟨group, fewer group selected, down⟩
  selects value group line selected down high := by
    have low : (after (.write value :: past)).read.toNat.testBit line = false := by
      rw [testBit_read_line, testBit_lines]
      exact ⟨group, selected, down⟩
    exact ⟨low, (asks_iff past _).mpr ⟨line, high, low⟩⟩

/-- A direction that is held asks when the directions are selected, and not again when it is sampled anew. -/
example : ((after [.poll ⟨0x08⟩]).use (.write 0x20)).2 = [.joypad] ∧
    ((after [.write 0x20, .poll ⟨0x08⟩]).use (.poll ⟨0x08⟩)).2 = [] := by decide

end Joypad
end DotMatrix
