import DotMatrix.Proofs.Lcd.Pixel

/-! # The sprites of a line

Ten sprites at most are shown on a line.  Which ones, is settled by their numbers: the search goes through
object memory once and takes what reaches the line until it has ten (`found_succ`).  In what order they are
drawn, is settled by their columns, and a column plays no part in the search.  So an entry is taken if it
reaches the line and fewer than ten before it do (`mem_found`), wherever on the line it is or beside it.
-/
namespace DotMatrix

/-! ## Entries of object memory -/

namespace Oam

/-- An entry reaches a line if one of the rows of its sprite lies there; the first byte of the entry says
where the sprite begins, counted from sixteen lines above the screen. -/
def Reaches (oam : Oam) (height line index : Nat) : Prop :=
  ((oam.read (4 * index)).toNat : Int) - 16 ≤ line ∧
    (line : Int) < (oam.read (4 * index)).toNat - 16 + height

instance (oam : Oam) (height line : Nat) : DecidablePred (oam.Reaches height line) := fun _ =>
  inferInstanceAs (Decidable (_ ∧ _))

/-- How many of the entries below a number reach a line. -/
def reachingBelow (oam : Oam) (height line index : Nat) : Nat :=
  (List.range index).countP (oam.Reaches height line ·)

theorem reachingBelow_succ (oam : Oam) (height line index : Nat) :
    oam.reachingBelow height line (index + 1) =
      oam.reachingBelow height line index + if oam.Reaches height line index then 1 else 0 := by
  simp [reachingBelow, List.range_succ, List.countP_append, List.countP_singleton]

end Oam

namespace Sprite
variable (oam : Oam) (height line : Nat)

theorem reaches_ofOam_iff (index : Nat) :
    (ofOam oam index).reaches height line = true ↔ oam.Reaches height line index := by
  rw [reaches, Bool.and_eq_true, decide_eq_true_iff, decide_eq_true_iff]
  exact Iff.rfl

/-! ## The search -/

/-- The sprites that were taken when the search has looked at the entries below a number. -/
def found (count : Nat) : List Sprite :=
  (((List.range count).map (ofOam oam)).filter (·.reaches height line)).take 10

/-- **The search looks at one more entry**, and takes it if it reaches the line and there is room. -/
theorem found_succ (count : Nat) : found oam height line (count + 1) =
    if oam.Reaches height line count ∧ (found oam height line count).length < 10 then
      found oam height line count ++ [ofOam oam count]
    else found oam height line count := by
  have reaches := reaches_ofOam_iff oam height line count
  unfold found
  rw [List.range_succ, List.map_append, List.filter_append, List.length_take, List.take_append]
  generalize ((List.range count).map (ofOam oam)).filter (·.reaches height line) = earlier
  by_cases reached : oam.Reaches height line count
  · rw [List.map_singleton, List.filter_cons, if_pos (reaches.mpr reached), List.filter_nil]
    by_cases room : earlier.length < 10
    · rw [if_pos ⟨reached, by omega⟩, List.take_of_length_le (Nat.le_of_lt room),
        List.take_of_length_le (by rw [List.length_singleton]; omega)]
    · rw [if_neg (by omega), Nat.sub_eq_zero_of_le (by omega), List.take_zero, List.append_nil]
  · rw [List.map_singleton, List.filter_cons, if_neg (mt reaches.mp reached), List.filter_nil,
      if_neg (mt And.left reached), List.take_nil, List.append_nil]

/-- So many sprites were taken: all that reach the line, up to ten. -/
theorem length_found (count : Nat) :
    (found oam height line count).length = min 10 (oam.reachingBelow height line count) := by
  induction count with
  | zero => rfl
  | succ count ih =>
    rw [found_succ, oam.reachingBelow_succ]
    by_cases reached : oam.Reaches height line count
    · by_cases room : (found oam height line count).length < 10
      · rw [if_pos ⟨reached, room⟩, if_pos reached, List.length_append, List.length_singleton]
        omega
      · rw [if_neg (mt And.right room), if_pos reached]
        omega
    · rw [if_neg (mt And.left reached), if_neg reached]
      exact ih

/-- **Which sprites were taken**: those of the entries that reach the line and have fewer than ten before
them that do. -/
theorem mem_found (count : Nat) (sprite : Sprite) : sprite ∈ found oam height line count ↔
    ∃ index < count, oam.Reaches height line index ∧ oam.reachingBelow height line index < 10 ∧
      sprite = ofOam oam index := by
  induction count with
  | zero => simp [found]
  | succ count ih =>
    have room := length_found oam height line count
    -- The entry looked at last is one more candidate; about the others nothing has changed.
    rw [Nat.exists_lt_succ_right, ← ih, found_succ]
    by_cases taken : oam.Reaches height line count ∧ (found oam height line count).length < 10
    · rw [if_pos taken, List.mem_append, List.mem_singleton]
      have few : oam.reachingBelow height line count < 10 := by omega
      simp [taken.1, few]
    · rw [if_neg taken]
      have none : ¬ (oam.Reaches height line count ∧ oam.reachingBelow height line count < 10 ∧
          sprite = ofOam oam count) := by
        rintro ⟨reached, few, -⟩
        exact taken ⟨reached, by omega⟩
      rw [or_iff_left none]

end Sprite

namespace Lcd

/-! ## What is kept for drawing -/

/-- **The sprites that are to be shown on the current line.** -/
structure Selects (lcd : Lcd) (sprites : List Sprite) : Prop where
  /-- They are those of the entries that reach the line and have fewer than ten before them that do; each
  has the corner, the tile and the flags that its entry gives. -/
  exactly : ∀ sprite, sprite ∈ sprites ↔ ∃ index < 40,
    lcd.oam.Reaches lcd.objectHeight lcd.line index ∧
      lcd.oam.reachingBelow lcd.objectHeight lcd.line index < 10 ∧ sprite =
        { left := (lcd.oam.read (4 * index + 1)).toNat - 8
          top := (lcd.oam.read (4 * index)).toNat - 16
          tile := lcd.oam.read (4 * index + 2)
          flags := lcd.oam.read (4 * index + 3)
          index := index }
  /-- They stand in the order of their columns, and in that of their numbers where columns are equal. -/
  ordered : sprites.Pairwise fun first second =>
    first.left < second.left ∨ first.left = second.left ∧ first.index < second.index
  /-- None is taken twice. -/
  once : (sprites.map Sprite.index).Nodup
  /-- There are as many as reach the line, up to ten. -/
  count : sprites.length = min 10 (lcd.oam.reachingBelow lcd.objectHeight lcd.line 40)

/-- **The search keeps the sprites that are to be shown**, in the order in which they are to be drawn,
whatever is in object memory; and there is no other list of them. -/
theorem search_selects (lcd : Lcd) : Selects lcd lcd.search.sprites ∧
    ∀ sprites, Selects lcd sprites → sprites = lcd.search.sprites := by
  have kept : lcd.search.sprites =
      (Sprite.found lcd.oam lcd.objectHeight lcd.line 40).mergeSort Sprite.drawnBefore := by
    rw [← spriteHeight_eq]
    rfl
  have selects : Selects lcd lcd.search.sprites := {
    exactly := by
      intro sprite
      rw [kept, List.mem_mergeSort]
      exact Sprite.mem_found lcd.oam lcd.objectHeight lcd.line 40 sprite
    ordered := Sprite.pairwise_onLine _ _ _
    once := Sprite.nodup_onLine _ _ _
    count := by
      rw [kept, List.length_mergeSort]
      exact Sprite.length_found lcd.oam lcd.objectHeight lcd.line 40 }
  refine ⟨selects, ?_⟩
  intro sprites others
  have distinct {sprites : List Sprite} (once : (sprites.map Sprite.index).Nodup) : sprites.Nodup :=
    List.Pairwise.of_map Sprite.index (fun _ _ apart same => apart (congrArg _ same)) once
  have same : sprites.Perm lcd.search.sprites := by
    rw [List.perm_ext_iff_of_nodup (distinct others.once) (distinct selects.once)]
    intro sprite
    rw [others.exactly, selects.exactly]
  -- Two lists of the same sprites in strict order are equal.
  refine same.eq_of_pairwise ?_ others.ordered selects.ordered
  intro first second _ _ before behind
  omega

end Lcd
end DotMatrix
