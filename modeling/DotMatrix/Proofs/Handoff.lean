import DotMatrix.Handoff
import DotMatrix.Proofs.Memory.Banked

/-! # Frames handed over

Publishing and taking, in any order, pass three slots around.  What either side gets for its own slot is
named by a single byte, which also says whether a frame is fresh (`latest`), and so every slot has one
owner at any time (`perm_owned_after`).  The rest follows: the drawer never touches the slot of the shower
(`content_front_after`), and a take gives the frame published last, laid over what its slot held before
(`exists_take_after`).
-/
namespace DotMatrix
namespace Handoff

/-! ## Using the slots -/

/-- What the two sides call. -/
inductive Call where
  /-- The drawer publishes a frame. -/
  | publish (frame : ByteArray)
  /-- The shower asks for a frame. -/
  | take

/-- What a call makes of the slots. -/
def perform (handoff : Handoff) : Call → Handoff
  | .publish frame => handoff.publish frame
  | .take => handoff.take.2

/-- What the slots become in the course of calls, of which the latest comes first. -/
def after : List Call → Handoff
  | [] => empty
  | last :: earlier => (after earlier).perform last

/-- The frame that a call publishes. -/
def Call.frame? : Call → Option ByteArray
  | .publish frame => some frame
  | .take => none

/-- The frames that were published, the latest first. -/
def published (past : List Call) : List ByteArray := past.filterMap Call.frame?

/-- The frames that were taken, the latest first. -/
def taken : List Call → List ByteArray
  | [] => []
  | .publish _ :: earlier => taken earlier
  | .take :: earlier => (after earlier).take.1.toList ++ taken earlier

/-- The frames published since a frame was taken, the latest first. -/
def waiting : List Call → List ByteArray
  | [] => []
  | .publish frame :: earlier => frame :: waiting earlier
  | .take :: earlier => if (after earlier).take.1.isSome then [] else waiting earlier

/-- All published frames fill a slot. -/
def Full (past : List Call) : Prop := ∀ frame ∈ published past, frame.size = Screen.byteCount

/-! ## The byte between the two -/

/-- The bit that says that the parked slot holds a frame not taken yet. -/
def freshBit : UInt8 := 0x04

/-- The bits that name a slot. -/
def indexMask : UInt8 := 0x03

/-- The number of a slot. -/
def number (slot : Fin 3) : UInt8 := UInt8.ofNat slot.val

variable (handoff : Handoff)

/-- The byte between the two: the number of the parked slot, and whether it is fresh. -/
def latest : UInt8 := number handoff.parked ||| if handoff.fresh then freshBit else 0

theorem number_and_indexMask (slot : Fin 3) : number slot &&& indexMask = number slot := by
  revert slot
  decide

theorem number_or_freshBit_and_indexMask (slot : Fin 3) :
    (number slot ||| freshBit) &&& indexMask = number slot := by
  revert slot
  decide

theorem latest_and_indexMask : handoff.latest &&& indexMask = number handoff.parked := by
  unfold latest
  split
  · exact number_or_freshBit_and_indexMask handoff.parked
  · rw [UInt8.or_zero, number_and_indexMask]

theorem latest_and_freshBit : (handoff.latest &&& freshBit != 0) = handoff.fresh := by
  unfold latest
  generalize handoff.parked = slot, handoff.fresh = fresh
  revert slot fresh
  decide

/-- Publishing exchanges the slot of the drawer for the one named by the byte. -/
theorem publish_bytes (frame : ByteArray) :
    (handoff.publish frame).latest = number handoff.back ||| freshBit ∧
      number (handoff.publish frame).back = handoff.latest &&& indexMask :=
  ⟨rfl, handoff.latest_and_indexMask.symm⟩

/-- What is in a slot. -/
def content (slot : Fin 3) : ByteArray := handoff.slots[slot]

/-- A take either changes nothing or exchanges the slots. -/
theorem taking :
    (handoff.fresh = false ∧ handoff.take = (none, handoff)) ∨
      (handoff.fresh = true ∧ handoff.take = (some (handoff.content handoff.parked),
        { handoff with front := handoff.parked, parked := handoff.front, fresh := false })) := by
  cases fresh : handoff.fresh with
  | false =>
    refine .inl ⟨rfl, ?_⟩
    rw [take, fresh]
    rfl
  | true => exact .inr ⟨rfl, if_pos fresh⟩

/-- Taking exchanges the slot of the shower for the one named by the byte, if that is fresh. -/
theorem take_bytes (fresh : handoff.fresh = true) :
    handoff.take.2.latest = number handoff.front ∧
      number handoff.take.2.front = handoff.latest &&& indexMask := by
  rw [take, if_pos fresh]
  exact ⟨UInt8.or_zero, handoff.latest_and_indexMask.symm⟩

/-! ## Owners -/

/-- The numbers of the slots of the drawer, between the two, and of the shower. -/
def owned : List UInt8 := [number handoff.back, handoff.latest &&& indexMask, number handoff.front]

theorem perm_owned_publish (frame : ByteArray) :
    (handoff.publish frame).owned.Perm handoff.owned := by
  obtain ⟨latest, back⟩ := handoff.publish_bytes frame
  rw [owned, latest, back, number_or_freshBit_and_indexMask]
  exact List.Perm.swap ..

theorem perm_owned_take : handoff.take.2.owned.Perm handoff.owned := by
  rcases handoff.taking with ⟨-, took⟩ | ⟨fresh, took⟩
  · rw [took]
  · obtain ⟨latest, front⟩ := handoff.take_bytes fresh
    have back : handoff.take.2.back = handoff.back := by rw [took]
    rw [owned, latest, front, back, number_and_indexMask]
    exact (List.Perm.swap ..).cons _

/-- **Each slot has one owner**, whatever was called: the calls only exchange two of them. -/
theorem perm_owned_after (past : List Call) : (after past).owned.Perm [0, 1, 2] := by
  induction past with
  | nil => exact List.Perm.refl _
  | cons last earlier ih =>
    cases last with
    | publish frame => exact (perm_owned_publish _ frame).trans ih
    | take => exact (perm_owned_take _).trans ih

/-- The two sides never own the same slot. -/
theorem back_ne_front_after (past : List Call) : (after past).back ≠ (after past).front := by
  intro same
  have distinct : (after past).owned.Nodup :=
    (perm_owned_after past).nodup_iff.mpr (by decide)
  rw [owned, same] at distinct
  exact (List.nodup_cons.mp distinct).1 (List.mem_cons_of_mem _ List.mem_cons_self)

/-! ## Frames in slots -/

/-- A frame that fills a slot replaces all of it. -/
theorem overlay_of_full {frame slot : ByteArray} (full : frame.size = slot.size) :
    overlay frame slot = frame := by
  have size : (overlay frame slot).size = frame.size := (size_copySlice frame slot).trans full.symm
  refine ByteArray.ext (Array.ext_getElem? fun offset => ?_)
  rw [getElem?_data, getElem?_data]
  by_cases inside : offset < slot.size
  · rw [overlay, getElem?_copySlice frame slot inside, getElem?_pos frame offset (by rwa [full])]
    rfl
  · rw [getElem?_neg _ offset (by rwa [size, full]), getElem?_neg frame offset (by rwa [full])]

/-- Publishing touches the slot of the drawer only. -/
theorem content_publish (frame : ByteArray) (slot : Fin 3) :
    (handoff.publish frame).content slot =
      if handoff.back = slot then overlay frame (handoff.content slot) else handoff.content slot := by
  show (handoff.slots.set handoff.back.val _ handoff.back.isLt)[slot.val] = _
  rw [Vector.getElem_set]
  by_cases same : handoff.back = slot
  · rw [if_pos (congrArg Fin.val same), if_pos same, ← same]
    rfl
  · rw [if_neg (fun h => same (Fin.ext h)), if_neg same]
    rfl

/-- Taking touches no slot. -/
theorem content_take (slot : Fin 3) : handoff.take.2.content slot = handoff.content slot := by
  rcases handoff.taking with ⟨-, took⟩ | ⟨-, took⟩
  · rw [took]
  · rw [took]
    rfl

theorem content_empty (slot : Fin 3) : empty.content slot = emptySlot := by
  show (Vector.replicate 3 emptySlot)[slot.val] = _
  exact Vector.getElem_replicate ..

/-- No call changes the size of a slot. -/
theorem size_content_after (past : List Call) (slot : Fin 3) :
    ((after past).content slot).size = Screen.byteCount := by
  induction past with
  | nil =>
    rw [after, content_empty]
    exact Array.size_replicate
  | cons last earlier ih =>
    cases last with
    | publish frame =>
      rw [after, perform, content_publish]
      split
      · exact (size_copySlice ..).trans ih
      · exact ih
    | take =>
      rw [after, perform, content_take]
      exact ih

/-! ## Frames taken -/

/-- What was just published is there to take. -/
theorem take_publish (frame : ByteArray) :
    (handoff.publish frame).take.1 = some (overlay frame (handoff.content handoff.back)) := by
  show some ((handoff.publish frame).content handoff.back) = _
  rw [content_publish, if_pos rfl]

theorem hasNew_eq : handoff.hasNew = handoff.take.1.isSome := by
  rcases handoff.taking with ⟨fresh, took⟩ | ⟨fresh, took⟩
  · rw [took]
    exact fresh
  · rw [took]
    exact fresh

/-- What was just taken is not given again. -/
theorem take_take : handoff.take.2.take.1 = none := by
  rcases handoff.taking with ⟨-, took⟩ | ⟨-, took⟩
  · rw [took, took]
  · rw [took]
    rfl

theorem take_of_none (none : handoff.take.1 = none) : handoff.take.2 = handoff := by
  rcases handoff.taking with ⟨-, took⟩ | ⟨-, took⟩
  · rw [took]
  · rw [took] at none
    cases none

/-- A taken frame is in the slot of the shower. -/
theorem content_front_of_take {frame : ByteArray} (gave : handoff.take.1 = some frame) :
    handoff.take.2.content handoff.take.2.front = frame := by
  rcases handoff.taking with ⟨-, took⟩ | ⟨-, took⟩
  · rw [took] at gave
    cases gave
  · rw [took] at gave ⊢
    exact Option.some.inj gave

section
variable {past : List Call}

theorem after_take_of_none (none : (after past).take.1 = none) :
    after (.take :: past) = after past ∧ taken (.take :: past) = taken past ∧
      waiting (.take :: past) = waiting past := by
  rw [taken, waiting, none]
  exact ⟨take_of_none _ none, rfl, rfl⟩

theorem after_take_of_some {frame : ByteArray} (gave : (after past).take.1 = some frame) :
    taken (.take :: past) = frame :: taken past ∧ waiting (.take :: past) = [] := by
  rw [taken, waiting, gave]
  exact ⟨rfl, rfl⟩

end

/-- **What a take gives** is the frame published last, if one was published since a frame was taken, laid
over what was in its slot. -/
theorem exists_take_after (past : List Call) :
    ∃ under : ByteArray, under.size = Screen.byteCount ∧
      (after past).take.1 = (waiting past).head?.map (overlay · under) := by
  induction past with
  | nil => exact ⟨emptySlot, Array.size_replicate, rfl⟩
  | cons last earlier ih =>
    cases last with
    | publish frame =>
      exact ⟨_, size_content_after earlier (after earlier).back, take_publish _ frame⟩
    | take =>
      cases gave : (after earlier).take.1 with
      | none =>
        obtain ⟨same, -, wait⟩ := after_take_of_none gave
        rw [same, wait]
        exact ih
      | some frame =>
        rw [(after_take_of_some gave).2]
        exact ⟨emptySlot, Array.size_replicate, take_take (after earlier)⟩

/-- A take gives something if and only if something was published since it last did. -/
theorem isSome_take_after (past : List Call) :
    (after past).take.1.isSome ↔ waiting past ≠ [] := by
  obtain ⟨under, -, gives⟩ := exists_take_after past
  rw [gives, Option.isSome_map, List.isSome_head?]

/-- If what waits fills a slot, a take gives the frame published last as it is. -/
theorem take_after_of_size {past : List Call}
    (full : ∀ frame ∈ waiting past, frame.size = Screen.byteCount) :
    (after past).take.1 = (waiting past).head? := by
  obtain ⟨under, size, gives⟩ := exists_take_after past
  cases wait : waiting past with
  | nil => rw [gives, wait]; rfl
  | cons frame older =>
    have fits : frame.size = under.size :=
      (full frame (by rw [wait]; exact List.mem_cons_self)).trans size.symm
    rw [gives, wait]
    exact congrArg some (overlay_of_full fits)

/-- If all frames fill a slot, what was taken was published in the same order, and earlier than what still
waits. -/
theorem waiting_append_taken_sublist {past : List Call} (full : Full past) :
    (waiting past ++ taken past).Sublist (published past) := by
  induction past with
  | nil => exact List.Sublist.refl _
  | cons last earlier ih =>
    cases last with
    | publish frame =>
      exact (ih fun frame shown => full frame (List.mem_cons_of_mem _ shown)).cons_cons frame
    | take =>
      have ih := ih full
      cases gave : (after earlier).take.1 with
      | none =>
        obtain ⟨-, took, wait⟩ := after_take_of_none gave
        rw [took, wait]
        exact ih
      | some frame =>
        obtain ⟨took, wait⟩ := after_take_of_some gave
        have newest : (waiting earlier).head? = some frame :=
          (take_after_of_size fun frame waits =>
            full frame (ih.subset (List.mem_append_left _ waits))).symm.trans gave
        have waits : [frame].Sublist (waiting earlier) :=
          List.singleton_sublist.mpr (List.mem_of_head? newest)
        rw [took, wait]
        exact (waits.append (List.Sublist.refl (taken earlier))).trans ih

/-- What the shower has is the frame taken last, and white before. -/
theorem content_front_after (past : List Call) :
    (after past).content (after past).front = (taken past).headD emptySlot := by
  induction past with
  | nil => exact content_empty 2
  | cons last earlier ih =>
    cases last with
    | publish frame =>
      have untouched : (after earlier).back ≠ (after earlier).front := back_ne_front_after earlier
      exact (content_publish ..).trans ((if_neg untouched).trans ih)
    | take =>
      cases gave : (after earlier).take.1 with
      | none =>
        obtain ⟨same, took, -⟩ := after_take_of_none gave
        rw [same, took]
        exact ih
      | some frame =>
        rw [(after_take_of_some gave).1]
        exact content_front_of_take _ gave

/-! ## Handing over -/

/-- **How frames are handed over**, after some calls. -/
structure HandsOver (past : List Call) : Prop where
  /-- The drawer, the byte between the two and the shower have different slots. -/
  owners : (after past).owned.Perm [0, 1, 2]
  /-- A take gives something if and only if something was published since it last did. -/
  gives : (after past).take.1.isSome ↔ waiting past ≠ []
  /-- That can be told before, from the byte. -/
  tells : (after past).hasNew = (after past).take.1.isSome ∧
    (after past).hasNew = ((after past).latest &&& freshBit != 0)
  /-- What it gives is the frame published last, byte for byte. -/
  newest : Full past → (after past).take.1 = (waiting past).head?
  /-- Nothing is taken twice, or in another order than it was published, or after a frame that still
  waits. -/
  inOrder : Full past → (waiting past ++ taken past).Sublist (published past)
  /-- What it gave stays as it is until a take gives something again. -/
  stays : ∀ frame, (after past).take.1 = some frame →
    ∀ later, taken (later ++ .take :: past) = taken (.take :: past) →
      (after (later ++ .take :: past)).content (after (later ++ .take :: past)).front = frame

/-- **Frames are handed over**, whatever the two sides call. -/
theorem frames_handed_over (past : List Call) : HandsOver past := by
  refine ⟨perm_owned_after past, isSome_take_after past,
    ⟨(after past).hasNew_eq, (after past).latest_and_freshBit.symm⟩, ?_,
    waiting_append_taken_sublist, ?_⟩
  · intro full
    have inOrder := waiting_append_taken_sublist full
    exact take_after_of_size fun frame waits =>
      full frame (inOrder.subset (List.mem_append_left _ waits))
  · intro frame gave later nothing
    rw [content_front_after, nothing, (after_take_of_some gave).1]
    rfl

end Handoff
end DotMatrix
