import Mathlib.Data.Int.ConditionallyCompleteOrder
import Mathlib.Order.ConditionallyCompleteLattice.Basic
import QueryFrame.Proofs.FrameRules
import QueryFrame.Proofs.Windows

/-!
# Frames that windows accept

A window asks nothing of its frame but the rules for frames, whatever its columns and order are
(`Window.exists_make_iff_kept`, `Window.firstBroken?_eq_some_iff`).

The rules are about places in the order of the rows. A bound has a place (`Bound.position`), before
or after every row if it is unbounded. Bounds that keep the rules are in the right order as places
(`Bound.position_le_of_not_after`), so a frame with two bounds does not start after its end
(`Frame.position_le_of_kept`).
-/

namespace QueryFrame

/-! ## Places -/

namespace Bound

/-- The place of a bound, in rows after the current one. -/
def position : Bound → WithBot (WithTop ℤ)
  | ⟨.preceding, none⟩ => ⊥
  | ⟨.preceding, some offset⟩ => ((-offset.toInt : ℤ) : WithTop ℤ)
  | ⟨.currentRow, _⟩ => ((0 : ℤ) : WithTop ℤ)
  | ⟨.following, some offset⟩ => ((offset.toInt : ℤ) : WithTop ℤ)
  | ⟨.following, none⟩ => ⊤

/-- Places a known number of rows away are in the order of these numbers. -/
theorem row_le_row_iff {m n : ℤ} :
    ((m : WithTop ℤ) : WithBot (WithTop ℤ)) ≤ ((n : WithTop ℤ) : WithBot (WithTop ℤ)) ↔ m ≤ n :=
  WithBot.coe_le_coe.trans WithTop.coe_le_coe

/-- Whether the offset, if there is one, is not negative. -/
def Nonnegative (bound : Bound) : Prop :=
  ∀ offset ∈ bound.offset, 0 ≤ offset

theorem Nonnegative.toInt {bound : Bound} (h : bound.Nonnegative) {offset : Int64}
    (hoffset : bound.offset = some offset) : 0 ≤ offset.toInt := by
  have hle := Int64.le_iff_toInt_le.mp (h offset hoffset)
  rwa [Int64.toInt_zero] at hle

/-- Unless it follows, a bound is not behind the current row. -/
theorem position_le_currentRow {bound : Bound} (hside : bound.boundary ≠ .following)
    (h : bound.Nonnegative) : bound.position ≤ currentRow.position := by
  obtain ⟨side, offset⟩ := bound
  cases side with
  | following => exact absurd rfl hside
  | currentRow => exact le_rfl
  | preceding =>
    cases offset with
    | none => exact bot_le
    | some offset => exact row_le_row_iff.mpr (Int.neg_nonpos_of_nonneg (h.toInt rfl))

/-- Unless it precedes, a bound is not before the current row. -/
theorem currentRow_le_position {bound : Bound} (hside : bound.boundary ≠ .preceding)
    (h : bound.Nonnegative) : currentRow.position ≤ bound.position := by
  obtain ⟨side, offset⟩ := bound
  cases side with
  | preceding => exact absurd rfl hside
  | currentRow => exact le_rfl
  | following =>
    cases offset with
    | none => exact le_top
    | some offset => exact row_le_row_iff.mpr (h.toInt rfl)

/-- **Bounds that can be reached and are not in the wrong order** are places in the right order. -/
theorem position_le_of_not_after {start stop : Bound} (hstart : start.Nonnegative)
    (hstop : stop.Nonnegative) (hreachStart : start ≠ .unboundedFollowing)
    (hreachStop : stop ≠ .unboundedPreceding) (hafter : ¬ start.After stop) :
    start.position ≤ stop.position := by
  by_cases hside : start.boundary = .following ∨ stop.boundary = .preceding
  · -- both bounds are on one side of the current row, where the offsets decide
    obtain ⟨side, first⟩ := start
    obtain ⟨side', last⟩ := stop
    rcases hside with rfl | rfl
    · cases side' with
      | preceding | currentRow => exact absurd (.inl (by simp [Boundary.rank])) hafter
      | following =>
        cases first with
        | none => exact absurd rfl hreachStart
        | some first =>
          cases last with
          | none => exact le_top
          | some last =>
            have hle : first ≤ last := Int64.not_lt.mp fun hlt =>
              hafter (.inr (.inr ⟨rfl, rfl, first, rfl, last, rfl, hlt⟩))
            exact row_le_row_iff.mpr (Int64.le_iff_toInt_le.mp hle)
    · cases side with
      | following | currentRow => exact absurd (.inl (by simp [Boundary.rank])) hafter
      | preceding =>
        cases first with
        | none => exact bot_le
        | some first =>
          cases last with
          | none => exact absurd rfl hreachStop
          | some last =>
            have hle : last ≤ first := Int64.not_lt.mp fun hlt =>
              hafter (.inr (.inl ⟨rfl, rfl, first, rfl, last, rfl, hlt⟩))
            exact row_le_row_iff.mpr (Int.neg_le_neg (Int64.le_iff_toInt_le.mp hle))
  · rw [not_or] at hside
    exact (position_le_currentRow hside.1 hstart).trans (currentRow_le_position hside.2 hstop)

end Bound

namespace Frame

variable {frame : Frame} {start stop : Bound}

/-- A frame that keeps the rules has no negative offsets. -/
theorem nonnegative_of_kept (h : ¬ FrameRule.nonnegative.Broken frame) :
    ∀ bound ∈ frame.bounds, bound.Nonnegative := by
  intro bound hbound offset hoffset
  exact Int64.not_lt.mp fun hlt => h ⟨bound, hbound, offset, hoffset, hlt⟩

/-- **A frame with two bounds that keeps the rules does not start after its end.** -/
theorem position_le_of_kept (hkept : ∀ rule : FrameRule, ¬ rule.Broken frame)
    (hstart : frame.start = some start) (hstop : frame.stop = some stop) :
    start.position ≤ stop.position := by
  have hnonnegative := nonnegative_of_kept (hkept .nonnegative)
  rw [bounds, hstart, hstop] at hnonnegative
  refine Bound.position_le_of_not_after (hnonnegative start ?_) (hnonnegative stop ?_) ?_ ?_ ?_
  · simp
  · simp
  · rintro rfl
    exact hkept .reachableStart ⟨_, hstart, rfl, rfl⟩
  · rintro rfl
    exact hkept .reachableStop ⟨_, hstop, rfl, rfl⟩
  · exact fun hafter => hkept .ordered ⟨start, hstart, stop, hstop, hafter⟩

/-- The negative offset that is reported is the first one. -/
theorem find?_offsets_of_check {offset : Int64}
    (h : frame.check = .error (.frame (.negativeOffset offset))) :
    frame.offsets.find? (· < 0) = some offset := by
  rw [check] at h
  -- the checks before this one report something else
  split at h
  · cases h
  next mode _ =>
  split at h
  · cases h
  next hhasStart =>
  split at h
  · cases h
  split at h
  · cases h
  split at h
  · next own hfind =>
    cases h
    exact hfind
  split at h
  · cases h
  -- and so do those after it
  have hstart := mt (FrameRule.hasStart_broken_iff frame).mpr hhasStart
  have hlast := FrameRule.reports_clause mode hstart
  rw [h] at hlast
  have hfirst : FrameRule.firstOf? frame [.bareCurrentRow, .ordered] = some .nonnegative :=
    hlast.eq_some_iff.mpr ⟨_, rfl, rfl⟩
  exact absurd (List.mem_of_find?_eq_some hfirst) (by decide)

/-- The offset of the start comes first. -/
theorem first_negative {offset : Int64} (h : frame.offsets.find? (· < 0) = some offset) :
    offset < 0 ∧ ((∃ start ∈ frame.start, start.offset = some offset) ∨
      (∀ start ∈ frame.start, start.Nonnegative) ∧
        ∃ stop ∈ frame.stop, stop.offset = some offset) := by
  have hnegative := List.find?_some h
  rw [decide_eq_true_eq] at hnegative
  refine ⟨hnegative, ?_⟩
  rw [offsets, List.find?_append, Option.or_eq_some_iff] at h
  rcases h with h | ⟨hstart, h⟩
  · have hmem := Option.mem_toList.mp (List.mem_of_find?_eq_some h)
    exact .inl (Option.bind_eq_some_iff.mp hmem)
  · have hmem := Option.mem_toList.mp (List.mem_of_find?_eq_some h)
    refine .inr ⟨fun start hmemStart own hown => Int64.not_lt.mp fun hlt => ?_,
      Option.bind_eq_some_iff.mp hmem⟩
    have hoffset : own ∈ (frame.start.bind Bound.offset).toList :=
      Option.mem_toList.mpr (Option.bind_eq_some_iff.mpr ⟨start, hmemStart, hown⟩)
    exact List.find?_eq_none.mp hstart own hoffset (decide_eq_true hlt)

end Frame

/-! ## Windows -/

namespace Window

variable {columns : List Series} {grouped : Columns} (hgroup : Columns.group columns = .ok grouped)
include hgroup

/-- Over columns that can be grouped on, a window is refused as its frame is. -/
theorem make_eq_error_iff (order : List SortKey) (frame : Frame) (minValues : Option UInt32)
    {e : Error} : make columns order frame minValues = .error e ↔ frame.check = .error e := by
  rw [make_of_group hgroup, Outcome.map_eq_error_iff]

/-- It is accepted if the frame breaks no rule. -/
theorem exists_make_iff_kept (order : List SortKey) (frame : Frame) (minValues : Option UInt32) :
    (∃ w, make columns order frame minValues = .ok w) ↔ ∀ rule : FrameRule, ¬ rule.Broken frame :=
  (exists_make_iff hgroup order frame minValues).trans (FrameRule.exists_check_iff frame)

/-- And it is refused with the code of the first rule that is broken. -/
theorem firstBroken?_eq_some_iff (order : List SortKey) (frame : Frame) (minValues : Option UInt32)
    (rule : FrameRule) : FrameRule.firstBroken? frame = some rule ↔
      ∃ e, make columns order frame minValues = .error e ∧ e.code = rule.code := by
  simp only [make_eq_error_iff hgroup, (FrameRule.reports_check frame).eq_some_iff]
  constructor
  · rintro ⟨fault, hcheck, hcode⟩
    exact ⟨_, hcheck, hcode⟩
  · rintro ⟨e, hcheck, hcode⟩
    obtain ⟨fault, rfl⟩ := Frame.fault_of_check hcheck
    exact ⟨fault, hcheck, hcode⟩

/-- **The rules for frames are all that a window asks of one.** Over columns that can be grouped on,
a window takes a frame exactly if it breaks no rule, and otherwise it is refused with the code of
the first rule that is broken. Of two negative offsets that of the start is reported. So no window
has a frame with two bounds of which the first lies after the second. -/
theorem make_reports_first_broken (order : List SortKey) (frame : Frame)
    (minValues : Option UInt32) :
    ((∃ w, make columns order frame minValues = .ok w) ↔
        ∀ rule : FrameRule, ¬ rule.Broken frame) ∧
      (∀ rule, FrameRule.firstBroken? frame = some rule ↔
        ∃ e, make columns order frame minValues = .error e ∧ e.code = rule.code) ∧
      (∀ offset, make columns order frame minValues = .error (.frame (.negativeOffset offset)) →
        offset < 0 ∧ ((∃ start ∈ frame.start, start.offset = some offset) ∨
          (∀ start ∈ frame.start, start.Nonnegative) ∧
            ∃ stop ∈ frame.stop, stop.offset = some offset)) ∧
      ∀ w, make columns order frame minValues = .ok w → ∀ start stop,
        frame.start = some start → frame.stop = some stop → start.position ≤ stop.position := by
  have haccepts := exists_make_iff_kept hgroup order frame minValues
  refine ⟨haccepts, firstBroken?_eq_some_iff hgroup order frame minValues, fun offset h => ?_,
    fun w h start stop hstart hstop => ?_⟩
  · rw [make_eq_error_iff hgroup] at h
    exact Frame.first_negative (Frame.find?_offsets_of_check h)
  · exact Frame.position_le_of_kept (haccepts.mp ⟨w, h⟩) hstart hstop

omit hgroup in
/-- A start after an end that is the current row with an offset, which is reported first, two
negative offsets, and a frame of the two rows before the current one. -/
theorem make_reports_first_broken_misplaced :
    let b := Sample.series Sample.relation "b"
    let misplaced : Frame := .rows (.following 3) ⟨.currentRow, some 1⟩
    let negative : Frame := .rows (.preceding (-1)) (.following (-2))
    let accepted : Frame := .rows (.preceding 2) (.preceding 1)
    Columns.group [b] = .ok [("b", b)] ∧
      (¬ ∃ w, make [b] [] misplaced none = .ok w) ∧
      FrameRule.ordered.Broken misplaced ∧
      (∃ e, make [b] [] misplaced none = .error e ∧ e.code = "WINDOW_008") ∧
      make [b] [] negative none = .error (.frame (.negativeOffset (-1))) ∧
      (∃ w, make [b] [] accepted none = .ok w) ∧
      (Bound.preceding 2).position ≤ (Bound.preceding 1).position := by
  intro b misplaced negative accepted
  have hgroup : Columns.group [b] = .ok [("b", b)] := by decide +kernel
  have hmisplaced := make_reports_first_broken hgroup [] misplaced none
  have haccepted := make_reports_first_broken hgroup [] accepted none
  obtain ⟨w, hw⟩ : ∃ w, make [b] [] accepted none = .ok w := ⟨_, rfl⟩
  have hordered : FrameRule.ordered.Broken misplaced := by decide
  refine ⟨hgroup, fun h => hmisplaced.1.mp h .ordered hordered, hordered, ?_, by decide +kernel,
    ⟨w, hw⟩, haccepted.2.2.2 w hw _ _ rfl rfl⟩
  exact (hmisplaced.2.1 .bareCurrentRow).mp (by decide)

end Window

end QueryFrame
