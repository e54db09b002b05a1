import QueryFrame.Proofs.AcceptedFrames

/-!
# Frames without an end

A frame that has a start and no end goes up to the current row. Still it is not the same as a frame
that says so. The rule that a frame must not start after its end is for frames with two bounds
(`FrameRule.ordered`), and that is the only rule that the two can keep differently
(`Frame.broken_toCurrentRow_iff`).

So a frame without an end may start some rows after the row that it ends at, and is refused as soon
as its end is spelled out. `Frame.kept_alone_following_iff` says which frames these are, and
`Frame.position_le_last_iff` that there are no other accepted frames that start after their end.
-/

namespace QueryFrame

namespace Frame

/-- The frame that starts there and has no end. -/
def alone (mode : Option FrameMode) (start : Bound) : Frame :=
  ⟨mode, some start, none⟩

/-- The frame that starts there and ends at the current row. -/
def toCurrentRow (mode : Option FrameMode) (start : Bound) : Frame :=
  ⟨mode, some start, some .currentRow⟩

/-- Where a frame ends, which is the current row if nothing is said. -/
def last (frame : Frame) : Bound :=
  frame.stop.getD .currentRow

variable {mode : Option FrameMode} {start : Bound}

/-- Spelling out the end breaks the last rule, if anything, and only where the start follows. -/
theorem broken_toCurrentRow_iff (rule : FrameRule) :
    rule.Broken (toCurrentRow mode start) ↔
      rule.Broken (alone mode start) ∨ rule = .ordered ∧ start.boundary = .following := by
  have hafter : start.After .currentRow ↔ start.boundary = .following := by
    obtain ⟨side, offset⟩ := start
    cases side <;> simp [Bound.After, Bound.currentRow, Boundary.rank]
  cases rule with
  | ordered => simpa [FrameRule.Broken, toCurrentRow, alone] using hafter
  | hasMode | hasStart | reachableStart => simp [FrameRule.Broken, toCurrentRow, alone]
  | reachableStop => simp [FrameRule.Broken, toCurrentRow, alone, Bound.currentRow]
  | nonnegative | countsRows | bareCurrentRow =>
    simp [FrameRule.Broken, toCurrentRow, alone, bounds, Bound.currentRow, Bound.Misplaced]

theorem kept_toCurrentRow_iff :
    (∀ rule : FrameRule, ¬ rule.Broken (toCurrentRow mode start)) ↔
      (∀ rule : FrameRule, ¬ rule.Broken (alone mode start)) ∧ start.boundary ≠ .following := by
  simp only [broken_toCurrentRow_iff, not_or, not_and]
  constructor
  · exact fun h => ⟨fun rule => (h rule).1, (h .ordered).2 rfl⟩
  · exact fun h rule => ⟨h.1 rule, fun _ => h.2⟩

/-- **A frame may start after the current row, without an end**: some rows after it, in rows. -/
theorem kept_alone_following_iff :
    ((∀ rule : FrameRule, ¬ rule.Broken (alone mode start)) ∧ start.boundary = .following) ↔
      mode = some .rows ∧ ∃ offset, 0 ≤ offset ∧ start = .following offset := by
  constructor
  · rintro ⟨hkept, hside⟩
    obtain ⟨side, offset⟩ := start
    obtain rfl : side = .following := hside
    cases offset with
    | none => exact absurd ⟨_, rfl, rfl, rfl⟩ (hkept .reachableStart)
    | some offset =>
      refine ⟨?_, offset, ?_, rfl⟩
      · cases mode with
        | none => exact absurd rfl (hkept .hasMode)
        | some mode =>
          cases mode with
          | rows => rfl
          | range =>
            have hoffset : Bound.offset ⟨.following, some offset⟩ ≠ none := Option.some_ne_none _
            exact absurd ⟨rfl, _, List.mem_singleton_self _, hoffset⟩ (hkept .countsRows)
      · exact nonnegative_of_kept (hkept .nonnegative) _ (List.mem_singleton_self _) offset rfl
  · rintro ⟨rfl, offset, hoffset, rfl⟩
    refine ⟨fun rule => ?_, rfl⟩
    cases rule <;> simp [FrameRule.Broken, alone, bounds, Bound.following, Bound.Misplaced, hoffset]

/-- With its end spelled out, such a frame is inverted. -/
theorem firstBroken?_toCurrentRow (hkept : ∀ rule : FrameRule, ¬ rule.Broken (alone mode start))
    (hside : start.boundary = .following) :
    FrameRule.firstBroken? (toCurrentRow mode start) = some .ordered := by
  cases hfirst : FrameRule.firstBroken? (toCurrentRow mode start) with
  | none =>
    have hordered : FrameRule.ordered.Broken (toCurrentRow mode start) :=
      (broken_toCurrentRow_iff .ordered).mpr (.inr ⟨rfl, hside⟩)
    exact absurd hordered (FrameRule.firstBroken?_eq_none_iff.mp hfirst .ordered)
  | some rule =>
    rw [FrameRule.firstBroken?, FrameRule.firstOf?] at hfirst
    have hbroken := List.find?_some hfirst
    rw [decide_eq_true_eq, broken_toCurrentRow_iff] at hbroken
    rcases hbroken with hbroken | ⟨rfl, -⟩
    · exact absurd hbroken (hkept rule)
    · rfl

/-- **Where a frame that keeps the rules starts after it ends**: if it has no end, and starts some
rows after the current one. -/
theorem position_le_last_iff {frame : Frame} (hkept : ∀ rule : FrameRule, ¬ rule.Broken frame)
    (hstart : frame.start = some start) :
    start.position ≤ frame.last.position ↔
      ¬ (frame.stop = none ∧ ∃ offset, 0 < offset ∧ start = .following offset) := by
  have hnonnegative : start.Nonnegative := by
    refine nonnegative_of_kept (hkept .nonnegative) start ?_
    rw [bounds, hstart]
    simp
  cases hstop : frame.stop with
  | some stop =>
    rw [last, hstop, Option.getD_some]
    exact iff_of_true (position_le_of_kept hkept hstart hstop) (by rintro ⟨⟨⟩, _⟩)
  | none =>
    rw [last, hstop, Option.getD_none]
    by_cases hside : start.boundary = .following
    · obtain ⟨side, offset⟩ := start
      obtain rfl : side = .following := hside
      cases offset with
      | none => exact absurd ⟨_, hstart, rfl, rfl⟩ (hkept .reachableStart)
      | some offset =>
        have hplace : Bound.position ⟨.following, some offset⟩ ≤ Bound.currentRow.position ↔
            offset ≤ 0 := by
          rw [Int64.le_iff_toInt_le, Int64.toInt_zero]
          exact Bound.row_le_row_iff
        rw [hplace, ← Int64.not_lt, not_iff_not]
        constructor
        · exact fun hoffset => ⟨rfl, offset, hoffset, rfl⟩
        · rintro ⟨-, own, hoffset, ⟨⟩⟩
          exact hoffset
    · refine iff_of_true (Bound.position_le_currentRow hside hnonnegative) ?_
      rintro ⟨-, offset, -, rfl⟩
      exact hside rfl

end Frame

namespace Window

/-- **Leaving out the end of a frame is more than a way to write it.** Over columns that can be
grouped on, a frame without an end is accepted exactly if it is with the current row as its end,
unless it starts some rows after the current one. Then it is accepted without an end, and refused as
inverted with it. Such a frame starts after its end unless it starts at the current row itself, and
no other accepted frame does. -/
theorem make_alone_iff_toCurrentRow {columns : List Series} {grouped : Columns}
    (hgroup : Columns.group columns = .ok grouped) (order : List SortKey)
    (minValues : Option UInt32) :
    (∀ mode start, ((∃ w, make columns order (.alone mode start) minValues = .ok w) ↔
        ∃ w, make columns order (.toCurrentRow mode start) minValues = .ok w) ↔
      ¬ (mode = some .rows ∧ ∃ offset, 0 ≤ offset ∧ start = .following offset)) ∧
    (∀ offset, 0 ≤ offset →
      (∃ w, make columns order (.alone (some .rows) (.following offset)) minValues = .ok w) ∧
      ∃ e, make columns order (.toCurrentRow (some .rows) (.following offset)) minValues =
        .error e ∧ e.code = "WINDOW_007") ∧
    ∀ frame w, make columns order frame minValues = .ok w → ∀ start, frame.start = some start →
      (start.position ≤ frame.last.position ↔
        ¬ (frame.stop = none ∧ ∃ offset, 0 < offset ∧ start = .following offset)) := by
  have haccepts (frame : Frame) := exists_make_iff_kept hgroup order frame minValues
  refine ⟨fun mode start => ?_, fun offset hoffset => ?_, fun frame w hw start hstart => ?_⟩
  · rw [haccepts, haccepts, Frame.kept_toCurrentRow_iff, ← Frame.kept_alone_following_iff]
    tauto
  · obtain ⟨hkept, hside⟩ := Frame.kept_alone_following_iff.mpr ⟨rfl, offset, hoffset, rfl⟩
    exact ⟨(haccepts _).mpr hkept, (firstBroken?_eq_some_iff hgroup order _ minValues .ordered).mp
      (Frame.firstBroken?_toCurrentRow hkept hside)⟩
  · exact Frame.position_le_last_iff ((haccepts frame).mp ⟨w, hw⟩) hstart

/-- The frame from the second row after the current one on, and the same frame up to the current
row. -/
theorem make_alone_iff_toCurrentRow_following :
    let b := Sample.series Sample.relation "b"
    let start : Bound := .following 2
    Columns.group [b] = .ok [("b", b)] ∧ (0 : Int64) ≤ 2 ∧
      (∃ w, make [b] [] (.alone (some .rows) start) (some 2) = .ok w) ∧
      (∃ e, make [b] [] (.toCurrentRow (some .rows) start) (some 2) = .error e ∧
        e.code = "WINDOW_007") ∧
      ¬ start.position ≤ (Frame.alone (some .rows) start).last.position := by
  intro b start
  have hgroup : Columns.group [b] = .ok [("b", b)] := by decide +kernel
  obtain ⟨-, hfollowing, hlast⟩ := make_alone_iff_toCurrentRow hgroup [] (some 2)
  obtain ⟨⟨w, hw⟩, hrefused⟩ := hfollowing 2 (by decide)
  refine ⟨hgroup, by decide, ⟨w, hw⟩, hrefused, fun h => ?_⟩
  exact (hlast _ w hw start rfl).mp h ⟨rfl, 2, by decide, rfl⟩

/-- **A window can start after the row that it ends at**, and is refused when that row is spelled
out. -/
theorem starts_after_its_end :
    let order : List SortKey := [⟨.column "a", true⟩]
    make [] order ⟨some .rows, some (.following 3), none⟩ none =
        .ok ⟨[], ⟨order, .rows, some (.following 3), none, 0, "ROWS 3 FOLLOWING"⟩⟩ ∧
      make [] order ⟨some .rows, some (.following 3), some .currentRow⟩ none =
        .error (.frame (.inverted "3 FOLLOWING" "CURRENT ROW")) ∧
      ¬ (Bound.following 3).position ≤ Bound.currentRow.position := by
  refine ⟨by decide +kernel, by decide +kernel, fun h => ?_⟩
  exact absurd (Bound.row_le_row_iff.mp h) (by decide)

end Window

end QueryFrame
