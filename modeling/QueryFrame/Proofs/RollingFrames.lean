import Mathlib.Data.Int.Interval
import Mathlib.Data.Set.Card
import QueryFrame.Proofs.AcceptedFrames
import QueryFrame.Proofs.FirstFaults

/-!
# How many rows a rolling window holds

A rolling window is asked for by its size. From the size come two numbers, of the rows before the
current one and of the rows after it, by subtractions of unsigned numbers. No subtraction goes below
zero, and together with the current row the two are the size again
(`DataFrame.splits_rollingOffsets`).

The frame with these numbers (`Frame.around`) is always accepted, and it is written with the current
row as its end where no row follows (`Frame.check_around`). Which rows it holds is a matter of
places, and they are as many as were asked for (`Frame.ncard_holds_around`).

So a dataframe without a partition can be put under a rolling window of any size but zero, and under
an expanding one, and what changes is the partition alone (`DataFrame.rolling_holds_size`).
-/

namespace QueryFrame

open Number

/-! ## Rows in a frame -/

namespace Frame

/-- Whether a row, counted from the current one, is within the bounds of a frame. -/
def Holds (frame : Frame) (row : ℤ) : Prop :=
  (∀ start ∈ frame.start, start.position ≤ ((row : WithTop ℤ) : WithBot (WithTop ℤ))) ∧
    ∀ stop ∈ frame.stop, ((row : WithTop ℤ) : WithBot (WithTop ℤ)) ≤ stop.position

/-- The frame with so many rows before the current one and so many after it. -/
def around (before after : ℕ) : Frame :=
  .rows (.preceding (.ofNat before)) (if after = 0 then .currentRow else .following (.ofNat after))

/-- Of a frame with two bounds, both decide. -/
theorem holds_rows_iff {start stop : Bound} {row : ℤ} :
    (rows start stop).Holds row ↔
      start.position ≤ ((row : WithTop ℤ) : WithBot (WithTop ℤ)) ∧
        ((row : WithTop ℤ) : WithBot (WithTop ℤ)) ≤ stop.position := by
  simp [Holds, rows]

/-- A frame from before every row holds all rows up to the current one. -/
theorem holds_expanding_iff {row : ℤ} :
    (rows .unboundedPreceding .currentRow).Holds row ↔ row ≤ 0 := by
  rw [holds_rows_iff]
  exact and_iff_right bot_le |>.trans Bound.row_le_row_iff

/-- A frame of rows is written with the clauses of its bounds. -/
theorem clause_rows {start stop : Bound} {first last : String} (hfirst : start.clause = .ok first)
    (hlast : stop.clause = .ok last) :
    (rows start stop).clause .rows = .ok ("ROWS BETWEEN " ++ first ++ " AND " ++ last) := by
  simp only [clause, rows, hfirst, hlast, Outcome.ok_bind]
  rfl

section Around

variable {before after : ℕ} (hbefore : before < 2 ^ 32) (hafter : after < 2 ^ 32)

include hbefore hafter

/-- The rows in a frame are those between its numbers. -/
theorem holds_around_iff {row : ℤ} :
    (around before after).Holds row ↔ -(before : ℤ) ≤ row ∧ row ≤ after := by
  have hstart : (Int64.ofNat before).toInt = before := Int64.toInt_ofNat_of_lt (by omega)
  have hstop : (Int64.ofNat after).toInt = after := Int64.toInt_ofNat_of_lt (by omega)
  rw [around, holds_rows_iff]
  refine and_congr ?_ ?_
  · rw [← hstart]
    exact Bound.row_le_row_iff
  · split
    · next hnone =>
      rw [hnone]
      exact Bound.row_le_row_iff
    · rw [← hstop]
      exact Bound.row_le_row_iff

/-- **So they can be counted.** -/
theorem ncard_holds_around :
    {row : ℤ | (around before after).Holds row}.ncard = before + 1 + after := by
  have hrows : {row : ℤ | (around before after).Holds row} =
      ↑(Finset.Icc (-(before : ℤ)) after) := by
    ext row
    rw [Set.mem_ofPred_eq, holds_around_iff hbefore hafter, Finset.coe_Icc, Set.mem_Icc]
  rw [hrows, Set.ncard_coe_finset, Int.card_Icc]
  omega

/-- **The frame is accepted** and written with its numbers. Where no row follows, its end is the
current row. -/
theorem check_around : (around before after).check = .ok (.rows, "ROWS BETWEEN " ++ before.repr ++
    " PRECEDING AND " ++ if after = 0 then "CURRENT ROW" else after.repr ++ " FOLLOWING") := by
  have hoffset {n : ℕ} (hn : n < 2 ^ 32) : ¬ Int64.ofNat n < 0 ∧ ∀ side : String,
      Decimal.ofInt (Int64.ofNat n).toInt ++ " " ++ side = n.repr ++ (" " ++ side) := by
    have htoInt : (Int64.ofNat n).toInt = n := Int64.toInt_ofNat_of_lt (by omega)
    rw [Int64.lt_iff_toInt_lt, htoInt, Int64.toInt_zero, ← Decimal.ofNat_eq_repr]
    exact ⟨by omega, fun side => String.append_assoc⟩
  obtain ⟨hnonnegative, hfirst⟩ := hoffset hbefore
  obtain ⟨hnonnegative', hlast⟩ := hoffset hafter
  obtain ⟨⟨mode, clause⟩, hchecked⟩ : ∃ checked, (around before after).check = .ok checked := by
    refine DataFrame.exists_check_rows hnonnegative ?_
    split
    · exact .inl rfl
    · exact .inr ⟨_, hnonnegative', rfl⟩
  obtain ⟨hmode, hclause⟩ := check_eq_ok hchecked
  obtain rfl : FrameMode.rows = mode := Option.some.inj hmode
  have hstart : (Bound.preceding (.ofNat before)).clause = .ok (before.repr ++ " PRECEDING") :=
    congrArg Except.ok (hfirst "PRECEDING")
  have hstop : Bound.clause (if after = 0 then .currentRow else .following (.ofNat after)) =
      .ok (if after = 0 then "CURRENT ROW" else after.repr ++ " FOLLOWING") := by
    split
    · rfl
    · exact congrArg Except.ok (hlast "FOLLOWING")
  have hbetween : " PRECEDING AND " = " PRECEDING" ++ " AND " := rfl
  rw [hchecked, Except.ok.inj (hclause.symm.trans (clause_rows hstart hstop)), hbetween]
  simp only [String.append_assoc]

end Around

end Frame

namespace DataFrame

/-! ## The numbers of a rolling window -/

/-- How the rows of a window lie around the current one. -/
structure Splits (size : ℕ) (centred : Bool) (before after : ℕ) : Prop where
  /-- with the current row they are as many as the window is to have -/
  total : before + 1 + after = size
  /-- no row follows, unless the window is centred -/
  trailing : centred = false → after = 0
  /-- and then at most one row more precedes than follows -/
  balanced : centred = true → after ≤ before ∧ before ≤ after + 1

section Offsets

variable {size : UInt32} (hsize : size ≠ 0) (centred : Bool)

include hsize

theorem toNat_pos_of_ne_zero : 0 < size.toNat := by
  rw [Nat.pos_iff_ne_zero, ne_eq, ← UInt32.toNat_zero, UInt32.toNat_inj]
  exact hsize

/-- What is subtracted is never more than there is. -/
theorem toNat_rollingOffsets :
    (rollingOffsets size centred).2.toNat = (if centred then (size.toNat - 1) / 2 else 0) ∧
      (rollingOffsets size centred).1.toNat =
        size.toNat - 1 - (rollingOffsets size centred).2.toNat := by
  have hless : (size - 1).toNat = size.toNat - 1 :=
    UInt32.toNat_sub_of_le _ _ (UInt32.le_iff_toNat_le.mpr (toNat_pos_of_ne_zero hsize))
  have hhalf : ((size - 1) / 2).toNat = (size.toNat - 1) / 2 := by
    rw [UInt32.toNat_div, hless]
    rfl
  cases centred with
  | false => exact ⟨rfl, hless⟩
  | true =>
    have hle : (size - 1) / 2 ≤ size - 1 := by
      rw [UInt32.le_iff_toNat_le, hless, hhalf]
      exact Nat.div_le_self _ _
    refine ⟨hhalf, ?_⟩
    exact (UInt32.toNat_sub_of_le _ _ hle).trans (congrArg (· - _) hless)

/-- **The rows of a rolling window add up.** -/
theorem splits_rollingOffsets :
    Splits size.toNat centred (rollingOffsets size centred).1.toNat
      (rollingOffsets size centred).2.toNat := by
  have hpos := toNat_pos_of_ne_zero hsize
  obtain ⟨hafter, hbefore⟩ := toNat_rollingOffsets hsize centred
  cases centred with
  | false =>
    rw [if_neg (by decide)] at hafter
    exact ⟨by omega, fun _ => hafter, by rintro ⟨⟩⟩
  | true =>
    rw [if_pos rfl] at hafter
    exact ⟨by omega, by rintro ⟨⟩, fun _ => by omega⟩

end Offsets

/-- The middle of an even number of rows is the later one. -/
example : rollingOffsets 4 true = (2, 1) ∧ rollingOffsets 5 true = (2, 2) := by decide

/-- The frame of a rolling window has these numbers. -/
theorem rollingFrame_eq_around (size : UInt32) (centred : Bool) :
    rollingFrame size centred = .around (rollingOffsets size centred).1.toNat
      (rollingOffsets size centred).2.toNat := by
  have hnone : (rollingOffsets size centred).2 = 0 ↔ (rollingOffsets size centred).2.toNat = 0 := by
    rw [← UInt32.toNat_inj, UInt32.toNat_zero]
  rw [Frame.around, ← if_congr hnone rfl rfl]
  rfl

/-! ## Dataframes under windows of all rows -/

/-- What becomes of a dataframe under a window that does not divide its rows: it is in the same
order, and nothing changes but the partition. -/
structure Windowed (df : DataFrame) (w : Window) (next : DataFrame) : Prop where
  /-- no column divides the rows -/
  columns : w.columns = []
  /-- the rows are in the order of the dataframe -/
  order : w.spec.order = df.order
  /-- the dataframe and its data columns are under the window, and otherwise what they were -/
  next : next = { df with
    data := df.data.map fun entry => (entry.1, { entry.2 with partition := some w.partition })
    partition := some w.partition }

/-- A frame that means something makes such a window. -/
theorem window_of_check {df : DataFrame} (hungrouped : df.partition = none) {frame : Frame}
    {mode : FrameMode} {clause : String} (hcheck : frame.check = .ok (mode, clause))
    (minValues : Option UInt32) :
    ∃ next, df.window [] (some frame) minValues = .ok next ∧
      df.Windowed ⟨[], ⟨df.order, mode, frame.start, frame.stop, minValues.getD 0, clause⟩⟩
        next := by
  have happly : df.window [] (some frame) minValues = df.applyPartition (Window.partition
      ⟨[], ⟨df.order, mode, frame.start, frame.stop, minValues.getD 0, clause⟩⟩) := by
    rw [window_eq_keyColumns, Option.getD_some, hcheck]
    rfl
  rw [happly, applyPartition, hungrouped]
  exact ⟨_, rfl, rfl, rfl, rfl⟩

/-- **A rolling window holds as many rows as it was asked for.** Only a window without rows is
refused. Any other size is accepted for a dataframe without a partition, centred or not, and the
frame has the current row, the rows before it and the rows after it, which are split as they should
be. It is written with their numbers, and with the current row as its end exactly if no row follows.
The least number of rows is the one that was given, or else the size. An expanding window is always
accepted, and holds all rows up to the current one. Either window is in the order of the dataframe
and divides nothing, and the dataframe is otherwise what it was. -/
theorem rolling_holds_size (df : DataFrame) (minPeriods : Option UInt32) :
    (∀ centred, ∃ e, df.rolling 0 minPeriods centred = .error e ∧ e.code = "WINDOW_009") ∧
    (df.partition = none →
      (∀ size centred, size ≠ 0 → ∃ next w before after,
        df.rolling size minPeriods centred = .ok next ∧ df.Windowed w next ∧
        Splits size.toNat centred before after ∧
        w.spec.frame = .rows (.preceding (.ofNat before))
          (if after = 0 then .currentRow else .following (.ofNat after)) ∧
        w.spec.clause = "ROWS BETWEEN " ++ before.repr ++ " PRECEDING AND " ++
          (if after = 0 then "CURRENT ROW" else after.repr ++ " FOLLOWING") ∧
        w.spec.minValues = minPeriods.getD size ∧
        (∀ row, w.spec.frame.Holds row ↔ -(before : ℤ) ≤ row ∧ row ≤ after) ∧
        {row : ℤ | w.spec.frame.Holds row}.ncard = size.toNat) ∧
      ∃ next w, df.expanding minPeriods = .ok next ∧ df.Windowed w next ∧
        w.spec.frame = .rows .unboundedPreceding .currentRow ∧
        w.spec.clause = "ROWS BETWEEN UNBOUNDED PRECEDING AND CURRENT ROW" ∧
        w.spec.minValues = minPeriods.getD 0 ∧
        ∀ row, w.spec.frame.Holds row ↔ row ≤ 0) := by
  refine ⟨fun centred => ⟨_, rfl, rfl⟩, fun hungrouped => ⟨fun size centred hsize => ?_, ?_⟩⟩
  · have hsplits := splits_rollingOffsets hsize centred
    have hframe := rollingFrame_eq_around size centred
    have hbefore := (rollingOffsets size centred).1.toNat_lt
    have hafter := (rollingOffsets size centred).2.toNat_lt
    generalize (rollingOffsets size centred).1.toNat = before at *
    generalize (rollingOffsets size centred).2.toNat = after at *
    obtain ⟨next, hnext, hwindowed⟩ := window_of_check hungrouped
      (Frame.check_around hbefore hafter) (some (minPeriods.getD size))
    refine ⟨next, _, before, after, ?_, hwindowed, hsplits, rfl, rfl, rfl,
      fun row => Frame.holds_around_iff hbefore hafter, ?_⟩
    · rw [rolling, if_neg hsize, hframe, hnext]
    · rw [← hsplits.total]
      exact Frame.ncard_holds_around hbefore hafter
  · have hcheck : (Frame.rows .unboundedPreceding .currentRow).check =
        .ok (.rows, "ROWS BETWEEN UNBOUNDED PRECEDING AND CURRENT ROW") := rfl
    obtain ⟨next, hnext, hwindowed⟩ := window_of_check hungrouped hcheck minPeriods
    exact ⟨next, _, hnext, hwindowed, rfl, rfl, rfl, fun row => Frame.holds_expanding_iff⟩

/-- The largest window, centred on a row in an order, and the smallest, which is the row itself. -/
theorem rolling_holds_size_largest :
    let df := { Sample.dataFrame ["a"] ["b"] with order := [⟨.column "a", true⟩] }
    df.partition = none ∧ (4294967295 : UInt32) ≠ 0 ∧ (1 : UInt32) ≠ 0 ∧
      (∃ (next : DataFrame) (w : Window), df.rolling 4294967295 (some 0) true = .ok next ∧
        next.partition = some w.partition ∧ w.spec.order = [⟨.column "a", true⟩] ∧
        w.spec.clause = "ROWS BETWEEN 2147483647 PRECEDING AND 2147483647 FOLLOWING" ∧
        w.spec.minValues = 0 ∧ {row : ℤ | w.spec.frame.Holds row}.ncard = 4294967295) ∧
      (∃ (next : DataFrame) (w : Window), df.rolling 1 none true = .ok next ∧
        next.index = df.index ∧
        w.spec.clause = "ROWS BETWEEN 0 PRECEDING AND CURRENT ROW" ∧ w.spec.minValues = 1 ∧
        ∀ row, w.spec.frame.Holds row ↔ row = 0) ∧
      ∃ (next : DataFrame) (w : Window), df.expanding none = .ok next ∧ next.order = df.order ∧
        w.spec.minValues = 0 ∧ ∀ row, w.spec.frame.Holds row ↔ row ≤ 0 := by
  intro df
  refine ⟨rfl, by decide, by decide, ?_, ?_, ?_⟩
  · obtain ⟨next, w, before, after, hnext, hw, hsplits, -, hclause, hleast, -, hcard⟩ :=
      ((rolling_holds_size df (some 0)).2 rfl).1 4294967295 true (by decide)
    obtain ⟨rfl, rfl⟩ : before = 2147483647 ∧ after = 2147483647 := by
      have htotal : before + 1 + after = 4294967295 := hsplits.total
      have hbalanced := hsplits.balanced rfl
      omega
    exact ⟨next, w, hnext, by rw [hw.next], hw.order, hclause, hleast, hcard⟩
  · obtain ⟨next, w, before, after, hnext, hw, hsplits, -, hclause, hleast, hholds, -⟩ :=
      ((rolling_holds_size df none).2 rfl).1 1 true (by decide)
    obtain ⟨rfl, rfl⟩ : before = 0 ∧ after = 0 := by
      have htotal : before + 1 + after = 1 := hsplits.total
      omega
    refine ⟨next, w, hnext, by rw [hw.next], hclause, hleast, fun row => (hholds row).trans ?_⟩
    exact ⟨fun h => by omega, fun h => by omega⟩
  · obtain ⟨next, w, hnext, hw, -, -, hleast, hholds⟩ :=
      ((rolling_holds_size df none).2 rfl).2
    exact ⟨next, w, hnext, by rw [hw.next], hleast, hholds⟩

end DataFrame

end QueryFrame
