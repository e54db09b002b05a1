import Mathlib.Data.List.Forall2
import QueryFrame.Error.Wording
import QueryFrame.Proofs.Formed
import QueryFrame.Proofs.Parts
import QueryFrame.Sample

/-!
# One column in different surroundings

What a series is as a column is its name, its type, its expression, its relation and its levels.
Everything else says where it stands: the index and the partition of its dataframe, which index
columns are sorted, and whether it is sorted itself. Two series that differ in nothing else are one
column (`Series.SameColumn`).

Grouping on columns sees them as keys, and a key is without surroundings, with one exception: it
keeps its own direction. So for lists that agree column by column

* the faults are the same, whatever partition is made (`Partition.Recipe.make_cases`);
* the partitions say the same, in the clause and in the select list;
* they are equal exactly if the columns that are kept, the last of each name, are sorted the same
  way (`Columns.group_eq_iff_directions`).

Aggregates over two partitions can be compared if the partitions are equal, and only then
(`Series.exists_compare_iff`). Together this is `Partition.make_eq_iff_directions`. That the
direction does make a difference is seen in `Partition.sorted_key_differs`.
-/

namespace QueryFrame

namespace Series

/-! ## One column -/

/-- The column in other surroundings. -/
def placed (s : Series) (index : Columns) (partition : Option Partition) (indexSorting : List Bool)
    (ascending : Option Bool) : Series :=
  { s with
    index := index
    partition := partition
    indexSorting := indexSorting
    ascending := ascending }

/-- Whether two series are one column, wherever each of them stands. -/
def SameColumn (s t : Series) : Prop :=
  ∃ index partition indexSorting ascending, t = s.placed index partition indexSorting ascending

/-- The series without a direction of its own. -/
def unsorted (s : Series) : Series :=
  { s with ascending := none }

theorem eq_of_unsorted {s t : Series} (h : s.unsorted = t.unsorted)
    (hascending : s.ascending = t.ascending) : s = t := by
  obtain ⟨name, dtype, expr, relation, index, partition, indexSorting, ascending, levels⟩ := s
  obtain rfl : ascending = t.ascending := hascending
  cases t
  cases h
  rfl

namespace SameColumn

variable {s t : Series}

theorem name_eq (h : s.SameColumn t) : t.name = s.name := by
  obtain ⟨index, partition, indexSorting, ascending, rfl⟩ := h
  rfl

/-- Whether rows can be grouped on a column does not depend on where it stands. -/
theorem groupingFault?_eq (h : s.SameColumn t) : t.groupingFault? = s.groupingFault? := by
  obtain ⟨index, partition, indexSorting, ascending, rfl⟩ := h
  rfl

/-- As a key a column is the same everywhere, except for its direction. -/
theorem unsorted_asKey (h : s.SameColumn t) : t.asKey.unsorted = s.asKey.unsorted := by
  obtain ⟨index, partition, indexSorting, ascending, rfl⟩ := h
  rfl

end SameColumn

end Series

/-! ## Columns that are grouped on -/

namespace Columns

/-- The last series of each name, in the place of the first. -/
def lastOfName (columns : List Series) : Columns :=
  Keyed.ofList (columns.map fun s => (s.name, s))

/-- Which way the last series of each name is sorted. -/
def directions (columns : List Series) : List (String × Option Bool) :=
  (lastOfName columns).map fun entry => (entry.1, entry.2.ascending)

/-- What is grouped on are the keys of these series. -/
theorem eq_of_group {columns : List Series} {grouped : Columns}
    (h : group columns = .ok grouped) :
    grouped = Keyed.mapValues Series.asKey (lastOfName columns) := by
  rw [(group_eq_ok h).2, lastOfName, ← Keyed.ofList_mapValues, Keyed.mapValues, List.map_map]
  rfl

/-- The directions can be read off what is grouped on. -/
theorem map_ascending_of_group {columns : List Series} {grouped : Columns}
    (h : group columns = .ok grouped) :
    grouped.map (fun entry => (entry.1, entry.2.ascending)) = directions columns := by
  rw [eq_of_group h, Keyed.mapValues, List.map_map]
  rfl

/-- Columns are determined by what they are without a direction, and the directions. -/
theorem eq_of_mapValues_unsorted {left right : Columns}
    (h : Keyed.mapValues Series.unsorted left = Keyed.mapValues Series.unsorted right)
    (hascending : left.map (fun entry => (entry.1, entry.2.ascending)) =
      right.map fun entry => (entry.1, entry.2.ascending)) : left = right := by
  induction left generalizing right with
  | nil => exact (List.map_eq_nil_iff.mp h.symm).symm
  | cons entry rest ih =>
    cases right with
    | nil => cases h
    | cons other others =>
      rw [Keyed.mapValues_cons, Keyed.mapValues_cons, List.cons.injEq, Prod.mk.injEq] at h
      rw [List.map_cons, List.map_cons, List.cons.injEq, Prod.mk.injEq] at hascending
      have hseries := Series.eq_of_unsorted h.1.2 hascending.1.2
      rw [ih h.2 hascending.2, Prod.ext h.1.1 hseries]

section Alike

variable {columns others : List Series}

/-- The first fault among columns does not depend on where they stand. -/
theorem findSome?_groupingFault? (h : List.Forall₂ Series.SameColumn columns others) :
    others.findSome? Series.groupingFault? = columns.findSome? Series.groupingFault? := by
  induction h with
  | nil => rfl
  | cons hsame _ ih => rw [List.findSome?_cons, List.findSome?_cons, hsame.groupingFault?_eq, ih]

/-- So they are refused alike. -/
theorem group_eq_error_alike (h : List.Forall₂ Series.SameColumn columns others) {fault : Error} :
    group columns = .error fault ↔ group others = .error fault := by
  rw [group, group, findSome?_groupingFault? h]
  cases columns.findSome? Series.groupingFault? with
  | none => exact iff_of_false (by rintro ⟨⟩) (by rintro ⟨⟩)
  | some own => rfl

variable {grouped regrouped : Columns}

/-- What is grouped on is the same but for the directions. -/
theorem mapValues_unsorted_of_group (h : List.Forall₂ Series.SameColumn columns others)
    (hcolumns : group columns = .ok grouped) (hothers : group others = .ok regrouped) :
    Keyed.mapValues Series.unsorted grouped = Keyed.mapValues Series.unsorted regrouped := by
  have hkeys : (columns.map fun s => (s.name, s.asKey.unsorted)) =
      others.map fun s => (s.name, s.asKey.unsorted) := by
    clear hcolumns hothers
    induction h with
    | nil => rfl
    | cons hsame _ ih =>
      rw [List.map_cons, List.map_cons, ih, hsame.name_eq, hsame.unsorted_asKey]
  have hofList : ∀ list : List Series,
      Keyed.mapValues Series.unsorted
          (Keyed.ofList (list.map fun s => (s.name, s.asKey))) =
        Keyed.ofList (list.map fun s => (s.name, s.asKey.unsorted)) := by
    intro list
    rw [← Keyed.ofList_mapValues, Keyed.mapValues, List.map_map]
    rfl
  rw [(group_eq_ok hcolumns).2, (group_eq_ok hothers).2, hofList, hofList, hkeys]

/-- **And the directions decide**: those of the columns that are kept. -/
theorem group_eq_iff_directions (h : List.Forall₂ Series.SameColumn columns others)
    (hcolumns : group columns = .ok grouped) (hothers : group others = .ok regrouped) :
    grouped = regrouped ↔ directions columns = directions others := by
  rw [← map_ascending_of_group hcolumns, ← map_ascending_of_group hothers]
  refine ⟨fun heq => by rw [heq], fun hascending => ?_⟩
  exact eq_of_mapValues_unsorted (mapValues_unsorted_of_group h hcolumns hothers) hascending

end Alike

/-! ### What columns say

A direction shows in nothing that is written for a key. -/

section Says

variable {left right : Columns}
  (h : Keyed.mapValues Series.unsorted left = Keyed.mapValues Series.unsorted right)

include h

theorem map_unsorted_values :
    (Keyed.values left).map Series.unsorted = (Keyed.values right).map Series.unsorted := by
  rw [← Keyed.values_mapValues, h, Keyed.values_mapValues]

theorem isEmpty_of_unsorted : left.isEmpty = right.isEmpty := by
  rw [← List.isEmpty_map (f := fun entry : String × Series => (entry.1, entry.2.unsorted))]
  exact (congrArg List.isEmpty h).trans List.isEmpty_map

theorem groupExprs_of_unsorted : groupExprs left = groupExprs right := by
  have hown : ∀ columns : Columns, groupExprs columns =
      ((Keyed.values columns).map Series.unsorted).flatMap Series.groupExprs := fun columns => by
    rw [List.flatMap_map]
    rfl
  rw [hown, hown, map_unsorted_values h]

theorem selectItems_of_unsorted (whole : Bool) :
    selectItems left whole = selectItems right whole := by
  have hown : ∀ list : List Series,
      Series.selectItems whole (list.map Series.unsorted) = Series.selectItems whole list := by
    intro list
    induction list with
    | nil => rfl
    | cons s rest ih =>
      rw [List.map_cons, Series.selectItems, Series.selectItems, ih]
      rfl
  rw [selectItems, selectItems, ← hown, map_unsorted_values h, hown]

theorem clause_of_unsorted : clause left = clause right := by
  rw [clause, clause, isEmpty_of_unsorted h, groupExprs_of_unsorted h]

end Says

end Columns

/-! ## Partitions that are made alike -/

namespace Partition

/-- A way to make a partition of columns. -/
inductive Recipe where
  /-- one group for each combination of values -/
  | plain
  /-- one grouping for every combination of the columns -/
  | cube
  /-- one grouping for each run of the columns from the first on -/
  | rollup
  /-- a window over them -/
  | window (order : List SortKey) (frame : Frame) (minValues : Option UInt32)

namespace Recipe

/-- The partition of the columns. -/
def make : Recipe → List Series → Outcome Partition
  | .plain, columns => Partition.groupBy columns
  | .cube, columns => Partition.cube columns
  | .rollup, columns => Partition.rollup columns
  | .window order frame minValues, columns =>
    (Window.make columns order frame minValues).map Window.partition

/-- What is made of columns that can be grouped on, if there are any, or if there are none. -/
def shape : Recipe → Bool → Outcome Shape
  | .plain, _ => .ok .plain
  | .cube, empty => if empty then .error (.grouping .emptyCube) else .ok .cube
  | .rollup, empty => if empty then .error (.grouping .emptyRollup) else .ok .rollup
  | .window order frame minValues, _ => frame.check.map fun checked =>
    .window ⟨order, checked.1, frame.start, frame.stop, minValues.getD 0, checked.2⟩

/-- A partition is made in two steps, and of the columns the second one only sees whether there are
any. -/
theorem make_eq (r : Recipe) (columns : List Series) :
    r.make columns = (Columns.group columns >>= fun grouped =>
      (r.shape grouped.isEmpty).map fun shape => ⟨grouped, shape⟩) := by
  cases r with
  | plain => rfl
  | cube =>
    refine bind_congr fun grouped => ?_
    rw [shape]
    cases grouped.isEmpty <;> rfl
  | rollup =>
    refine bind_congr fun grouped => ?_
    rw [shape]
    cases grouped.isEmpty <;> rfl
  | window order frame minValues =>
    rw [make, Window.make]
    cases Columns.group columns with
    | error fault => rfl
    | ok grouped =>
      rw [Outcome.ok_bind, Outcome.ok_bind, shape]
      cases frame.check <;> rfl

/-- **The same columns make the same partition**, as far as they are the same: either both lists are
refused for one fault, or both are accepted, and the same is made of what is grouped on. -/
theorem make_cases {columns others : List Series}
    (h : List.Forall₂ Series.SameColumn columns others) (r : Recipe) :
    (∃ fault, r.make columns = .error fault ∧ r.make others = .error fault) ∨
      ∃ grouped regrouped shape,
        Columns.group columns = .ok grouped ∧ Columns.group others = .ok regrouped ∧
        r.make columns = .ok ⟨grouped, shape⟩ ∧ r.make others = .ok ⟨regrouped, shape⟩ := by
  rw [r.make_eq, r.make_eq]
  cases hcolumns : Columns.group columns with
  | error fault =>
    rw [(Columns.group_eq_error_alike h).mp hcolumns]
    exact .inl ⟨fault, rfl, rfl⟩
  | ok grouped =>
    cases hothers : Columns.group others with
    | error fault => cases hcolumns.symm.trans ((Columns.group_eq_error_alike h).mpr hothers)
    | ok regrouped =>
      have hsame := Columns.mapValues_unsorted_of_group h hcolumns hothers
      rw [Outcome.ok_bind, Outcome.ok_bind, Columns.isEmpty_of_unsorted hsame]
      cases r.shape regrouped.isEmpty with
      | error fault => exact .inl ⟨fault, rfl, rfl⟩
      | ok shape => exact .inr ⟨grouped, regrouped, shape, rfl, rfl, rfl, rfl⟩

end Recipe

/-- What is said of a partition does not depend on directions. -/
theorem clause_of_unsorted {left right : Columns}
    (h : Keyed.mapValues Series.unsorted left = Keyed.mapValues Series.unsorted right)
    (shape : Shape) : clause ⟨left, shape⟩ = clause ⟨right, shape⟩ := by
  cases shape <;> simp only [clause, Columns.clause_of_unsorted h]

end Partition

/-! ## Aggregates over them -/

namespace Series

/-- **Two series of one relation can be compared exactly if they are under one partition**, as long
as their types go together. -/
theorem exists_compare_iff {s t : Series} (htypes : s.dtype.comparableWith t.dtype = true)
    (hrelation : s.relation = t.relation) (op : Comparison) :
    (∃ next, s.compare op t = .ok next) ↔ s.partition = t.partition := by
  refine ⟨?_, fun hpartition => exists_compare htypes hrelation hpartition op⟩
  rintro ⟨next, h⟩
  obtain ⟨-, -, h⟩ := Outcome.bind_eq_ok h
  split at h
  · next hsame =>
    rw [Bool.and_eq_true] at hsame
    exact (Partition.sameOption_iff _ _).mp hsame.2
  · cases h

/-- Otherwise the operand is foreign. -/
theorem compare_of_partition_ne {s t : Series} (htypes : s.dtype.comparableWith t.dtype = true)
    (hpartition : s.partition ≠ t.partition) (op : Comparison) :
    s.compare op t = .error (.series (.foreignOperand s.name t.name)) := by
  have hdiffers : Partition.sameOption s.partition t.partition = false := by
    rw [← Bool.not_eq_true, Partition.sameOption_iff]
    exact hpartition
  rw [compare, checkComparable, if_pos htypes, Outcome.ok_bind, hdiffers, Bool.and_false,
    if_neg Bool.false_ne_true]

/-- An aggregate is under the partition that it was made over, or stays where its series was if that
is a window. -/
theorem partition_of_aggregate_over {s total : Series} {f : Aggregate} {p : Partition}
    (h : s.aggregate f (some p) = .ok total) :
    total.name = s.name ∧ total.relation = s.relation ∧
      total.partition = if p.isWindow then s.partition else some p := by
  obtain ⟨-, call, -, htotal⟩ := aggregate_some_eq_ok h
  rw [p.isWindow_eq]
  rcases htotal with ⟨w, expr, hw, -, rfl⟩ | ⟨hnone, rfl⟩
  · rw [hw]
    exact ⟨rfl, rfl, rfl⟩
  · rw [hnone]
    exact ⟨rfl, rfl, rfl⟩

/-- Whether two aggregates of one relation line up: exactly if `same` holds they are under one
partition, and can be compared from either side. -/
structure LinesUp (total other : Series) (same : Prop) : Prop where
  /-- they are under one partition -/
  partition : total.partition = other.partition ↔ same
  /-- they can be compared, if their types can -/
  compared : total.dtype.comparableWith other.dtype = true → ∀ op,
    ((∃ next, total.compare op other = .ok next) ↔ same) ∧
      ((∃ next, other.compare op total = .ok next) ↔ same)
  /-- otherwise the operand is refused as a foreign one -/
  refused : total.dtype.comparableWith other.dtype = true → ¬ same → ∀ op,
    total.compare op other = .error (.series (.foreignOperand total.name other.name)) ∧
      (Error.series (.foreignOperand total.name other.name)).code = "SERIES_001"

/-- Being under one partition is all there is to it. -/
theorem LinesUp.of_partition {total other : Series} {same : Prop}
    (hrelation : total.relation = other.relation)
    (h : total.partition = other.partition ↔ same) : LinesUp total other same where
  partition := h
  compared htypes op := by
    have hback : other.dtype.comparableWith total.dtype = true := by
      rw [DataType.comparableWith_comm]
      exact htypes
    rw [exists_compare_iff htypes hrelation, exists_compare_iff hback hrelation.symm, ← h]
    exact ⟨Iff.rfl, eq_comm⟩
  refused htypes hdiffer op :=
    ⟨compare_of_partition_ne htypes (fun heq => hdiffer (h.mp heq)) op, rfl⟩

end Series

namespace Partition

/-- **What a column is decides, and which way it is sorted.** Take two lists that agree column by
column, wherever each column stands. Whatever partition is made of them, both are refused for the
same fault or both are accepted. The partitions then say the same, and they are equal exactly if the
last columns of each name are sorted the same way. Aggregates over the one and the other line up
exactly in that case, and over windows exactly if their series do. -/
theorem make_eq_iff_directions {columns others : List Series}
    (h : List.Forall₂ Series.SameColumn columns others) (r : Recipe) :
    (∀ fault, r.make columns = .error fault ↔ r.make others = .error fault) ∧
    (r.make columns = r.make others ↔ (∃ fault, r.make columns = .error fault) ∨
      Columns.directions columns = Columns.directions others) ∧
    ∀ p q, r.make columns = .ok p → r.make others = .ok q →
      (p = q ↔ Columns.directions columns = Columns.directions others) ∧
      q.clause = p.clause ∧ (∀ whole, q.selectItems whole = p.selectItems whole) ∧
      ∀ {s t : Series} {f g : Aggregate} {total other : Series}, s.relation = t.relation →
        s.aggregate f (some p) = .ok total → t.aggregate g (some q) = .ok other →
        total.LinesUp other (if p.isWindow then s.partition = t.partition else
          Columns.directions columns = Columns.directions others) := by
  rcases r.make_cases h with
    ⟨fault, hmade, hremade⟩ | ⟨grouped, regrouped, shape, hgroup, hregroup, hmade, hremade⟩
  · rw [hmade, hremade]
    exact ⟨fun _ => Iff.rfl, iff_of_true rfl (.inl ⟨fault, rfl⟩), by rintro p q ⟨⟩⟩
  · have hdirections := Columns.group_eq_iff_directions h hgroup hregroup
    have hunsorted := (Columns.mapValues_unsorted_of_group h hgroup hregroup).symm
    have hpartitions : (⟨grouped, shape⟩ : Partition) = ⟨regrouped, shape⟩ ↔
        Columns.directions columns = Columns.directions others := by
      rw [Partition.mk.injEq, ← hdirections]
      exact and_iff_left rfl
    rw [hmade, hremade]
    refine ⟨fun fault => iff_of_false (by rintro ⟨⟩) (by rintro ⟨⟩), ?_, ?_⟩
    · rw [Except.ok.injEq, hpartitions]
      exact (or_iff_right (by rintro ⟨fault, ⟨⟩⟩)).symm
    · rintro p q ⟨⟩ ⟨⟩
      refine ⟨hpartitions, clause_of_unsorted hunsorted shape,
        Columns.selectItems_of_unsorted hunsorted, ?_⟩
      intro s t f g total other hrelation htotal hother
      obtain ⟨-, hown, hunder⟩ := Series.partition_of_aggregate_over htotal
      obtain ⟨-, hothers, hover⟩ := Series.partition_of_aggregate_over hother
      refine .of_partition (hown.trans (hrelation.trans hothers.symm)) ?_
      -- both partitions have the same shape, so both are windows or none is
      have hwindow : (⟨regrouped, shape⟩ : Partition).isWindow =
          (⟨grouped, shape⟩ : Partition).isWindow := rfl
      rw [hunder, hover, hwindow]
      split
      · rfl
      · rw [Option.some.injEq, hpartitions]

/-- Two series are named `b`, and the first is replaced by the second. So it does not matter which
way the first is sorted, nor where any of the columns stands. -/
theorem make_eq_iff_directions_replaced :
    let b := Sample.series Sample.relation "b"
    let c := Sample.series Sample.relation "c"
    let lowered := { b with expr := ⟨.regular, [.raw "lower(", .column "b", .raw ")"]⟩ }
    let columns := [b, c, lowered]
    let others := [b.placed [] none [] (some true), c.placed [("b", b)] (some .all) [true] none,
      lowered.placed [("c", c)] (some ⟨[("c", c)], .cube⟩) [false, true] none]
    List.Forall₂ Series.SameColumn columns others ∧ others ≠ columns ∧
      (∀ r : Recipe, r.make others = r.make columns) ∧
      ∃ p total other, groupBy columns = .ok p ∧ groupBy others = .ok p ∧
        b.aggregate .sum (some p) = .ok total ∧ c.aggregate .max (some p) = .ok other ∧
        ∃ next, total.compare .less other = .ok next := by
  intro b c lowered columns others
  have hsame : List.Forall₂ Series.SameColumn columns others :=
    .cons ⟨_, _, _, _, rfl⟩ (.cons ⟨_, _, _, _, rfl⟩ (.cons ⟨_, _, _, _, rfl⟩ .nil))
  have hdirections : Columns.directions columns = Columns.directions others := by decide +kernel
  refine ⟨hsame, by decide +kernel, fun r => ?_, ?_⟩
  · exact ((make_eq_iff_directions hsame r).2.1.mpr (.inr hdirections)).symm
  · let p : Partition := ⟨[("b", lowered), ("c", c)], .plain⟩
    have hp : Recipe.plain.make columns = .ok p := by decide +kernel
    have hq : Recipe.plain.make others = .ok p := by decide +kernel
    obtain ⟨total, htotal⟩ : ∃ total, b.aggregate .sum (some p) = .ok total := ⟨_, rfl⟩
    obtain ⟨other, hother⟩ : ∃ other, c.aggregate .max (some p) = .ok other := ⟨_, rfl⟩
    have htypes : total.dtype.comparableWith other.dtype = true := by
      obtain rfl := Except.ok.inj htotal
      obtain rfl := Except.ok.inj hother
      rfl
    have hrelation : b.relation = c.relation := rfl
    have hlines :=
      ((make_eq_iff_directions hsame .plain).2.2 p p hp hq).2.2.2 hrelation htotal hother
    exact ⟨p, total, other, hp, hq, htotal, hother,
      (hlines.compared htypes .less).1.mpr hdirections⟩

/-- A column, and the same column sorted: the partitions by them say the same, and differ. So sums
over the one and the other cannot be compared. -/
theorem sorted_key_differs :
    let a := Sample.series Sample.relation "a"
    let sorted := a.placed [] none [] (some true)
    let p : Partition := ⟨[("a", a)], .plain⟩
    let q : Partition := ⟨[("a", sorted)], .plain⟩
    a.SameColumn sorted ∧ groupBy [a] = .ok p ∧ groupBy [sorted] = .ok q ∧ q ≠ p ∧
      q.clause = p.clause ∧ ∃ total other, a.aggregate .sum (some p) = .ok total ∧
        a.aggregate .sum (some q) = .ok other ∧ other.partition ≠ total.partition ∧
        total.compare .equal other = .error (.series (.foreignOperand "a" "a")) ∧
        (Error.series (.foreignOperand "a" "a")).code = "SERIES_001" := by
  intro a sorted p q
  refine ⟨⟨_, _, _, _, rfl⟩, by decide +kernel, by decide +kernel, by decide +kernel,
    by decide +kernel, _, _, rfl, rfl, ?_, ?_, rfl⟩
  · exact fun heq => absurd (Option.some.inj heq) (by decide +kernel)
  · decide +kernel

end Partition

end QueryFrame
