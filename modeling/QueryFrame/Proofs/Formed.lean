import QueryFrame.Proofs.Columns

/-!
# Partitions as they are formed

The columns of a partition are *settled*: grouped on again they are what they are, entry by entry
(`Columns.settled_of_group`). A partition is *formed* when its columns are settled, when a list of
groupings has the columns that its members merge to, and when the same is true of every member.
Merging settled columns comes down to adding them, entry by entry (`Partition.mergedColumns_eq`).
Whatever can be built out of series, by constructors nested to any depth, is formed
(`Partition.Built.formed`).

`Partition.Built` keeps track of which series go in. What holds of them, and of keys made of them,
holds of every column (`Partition.Built.forall_columns`).
-/

namespace QueryFrame

/-! ## Settled columns -/

namespace Columns

/-- Columns that stay as they are when they are grouped on again. -/
def Settled (columns : Columns) : Prop :=
  group (Keyed.values columns) = .ok columns

/-- Columns without faults can be grouped on. -/
theorem group_of_valid {columns : List Series}
    (h : ∀ column ∈ columns, column.groupingFault? = none) :
    group columns = .ok (Keyed.ofList (columns.map fun column => (column.name, column.asKey))) := by
  rw [group, List.findSome?_eq_none_iff.mpr h]

/-- An entry as a partition has it. -/
structure IsOwn (entry : String × Series) : Prop where
  /-- it is stored under its name -/
  name : entry.1 = entry.2.name
  /-- it is a key -/
  key : entry.2.asKey = entry.2
  /-- rows can be grouped on it -/
  valid : entry.2.groupingFault? = none

/-- **Which columns are settled**: keys without faults, each stored under its name, no name
twice. -/
theorem settled_iff {columns : Columns} :
    Settled columns ↔ (∀ entry ∈ columns, IsOwn entry) ∧ (Keyed.keys columns).Nodup := by
  constructor
  · intro h
    refine ⟨fun entry hentry => ?_, ?_⟩
    · obtain ⟨own, -, hfault, rfl⟩ := mem_of_group h hentry
      exact ⟨rfl, rfl, hfault⟩
    · rw [(group_eq_ok h).2]
      exact Keyed.nodup_keys_ofList _
  · rintro ⟨hown, hnodup⟩
    have hvalid : ∀ column ∈ Keyed.values columns, column.groupingFault? = none := by
      intro column hcolumn
      obtain ⟨key, hentry⟩ := Keyed.mem_values.mp hcolumn
      exact (hown _ hentry).valid
    have hkeys : (Keyed.values columns).map (fun column => (column.name, column.asKey)) =
        columns := by
      rw [Keyed.values, List.map_map]
      refine (List.map_congr_left fun entry hentry => ?_).trans (List.map_id columns)
      exact Prod.ext (hown entry hentry).name.symm (hown entry hentry).key
    rw [Settled, group_of_valid hvalid, hkeys, Keyed.ofList_of_nodup hnodup]

/-- **What was grouped on is settled.** -/
theorem settled_of_group {columns : List Series} {grouped : Columns}
    (h : group columns = .ok grouped) : Settled grouped := by
  refine settled_iff.mpr ⟨fun entry hentry => ?_, ?_⟩
  · obtain ⟨own, -, hfault, rfl⟩ := mem_of_group h hentry
    exact ⟨rfl, rfl, hfault⟩
  · rw [(group_eq_ok h).2]
    exact Keyed.nodup_keys_ofList _

end Columns

namespace Partition

/-! ## Merging -/

section

variable {children : List Partition}

theorem kind_of_isWindow {p : Partition} (h : p.isWindow = true) : p.kind = "window" := by
  obtain ⟨columns, shape⟩ := p
  cases shape with
  | window spec => rfl
  | _ => cases h

/-- Members that group rows have their columns added one after another. -/
theorem merge_eq (hgroups : ∀ child ∈ children, child.isWindow = false) (found : Columns) :
    merge found children = .ok (Keyed.union found (children.flatMap columns)) := by
  induction children generalizing found with
  | nil => rfl
  | cons child rest ih =>
    obtain ⟨hchild, hrest⟩ := List.forall_mem_cons.mp hgroups
    rw [merge, hchild, if_neg Bool.false_ne_true, ih hrest, List.flatMap_cons, Keyed.union_append]
    rfl

/-- A window is refused, whatever stands before it. -/
theorem merge_of_window (hwindow : ∃ child ∈ children, child.isWindow = true) (found : Columns) :
    merge found children = .error (.grouping (.notGrouping "window")) := by
  induction children generalizing found with
  | nil =>
    obtain ⟨child, hchild, -⟩ := hwindow
    cases hchild
  | cons child rest ih =>
    rw [merge]
    split
    · next hchild => rw [kind_of_isWindow hchild]
    · next hgroups =>
      obtain ⟨other, hother, h⟩ := hwindow
      rcases List.mem_cons.mp hother with rfl | hother
      · exact absurd h hgroups
      · exact ih ⟨other, hother, h⟩ _

theorem mergedColumns_of_window (hwindow : ∃ child ∈ children, child.isWindow = true) :
    mergedColumns children = .error (.grouping (.notGrouping "window")) := by
  rw [mergedColumns, merge_of_window hwindow, Outcome.error_bind]

theorem isWindow_of_mergedColumns {merged : Columns} (h : mergedColumns children = .ok merged) :
    ∀ child ∈ children, child.isWindow = false := by
  intro child hchild
  refine Bool.eq_false_iff.mpr fun hwindow => ?_
  rw [mergedColumns_of_window ⟨child, hchild, hwindow⟩] at h
  cases h

variable (hsettled : ∀ child ∈ children, Columns.Settled child.columns)

include hsettled

/-- Settled columns stay settled when they are added up. -/
theorem settled_union : Columns.Settled (Keyed.union [] (children.flatMap columns)) := by
  have hnodup : (Keyed.keys ([] : Columns)).Nodup := List.nodup_nil
  refine Columns.settled_iff.mpr ⟨fun entry hentry => ?_, Keyed.nodup_keys_union hnodup _⟩
  rcases Keyed.mem_of_mem_union hentry with hnone | hcolumn
  · cases hnone
  · obtain ⟨child, hchild, hcolumn⟩ := List.mem_flatMap.mp hcolumn
    exact (Columns.settled_iff.mp (hsettled child hchild)).1 entry hcolumn

/-- **Merging settled columns succeeds** if all members group rows, and the check that follows
changes nothing. -/
theorem mergedColumns_eq (hgroups : ∀ child ∈ children, child.isWindow = false) :
    mergedColumns children = .ok (Keyed.union [] (children.flatMap columns)) := by
  rw [mergedColumns, merge_eq hgroups, Outcome.ok_bind]
  exact settled_union hsettled

/-- Inversion for merging settled columns. -/
theorem mergedColumns_eq_union {merged : Columns} (h : mergedColumns children = .ok merged) :
    merged = Keyed.union [] (children.flatMap columns) :=
  Except.ok.inj (h.symm.trans (mergedColumns_eq hsettled (isWindow_of_mergedColumns h)))

end

/-! ## Formed partitions -/

/-- The columns of a list of groupings are settled. -/
theorem settled_of_mergedColumns {children : List Partition} {columns : Columns}
    (h : mergedColumns children = .ok columns) : Columns.Settled columns := by
  obtain ⟨merged, hgroup, -⟩ := mergedColumns_eq_ok h
  exact Columns.settled_of_group hgroup

/-- A partition that has the columns it is formed with, and so have its members. -/
inductive Formed : Partition → Prop
  | plain {columns : Columns} (h : Columns.Settled columns) : Formed ⟨columns, .plain⟩
  | cube {columns : Columns} (h : Columns.Settled columns) (hne : columns ≠ []) :
      Formed ⟨columns, .cube⟩
  | rollup {columns : Columns} (h : Columns.Settled columns) (hne : columns ≠ []) :
      Formed ⟨columns, .rollup⟩
  | lists {children : List Partition} {columns : Columns}
      (hchildren : ∀ child ∈ children, Formed child) (h : mergedColumns children = .ok columns) :
      Formed ⟨columns, .lists children⟩
  | sets {children : List Partition} {columns : Columns}
      (hchildren : ∀ child ∈ children, Formed child) (h : mergedColumns children = .ok columns) :
      Formed ⟨columns, .sets children⟩
  | window {columns : Columns} {spec : WindowSpec} (h : Columns.Settled columns) :
      Formed ⟨columns, .window spec⟩

/-- Whatever its shape, the columns of a formed partition are settled. -/
theorem Formed.settled {p : Partition} (h : p.Formed) : Columns.Settled p.columns := by
  cases h with
  | plain h => exact h
  | cube h => exact h
  | rollup h => exact h
  | lists _ h => exact settled_of_mergedColumns h
  | sets _ h => exact settled_of_mergedColumns h
  | window h => exact h

/-- A partition that can be built out of series for which `C` holds. -/
inductive Built (C : Series → Prop) : Partition → Prop
  | all : Built C .all
  | groupBy {columns : List Series} {p : Partition} (hcolumns : ∀ column ∈ columns, C column)
      (h : Partition.groupBy columns = .ok p) : Built C p
  | cube {columns : List Series} {p : Partition} (hcolumns : ∀ column ∈ columns, C column)
      (h : Partition.cube columns = .ok p) : Built C p
  | rollup {columns : List Series} {p : Partition} (hcolumns : ∀ column ∈ columns, C column)
      (h : Partition.rollup columns = .ok p) : Built C p
  | groupingList {children : List Partition} {p : Partition}
      (hchildren : ∀ child ∈ children, Built C child)
      (h : Partition.groupingList children = .ok p) : Built C p
  | groupingSet {children : List Partition} {p : Partition}
      (hchildren : ∀ child ∈ children, Built C child)
      (h : Partition.groupingSet children = .ok p) : Built C p
  | window {columns : List Series} {order : List SortKey} {frame : Frame}
      {minValues : Option UInt32} {w : Window} (hcolumns : ∀ column ∈ columns, C column)
      (h : Window.make columns order frame minValues = .ok w) : Built C w.partition
  | withFrame {w next : Window} {frame : Frame} (hw : Built C w.partition)
      (h : w.withFrame frame = .ok next) : Built C next.partition
  | withMinValues {w : Window} {minValues : UInt32} (hw : Built C w.partition) :
      Built C (w.withMinValues minValues).partition
  | unframed {w : Window} (hw : Built C w.partition) : Built C w.unframed.partition

variable {C : Series → Prop}

/-- **Whatever can be built is formed.** -/
theorem Built.formed {p : Partition} (h : p.Built C) : p.Formed := by
  induction h with
  | all => exact .plain rfl
  | @groupBy _ p _ h =>
    obtain ⟨hgroup, hshape⟩ := groupBy_eq_ok h
    obtain ⟨columns, shape⟩ := p
    obtain rfl : shape = .plain := hshape
    exact .plain (Columns.settled_of_group hgroup)
  | @cube _ p _ h =>
    obtain ⟨hgroup, hshape, hne⟩ := cube_eq_ok h
    obtain ⟨columns, shape⟩ := p
    obtain rfl : shape = .cube := hshape
    exact .cube (Columns.settled_of_group hgroup) hne
  | @rollup _ p _ h =>
    obtain ⟨hgroup, hshape, hne⟩ := rollup_eq_ok h
    obtain ⟨columns, shape⟩ := p
    obtain rfl : shape = .rollup := hshape
    exact .rollup (Columns.settled_of_group hgroup) hne
  | @groupingList children p _ h ih =>
    obtain ⟨hmerged, hshape⟩ := groupingList_eq_ok h
    obtain ⟨columns, shape⟩ := p
    obtain rfl : shape = .lists children := hshape
    exact .lists ih hmerged
  | @groupingSet children p _ h ih =>
    obtain ⟨hmerged, hshape⟩ := groupingSet_eq_ok h
    obtain ⟨columns, shape⟩ := p
    obtain rfl : shape = .sets children := hshape
    exact .sets ih hmerged
  | window _ h => exact .window (Columns.settled_of_group (Window.make_eq_ok h).1)
  | withFrame _ h => exact .window (Columns.settled_of_group (Window.make_eq_ok h).1)
  | withMinValues _ ih => exact .window ih.settled
  | unframed _ ih => exact .window ih.settled

/-- **What holds of the series that a partition is built of holds of its columns**, unless it is
lost when a series becomes a key. -/
theorem Built.forall_columns {p : Partition} (h : p.Built C) (hkey : ∀ s, C s → C s.asKey) :
    ∀ entry ∈ p.columns, C entry.2 := by
  have hgrouped : ∀ {columns : List Series} {grouped : Columns}, (∀ column ∈ columns, C column) →
      Columns.group columns = .ok grouped → ∀ entry ∈ grouped, C entry.2 := by
    intro columns grouped hcolumns hgroup entry hentry
    obtain ⟨own, hown, -, rfl⟩ := Columns.mem_of_group hgroup hentry
    exact hkey own (hcolumns own hown)
  have hmerged : ∀ {children : List Partition} {columns : Columns},
      (∀ child ∈ children, ∀ entry ∈ child.columns, C entry.2) →
      mergedColumns children = .ok columns → ∀ entry ∈ columns, C entry.2 := by
    intro children columns hchildren hmerged
    obtain ⟨merged, hgroup, hmem⟩ := mergedColumns_eq_ok hmerged
    refine hgrouped (fun column hcolumn => ?_) hgroup
    obtain ⟨child, hchild, key, hentry⟩ := hmem column hcolumn
    exact hchildren child hchild _ hentry
  induction h with
  | all => exact List.forall_mem_nil _
  | groupBy hcolumns h => exact hgrouped hcolumns (groupBy_eq_ok h).1
  | cube hcolumns h => exact hgrouped hcolumns (cube_eq_ok h).1
  | rollup hcolumns h => exact hgrouped hcolumns (rollup_eq_ok h).1
  | groupingList _ h ih => exact hmerged ih (groupingList_eq_ok h).1
  | groupingSet _ h ih => exact hmerged ih (groupingSet_eq_ok h).1
  | window hcolumns h => exact hgrouped hcolumns (Window.make_eq_ok h).1
  | withFrame _ h ih =>
    refine hgrouped (fun column hcolumn => ?_) (Window.make_eq_ok h).1
    obtain ⟨key, hentry⟩ := Keyed.mem_values.mp hcolumn
    exact ih _ hentry
  | withMinValues _ ih => exact ih
  | unframed _ ih => exact ih

end Partition

end QueryFrame
