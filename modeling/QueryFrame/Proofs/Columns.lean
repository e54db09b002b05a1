import QueryFrame.Partition.Basic
import QueryFrame.Proofs.Outcome
import QueryFrame.Window.Basic

/-!
# Where the columns of a partition come from

Every partition takes its columns through `Columns.group`, whatever is made of them afterwards. So
a column of a partition is always one of those that were given, stripped of its surroundings and
stored under its own name (`Columns.mem_of_group`), and each one that was given has passed the check
for grouping. A list of groupings takes the columns of its members through the same gate
(`Partition.mergedColumns_eq_ok`).
-/

namespace QueryFrame

namespace Columns

/-- Inversion for the columns of a partition: nothing is wrong with any column that was given. -/
theorem group_eq_ok {columns : List Series} {grouped : Columns} (h : group columns = .ok grouped) :
    (∀ column ∈ columns, column.groupingFault? = none) ∧
      grouped = Keyed.ofList (columns.map fun column => (column.name, column.asKey)) := by
  rw [group] at h
  split at h
  · cases h
  · next hnone => exact ⟨List.findSome?_eq_none_iff.mp hnone, (Except.ok.inj h).symm⟩

/-- **A column of a partition** is one of those given, as a key under its own name. -/
theorem mem_of_group {columns : List Series} {grouped : Columns} (h : group columns = .ok grouped)
    {entry : String × Series} (he : entry ∈ grouped) :
    ∃ column ∈ columns, column.groupingFault? = none ∧ entry = (column.name, column.asKey) := by
  obtain ⟨hvalid, rfl⟩ := group_eq_ok h
  obtain ⟨column, hcolumn, rfl⟩ := List.mem_map.mp (Keyed.mem_of_mem_ofList he)
  exact ⟨column, hcolumn, hvalid column hcolumn, rfl⟩

end Columns

namespace Partition

/-- What is merged was found before or is a column of a member. -/
theorem mem_of_merge {children : List Partition} {found merged : Columns}
    (h : merge found children = .ok merged) {entry : String × Series} (he : entry ∈ merged) :
    entry ∈ found ∨ ∃ child ∈ children, entry ∈ child.columns := by
  induction children generalizing found with
  | nil =>
    rw [merge, Except.ok.injEq] at h
    rw [h]
    exact .inl he
  | cons child rest ih =>
    rw [merge] at h
    split at h
    · cases h
    · rcases ih h with h | ⟨other, hother, hentry⟩
      · rcases Keyed.mem_of_mem_union h with h | h
        · exact .inl h
        · exact .inr ⟨child, List.mem_cons_self .., h⟩
      · exact .inr ⟨other, List.mem_cons_of_mem _ hother, hentry⟩

/-- The columns of a list of groupings, before they are grouped on, are columns of its members. -/
theorem mergedColumns_eq_ok {children : List Partition} {columns : Columns}
    (h : mergedColumns children = .ok columns) :
    ∃ merged : List Series, Columns.group merged = .ok columns ∧
      ∀ column ∈ merged, ∃ child ∈ children, ∃ key, (key, column) ∈ child.columns := by
  rw [mergedColumns] at h
  obtain ⟨merged, hmerge, hgroup⟩ := Outcome.bind_eq_ok h
  refine ⟨Keyed.values merged, hgroup, fun column hcolumn => ?_⟩
  obtain ⟨key, hentry⟩ := Keyed.mem_values.mp hcolumn
  rcases mem_of_merge hmerge hentry with hfound | ⟨child, hchild, hcolumns⟩
  · cases hfound
  · exact ⟨child, hchild, key, hcolumns⟩

/-- The expressions to group by are those of the columns. -/
theorem mem_groupExprs {p : Partition} {e : Expr} :
    e ∈ p.groupExprs ↔ ∃ entry ∈ p.columns, e ∈ entry.2.groupExprs := by
  simp only [groupExprs, Columns.groupExprs, List.mem_flatMap, Keyed.mem_values, Prod.exists]
  constructor
  · rintro ⟨column, ⟨key, hentry⟩, he⟩
    exact ⟨key, column, hentry, he⟩
  · rintro ⟨key, column, hentry, he⟩
    exact ⟨column, ⟨key, hentry⟩, he⟩

/-! ## Inversions for the constructors -/

theorem groupBy_eq_ok {columns : List Series} {p : Partition} (h : groupBy columns = .ok p) :
    Columns.group columns = .ok p.columns ∧ p.shape = .plain := by
  obtain ⟨grouped, hgroup, h⟩ := Outcome.bind_eq_ok h
  rw [← Outcome.pure_eq_ok h]
  exact ⟨hgroup, rfl⟩

/-- Inversion for a partition that needs a column. -/
theorem nonempty_eq_ok {columns : List Series} {fault : GroupingFault} {shape : Shape}
    {p : Partition}
    (h : (Columns.group columns >>= fun columns =>
      if columns.isEmpty then .error (.grouping fault) else pure ⟨columns, shape⟩) = .ok p) :
    Columns.group columns = .ok p.columns ∧ p.shape = shape ∧ p.columns ≠ [] := by
  obtain ⟨grouped, hgroup, h⟩ := Outcome.bind_eq_ok h
  split at h
  · cases h
  · next hne =>
    rw [← Outcome.pure_eq_ok h]
    exact ⟨hgroup, rfl, fun hnil => hne (List.isEmpty_iff.mpr hnil)⟩

theorem cube_eq_ok {columns : List Series} {p : Partition} (h : cube columns = .ok p) :
    Columns.group columns = .ok p.columns ∧ p.shape = .cube ∧ p.columns ≠ [] :=
  nonempty_eq_ok h

theorem rollup_eq_ok {columns : List Series} {p : Partition} (h : rollup columns = .ok p) :
    Columns.group columns = .ok p.columns ∧ p.shape = .rollup ∧ p.columns ≠ [] :=
  nonempty_eq_ok h

theorem groupingList_eq_ok {children : List Partition} {p : Partition}
    (h : groupingList children = .ok p) :
    mergedColumns children = .ok p.columns ∧ p.shape = .lists children := by
  obtain ⟨columns, hmerged, h⟩ := Outcome.bind_eq_ok h
  rw [← Outcome.pure_eq_ok h]
  exact ⟨hmerged, rfl⟩

theorem groupingSet_eq_ok {children : List Partition} {p : Partition}
    (h : groupingSet children = .ok p) :
    mergedColumns children = .ok p.columns ∧ p.shape = .sets children := by
  obtain ⟨columns, hmerged, h⟩ := Outcome.bind_eq_ok h
  rw [← Outcome.pure_eq_ok h]
  exact ⟨hmerged, rfl⟩

end Partition

/-- Inversion for a window: its columns are grouped on, and its frame means something. -/
theorem Window.make_eq_ok {columns : List Series} {order : List SortKey} {frame : Frame}
    {minValues : Option UInt32} {w : Window} (h : make columns order frame minValues = .ok w) :
    Columns.group columns = .ok w.columns ∧ w.spec.order = order ∧
      frame.check = .ok (w.spec.mode, w.spec.clause) := by
  obtain ⟨grouped, hgroup, h⟩ := Outcome.bind_eq_ok h
  obtain ⟨⟨mode, clause⟩, hcheck, h⟩ := Outcome.bind_eq_ok h
  rw [← Outcome.pure_eq_ok h]
  exact ⟨hgroup, rfl, hcheck⟩

end QueryFrame
