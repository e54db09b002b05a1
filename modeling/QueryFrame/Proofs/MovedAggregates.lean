import QueryFrame.Proofs.Parts
import QueryFrame.Proofs.Rebinding

/-!
# Aggregates over another relation

A series can be moved to another relation before it is aggregated, over the partition moved
likewise, or afterwards. Whatever is checked and computed is the same either way: the checks look at
names, types and expressions, none of which a move changes, and the relations of series and
partition are moved together (`Series.checkAggregate_rebind`, `Series.checkRelation_moved`,
`Window.apply_moved`).

The two ways part in a single place. A move takes a series along with its levels and its index, and
leaves it under the partition that it was computed under. So an aggregate that is moved afterwards
is still grouped by the partition over the old relation, whereas its index is over the new one
(`Series.aggregate_rebind_of_built`). Over a window the partition is no part of the result, and the
two ways agree in everything.
-/

namespace QueryFrame

namespace Series

variable (relation : Relation) (s : Series)

/-- Whether a series can be aggregated does not depend on its relation. -/
theorem checkAggregate_rebind (f : Aggregate) :
    (s.rebind relation).checkAggregate f = s.checkAggregate f := by
  rw [rebind_eq]
  rfl

/-- A series and columns that are moved together go together. -/
theorem checkRelation_moved (columns : Columns) :
    (s.rebind relation).checkRelation (Columns.moved relation columns) = .ok () := by
  rw [rebind_eq]
  cases columns with
  | nil => rfl
  | cons entry rest =>
    have hfirst : (entry.2.rebind relation).relation = relation := by rw [rebind_eq]
    exact if_pos hfirst

/-- It does not matter whether a series is moved before something is computed from it. -/
theorem computed_rebind (expr : Expr) (dtype : DataType) :
    (s.rebind relation).computed expr dtype = (s.computed expr dtype).rebind relation := by
  rw [rebind_eq, rebind_eq]
  rfl

/-- A new index and partition, put in before a move or after it. The index is moved, the partition
is not. -/
theorem rebind_grouped (index : Columns) (partition : Option Partition) :
    ({ s with index := index, partition := partition } : Series).rebind relation =
      { s.rebind relation with
        index := Columns.moved relation index
        partition := partition } := by
  rw [rebind_eq, rebind_eq, rebindAll_eq_map relation index]
  rfl

end Series

/-- A call over a window does not depend on the relation of its columns. -/
theorem Window.apply_moved (relation : Relation) (w : Window) (call : Expr) :
    ({ w with columns := Columns.moved relation w.columns } : Window).apply call =
      w.apply call := by
  rw [apply, apply, over_moved]

/-- A partition is a window wherever it is moved to, of the same order and frame. -/
theorem Partition.window?_moved (relation : Relation) (p : Partition) :
    (p.moved relation).window? =
      p.window?.map fun w => { w with columns := Columns.moved relation w.columns } := by
  obtain ⟨columns, shape⟩ := p
  cases shape <;> rfl

namespace Series

/-- A series stays what it is when it is put under the partition that it has. -/
theorem withPartition_eq_self_iff (s : Series) (partition : Option Partition) :
    { s with partition := partition } = s ↔ partition = s.partition := by
  cases s
  simp

/-- What an aggregate is grouped by: nothing new over a window, and else the partition. -/
theorem partition_of_aggregate {s total : Series} {f : Aggregate} {p : Partition}
    (h : s.aggregate f (some p) = .ok total) :
    total.partition = if p.window?.isSome then s.partition else some p := by
  obtain ⟨-, call, -, ⟨w, expr, hw, -, rfl⟩ | ⟨hnone, rfl⟩⟩ := aggregate_some_eq_ok h
  · rw [hw]
    rfl
  · rw [hnone]
    rfl

/-- **Aggregating commutes with moving**, up to the partition of the result. -/
theorem aggregate_moved {s total : Series} {f : Aggregate} {p : Partition}
    (h : s.aggregate f (some p) = .ok total) (relation : Relation) :
    (s.rebind relation).aggregate f (some (p.moved relation)) =
      .ok { total.rebind relation with
        partition := if p.window?.isSome then s.partition else some (p.moved relation) } := by
  obtain ⟨hcheck, call, hcall, htotal⟩ := aggregate_some_eq_ok h
  have hdtype : (s.rebind relation).dtype = s.dtype := by rw [rebind_eq]
  rw [aggregate, checkAggregate_rebind, hcheck, Outcome.ok_bind]
  dsimp only [Option.getD_some]
  rw [Partition.columns_moved, checkRelation_moved, Outcome.ok_bind, expr_rebind, hcall,
    Outcome.ok_bind, Partition.window?_moved, hdtype]
  rcases htotal with ⟨w, expr, hw, hexpr, rfl⟩ | ⟨hnone, rfl⟩
  · -- rows stay: index and partition are those of the series
    simp only [hw, Option.map_some, Window.apply_moved, hexpr, Outcome.ok_bind, computed_rebind]
    rw [rebind_eq]
    rfl
  · -- rows collapse: index and partition are those of the groups
    simp only [hnone, Option.map_none, rebind_grouped, computed_rebind]
    rfl

/-- **An aggregate over another relation.** Whenever a series can be aggregated over a partition
that can be built, the moved series can be aggregated over the moved partition, and the result is
the aggregate as it is moved afterwards, except that it is grouped by the moved partition. So the
two are the same in every part over a window, and over anything else exactly if the partition is
where it is moved to already. -/
theorem aggregate_rebind_of_built {C : Series → Prop} {p : Partition} (hp : p.Built C)
    {s total : Series} {f : Aggregate} (h : s.aggregate f (some p) = .ok total)
    (relation : Relation) :
    ∃ moved result, p.rebind relation = .ok moved ∧
      (s.rebind relation).aggregate f (some moved) = .ok result ∧
      result = { total.rebind relation with partition := result.partition } ∧
      (p.isWindow = true → result = total.rebind relation) ∧
      (p.isWindow = false →
        result.partition = some moved ∧ (total.rebind relation).partition = some p) ∧
      (result = total.rebind relation ↔ p.isWindow = true ∨ moved = p) := by
  have hkept := (partition_rebind relation total).trans (partition_of_aggregate h)
  have hmoved := aggregate_moved h relation
  rw [← Partition.isWindow_eq] at hkept hmoved
  refine ⟨p.moved relation, _, hp.formed.rebind_eq relation, hmoved, rfl, ?_⟩
  rw [withPartition_eq_self_iff, hkept]
  cases p.isWindow with
  | true => simp
  | false => simp

/-- A sum over a window that divides the rows by `b`, moved to another relation. -/
theorem aggregate_rebind_of_built_window :
    let a := Sample.series Sample.relation "a"
    let other := Relation.ofName "other"
    Sample.window.partition.Built (fun s => s.relation = Sample.relation) ∧
      ∃ total moved, a.aggregate .sum (some Sample.window.partition) = .ok total ∧
        Sample.window.partition.rebind other = .ok moved ∧ moved ≠ Sample.window.partition ∧
        (a.rebind other).aggregate .sum (some moved) = .ok (total.rebind other) := by
  intro a other
  have hmake : Window.make [Sample.series Sample.relation "b"] Sample.window.spec.order
      Sample.window.spec.frame (some 2) = .ok Sample.window := by decide +kernel
  have hbuilt : Sample.window.partition.Built fun s => s.relation = Sample.relation :=
    .window (List.forall_mem_singleton.mpr rfl) hmake
  obtain ⟨total, htotal⟩ : ∃ total, a.aggregate .sum (some Sample.window.partition) = .ok total :=
    exists_aggregate (by decide) (by decide +kernel)
  obtain ⟨moved, result, hmoved, hresult, -, hsame, -, -⟩ :=
    aggregate_rebind_of_built hbuilt htotal other
  refine ⟨hbuilt, total, moved, htotal, hmoved, ?_, ?_⟩
  · rintro rfl
    exact absurd hmoved (by decide +kernel)
  · rw [hresult, hsame rfl]

/-- A sum of `a` grouped by `b`. Moved afterwards, it is still grouped by `b` of the old relation,
whereas the moved series over the moved partition is grouped by `b` of the new one. -/
theorem aggregate_rebind_keeps_partition :
    let a := Sample.series Sample.relation "a"
    let b := Sample.series Sample.relation "b"
    let p : Partition := ⟨[("b", b)], .plain⟩
    let other := Relation.ofName "other"
    let moved : Partition := ⟨[("b", b.rebind other)], .plain⟩
    Partition.groupBy [b] = .ok p ∧ p.rebind other = .ok moved ∧
      ∃ total result, a.aggregate .sum (some p) = .ok total ∧
        (a.rebind other).aggregate .sum (some moved) = .ok result ∧
        result ≠ total.rebind other ∧ result.index = (total.rebind other).index ∧
        result.partition = some moved ∧ (total.rebind other).partition = some p := by
  intro a b p other moved
  let sum : Expr := ⟨.aggregate, [.raw "sum(", (Expr.column "a").token, .raw ")"]⟩
  refine ⟨by decide +kernel, by decide +kernel,
    { a with expr := sum, index := p.columns, partition := some p },
    { a.rebind other with expr := sum, index := moved.columns, partition := some moved },
    by decide +kernel, by decide +kernel, by decide +kernel, by decide +kernel, rfl,
    by decide +kernel⟩

end Series

end QueryFrame
