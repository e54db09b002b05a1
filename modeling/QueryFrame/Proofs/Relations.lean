import QueryFrame.Proofs.Formed
import QueryFrame.Proofs.Parts
import QueryFrame.Sample

/-!
# Series and partitions of different relations

An operation on a series over a partition compares the relation of the series with that of the first
column, and with no other. That is enough when all columns are over one relation
(`Partition.OneRelation`), as they are when the partition is built of series of one relation. Then
the operation is refused exactly when a column is foreign to the series.

For any other partition it is not enough: a series over the relation of the first column is
accepted, although some column is foreign to it. So the condition is exact
(`Partition.oneRelation_iff_refuses`).
-/

namespace QueryFrame

/-- A series is compared with the first column of a partition, if there is one. -/
theorem Series.checkRelation_iff {s : Series} {columns : Columns} :
    s.checkRelation columns = .ok () ↔
      ∀ entry ∈ columns.head?, entry.2.relation = s.relation := by
  cases columns with
  | nil => exact iff_of_true rfl fun _ h => nomatch h
  | cons first rest =>
    refine ⟨fun h entry hentry => ?_, fun h => if_pos (h first rfl)⟩
    obtain rfl := Option.some.inj hentry
    by_contra hne
    have herror : s.checkRelation (first :: rest) = .error (.series (.foreignPartition s.name)) :=
      if_neg hne
    rw [herror] at h
    cases h

namespace Partition

/-- Whether some column is over another relation than the series. -/
def Foreign (p : Partition) (s : Series) : Prop :=
  ∃ entry ∈ p.columns, entry.2.relation ≠ s.relation

/-- Whether all columns are over one relation. -/
def OneRelation (p : Partition) : Prop :=
  ∃ relation, ∀ entry ∈ p.columns, entry.2.relation = relation

/-- Columns of one relation go with a series or against it together, so the first one tells. -/
theorem OneRelation.checkRelation {p : Partition} (h : p.OneRelation) {s : Series}
    (hforeign : p.Foreign s) :
    s.checkRelation p.columns = .error (.series (.foreignPartition s.name)) := by
  obtain ⟨relation, hall⟩ := h
  obtain ⟨entry, hentry, hne⟩ := hforeign
  cases hcolumns : p.columns with
  | nil =>
    rw [hcolumns] at hentry
    cases hentry
  | cons first rest =>
    rw [hcolumns] at hall hentry
    have hfirst : first.2.relation ≠ s.relation := by
      rw [hall first (List.mem_cons_self ..), ← hall entry hentry]
      exact hne
    exact if_neg hfirst

/-- A series is accepted if no column is foreign to it. -/
theorem checkRelation_of_not_foreign {p : Partition} {s : Series} (h : ¬ p.Foreign s) :
    s.checkRelation p.columns = .ok () := by
  refine Series.checkRelation_iff.mpr fun entry hentry => ?_
  by_contra hne
  exact h ⟨entry, List.mem_of_mem_head? hentry, hne⟩

/-- **A partition of several relations takes a series that a column is foreign to.** -/
theorem exists_foreign_of_not_oneRelation {p : Partition} (h : ¬ p.OneRelation) :
    ∃ s : Series, p.Foreign s ∧ s.checkAggregate .count = .ok () ∧
      s.checkRelation p.columns = .ok () := by
  cases hcolumns : p.columns with
  | nil =>
    refine absurd ⟨Sample.relation, ?_⟩ h
    simp [hcolumns]
  | cons first rest =>
    refine ⟨Sample.series first.2.relation "a", ?_, rfl, if_pos rfl⟩
    by_contra hnone
    refine h ⟨first.2.relation, fun entry hentry => ?_⟩
    by_contra hne
    exact hnone ⟨entry, hentry, hne⟩

/-- Columns stay with the relation of the series that they are made of. -/
theorem Built.oneRelation {p : Partition} {relation : Relation}
    (h : p.Built fun s => s.relation = relation) : p.OneRelation :=
  ⟨relation, h.forall_columns fun _ => id⟩

end Partition

namespace Series

/-- What cannot be aggregated is refused as such, whatever the partition. -/
theorem aggregate_of_checkAggregate_error {s : Series} {f : Aggregate} {fault : Error}
    (h : s.checkAggregate f = .error fault) (partition : Option Partition) :
    s.aggregate f partition = .error fault := by
  rw [aggregate, h, Outcome.error_bind]

theorem aggregate_of_checkRelation_error {s : Series} {f : Aggregate} {p : Partition}
    {fault : Error} (hcheck : s.checkAggregate f = .ok ())
    (h : s.checkRelation p.columns = .error fault) : s.aggregate f (some p) = .error fault := by
  rw [aggregate, hcheck, Outcome.ok_bind]
  dsimp only [Option.getD_some]
  rw [h, Outcome.error_bind]

theorem windowFunction_of_checkRelation_error {s : Series} {w : Window} {fault : Error}
    (h : s.checkRelation w.columns = .error fault) (f : WindowFunction) (args : List Expr)
    (dtype : DataType) (d : Dialect) : s.windowFunction w f args dtype d = .error fault := by
  rw [windowFunction, h, Outcome.error_bind]

end Series

namespace Partition

/-- **Which partitions keep foreign series out.** An aggregate that gets past the checks of the
series is refused whenever a column is foreign to the series, if and only if the partition is over
one relation. The same is true of window functions, and every partition built of series of one
relation is of this kind. Nothing else is refused. -/
theorem oneRelation_iff_refuses (p : Partition) :
    (p.OneRelation ↔ ∀ (s : Series) (f : Aggregate), s.checkAggregate f = .ok () → p.Foreign s →
      s.aggregate f (some p) = .error (.series (.foreignPartition s.name))) ∧
    (∀ w, p.window? = some w → (p.OneRelation ↔ ∀ (s : Series) f args dtype d, p.Foreign s →
      s.windowFunction w f args dtype d = .error (.series (.foreignPartition s.name)))) ∧
    (∀ relation, p.Built (fun s => s.relation = relation) → p.OneRelation) ∧
    (∀ (s : Series) (f : Aggregate) fault, s.checkAggregate f = .error fault →
      s.aggregate f (some p) = .error fault) ∧
    ∀ s : Series, ¬ p.Foreign s →
      (∀ f, s.checkAggregate f = .ok () → ∃ next, s.aggregate f (some p) = .ok next) ∧
      ∀ w f args dtype d family, p.window? = some w → d.family = .ok family →
        ∃ next, s.windowFunction w f args dtype d = .ok next := by
  have hcolumns : ∀ {w}, p.window? = some w → p.columns = w.columns := fun hw => by
    rw [eq_of_window? hw]
    rfl
  refine ⟨⟨fun h s f hcheck hforeign => ?_, fun h => ?_⟩, fun w hw => ⟨?_, fun h => ?_⟩,
    fun relation => Built.oneRelation, ?_, fun s hnone => ⟨fun f hcheck => ?_, ?_⟩⟩
  · exact Series.aggregate_of_checkRelation_error hcheck (h.checkRelation hforeign)
  · by_contra hseveral
    obtain ⟨s, hforeign, hcheck, hrelation⟩ := exists_foreign_of_not_oneRelation hseveral
    obtain ⟨next, hnext⟩ : ∃ next, s.aggregate .count (some p) = .ok next :=
      Series.exists_aggregate hcheck hrelation
    rw [h s .count hcheck hforeign] at hnext
    cases hnext
  · intro h s f args dtype d hforeign
    refine Series.windowFunction_of_checkRelation_error ?_ f args dtype d
    rw [← hcolumns hw]
    exact h.checkRelation hforeign
  · by_contra hseveral
    obtain ⟨s, hforeign, -, hrelation⟩ := exists_foreign_of_not_oneRelation hseveral
    rw [hcolumns hw] at hrelation
    obtain ⟨next, hnext⟩ := Series.exists_windowFunction (d := .postgres) rfl hrelation .rank []
      .int64
    rw [h s .rank [] .int64 .postgres hforeign] at hnext
    cases hnext
  · exact fun s f fault hfault => Series.aggregate_of_checkAggregate_error hfault _
  · exact Series.exists_aggregate hcheck (checkRelation_of_not_foreign hnone)
  · intro w f args dtype d family hw hd
    have hrelation := checkRelation_of_not_foreign hnone
    rw [hcolumns hw] at hrelation
    exact Series.exists_windowFunction hd hrelation f args dtype

/-- A sum over columns of two relations: it is made if the column of the other relation comes
second, and refused if it comes first. -/
theorem sum_over_foreign_column :
    let a := Sample.series Sample.relation "a"
    let b := Sample.series (.ofName "other") "b"
    let p : Partition := ⟨[("a", a), ("b", b)], .plain⟩
    let q : Partition := ⟨[("b", b), ("a", a)], .plain⟩
    groupBy [a, b] = .ok p ∧ groupBy [b, a] = .ok q ∧ p.Foreign a ∧ q.Foreign a ∧
      (∃ next, a.aggregate .sum (some p) = .ok next) ∧
      a.aggregate .sum (some q) = .error (.series (.foreignPartition "a")) := by
  intro a b p q
  have hcheck : a.checkAggregate .sum = .ok () := by decide
  have hne : b.relation ≠ a.relation := by decide
  have hrelation : a.checkRelation p.columns = .ok () := by decide +kernel
  refine ⟨by decide +kernel, by decide +kernel, ?_, ?_, ?_, by decide +kernel⟩
  · exact ⟨("b", b), by simp [p], hne⟩
  · exact ⟨("b", b), by simp [q], hne⟩
  · exact Series.exists_aggregate hcheck hrelation

end Partition

end QueryFrame
