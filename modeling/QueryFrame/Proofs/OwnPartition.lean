import QueryFrame.Error.Wording
import QueryFrame.Proofs.Kinds
import QueryFrame.Proofs.Relations
import QueryFrame.Proofs.Runs
import QueryFrame.Sample

/-!
# Aggregates over the own partition

A dataframe that is under a partition has data columns that know the partition, so each of them can
be aggregated over the partition that it shows. Four checks are made then, and a fifth when the
aggregate is compared with a column that was not aggregated. Only one of them can fail, the one for
the type (`DataFrame.aggregate_of_reachable`):

* A data column is a column of the relation, with nothing computed from it. So it is rowwise, and
  neither an aggregate nor a window function.
* What a dataframe is partitioned by is taken from its relation, so no column is foreign to it.
* An aggregate over groups belongs to them as the data columns do, and an aggregate over a window
  belongs where its column does. In both cases it lines up with the data columns.

The first two are kept up by every step of a run (`DataFrame.Tabular`), besides what makes a
dataframe coherent.
-/

namespace QueryFrame

/-! ## Which types cannot be aggregated -/

/-- Whether there is no such aggregate of a type: sums and means are for numbers, and the least and
the greatest value are not for documents and composites. -/
def Aggregate.Lacks : Aggregate → DataType → Prop
  | .sum, dtype | .mean, dtype => dtype ≠ .int64 ∧ dtype ≠ .float64
  | .min, dtype | .max, dtype => dtype = .json ∨ dtype = .numericInterval
  | .count, _ | .nunique, _ => False

/-- The types without an aggregate are those that are refused for it. -/
theorem Aggregate.supports_iff (f : Aggregate) (dtype : DataType) :
    f.supports dtype = true ↔ ¬ f.Lacks dtype := by
  cases f <;> cases dtype <;> simp [Lacks] <;> decide

namespace Series

/-- A rowwise series is checked for its type only. -/
theorem checkAggregate_of_rowwise {s : Series} (h : s.expr.Rowwise) (f : Aggregate) :
    s.checkAggregate f =
      if f.supports s.dtype then .ok () else .error (.type (.unsupported s.dtype f.name)) := by
  rw [checkAggregate, h.aggregate, h.window]
  cases f.supports s.dtype <;> rfl

end Series

/-! ## What the checks rely on -/

namespace DataFrame

/-- The columns of a relation, under a partition by columns of the relation. -/
structure Tabular (df : DataFrame) : Prop where
  /-- names and series fit together -/
  coherent : df.Coherent
  /-- nothing is computed -/
  column : ∀ entry ∈ df.data, entry.2.expr = .column entry.1
  /-- nothing is partitioned by columns of another relation -/
  keys : ∀ p, df.partition = some p → ∀ entry ∈ p.columns, Series.IsKey df.relation entry

namespace Tabular

theorem ofRelation (relation : Relation) (settings : Settings)
    (index data : List (String × DataType)) :
    (DataFrame.ofRelation relation settings index data).Tabular := by
  refine ⟨.ofRelation relation settings index data, fun entry hentry => ?_, by rintro p ⟨⟩⟩
  obtain ⟨own, hown, rfl⟩ := List.mem_map.mp hentry
  obtain ⟨field, -, rfl⟩ := List.mem_map.mp (Keyed.mem_of_mem_ofList hown)
  rfl

theorem select {df next : DataFrame} (hdf : df.Tabular) {names : List String}
    (h : df.select names = .ok next) : next.Tabular := by
  have hcoherent := hdf.coherent.select h
  obtain ⟨hsub, hnext⟩ := select_eq_ok h
  rw [hnext] at hcoherent ⊢
  exact ⟨hcoherent, fun entry hentry => hdf.column entry (hsub entry hentry), hdf.keys⟩

theorem sortBy {df next : DataFrame} (hdf : df.Tabular) {names : List String}
    {ascending : List Bool} (h : df.sortBy names ascending = .ok next) : next.Tabular := by
  have hcoherent := hdf.coherent.sortBy h
  rw [sortBy_eq_ok h] at hcoherent ⊢
  exact ⟨hcoherent, hdf.column, hdf.keys⟩

theorem partitioned {df next : DataFrame} (hdf : df.Tabular) {call : Grouping}
    (h : df.partitioned call = .ok next) : next.Tabular := by
  have hcoherent := hdf.coherent.step (.partitioned h)
  obtain ⟨p, hp, happly⟩ := partitioned_eq_ok h
  have hkeys := hdf.coherent.isKey_of_partitionFor hp
  obtain ⟨-, ⟨-, rfl⟩ | ⟨-, rfl⟩⟩ := applyPartition_eq_ok happly
  · refine ⟨hcoherent, fun entry hentry => ?_, fun other hother => ?_⟩
    · obtain ⟨own, hown, rfl⟩ := List.mem_map.mp hentry
      exact hdf.column own hown
    · rw [← Option.some.inj hother]
      exact hkeys
  · refine ⟨hcoherent, fun entry hentry => ?_, fun other hother => ?_⟩
    · obtain ⟨own, hown, -, rfl⟩ := mem_of_mem_dataUnder hentry
      exact hdf.column own hown
    · rw [← Option.some.inj hother]
      exact hkeys

/-- **A step changes nothing about this.** -/
theorem step {df next : DataFrame} (hdf : df.Tabular) (h : Step df next) : next.Tabular := by
  cases h with
  | get h => exact hdf.select (get_labels_eq_ok h)
  | select h => exact hdf.select h
  | sortBy h => exact hdf.sortBy h
  | partitioned h => exact hdf.partitioned h

end Tabular

theorem Reachable.tabular {df : DataFrame} (h : df.Reachable) : df.Tabular :=
  h.holds Tabular.ofRelation Tabular.step

/-! ## What comes out -/

/-- Whether a series can be compared, from either side, with all data columns of a type that goes
with its own. -/
def Compares (df : DataFrame) (s : Series) : Prop :=
  ∀ entry ∈ df.data, s.dtype.comparableWith entry.2.dtype = true → ∀ op,
    (∃ next, s.compare op entry.2 = .ok next) ∧ ∃ next, entry.2.compare op s = .ok next

/-- An aggregate of a column of a dataframe, over the partition of the dataframe. -/
structure IsTotal (df : DataFrame) (p : Partition) (s : Series) (f : Aggregate) (total : Series) :
    Prop where
  /-- it has the name of the column -/
  name : total.name = s.name
  /-- and its relation -/
  relation : total.relation = s.relation
  /-- and its levels -/
  levels : total.levels = s.levels
  /-- it has the type of the aggregate -/
  dtype : total.dtype = f.resultType s.dtype
  /-- over groups, rows collapse: it has a value for each group -/
  grouped : p.isWindow = false → total.index = df.index ∧ total.partition = some p ∧
    total.expr.hasAggregate = true ∧ total.expr.hasWindow = false
  /-- over a window, rows stay: it is the call of the aggregate over the window -/
  windowed : ∀ w, p.window? = some w → total.index = s.index ∧ total.partition = s.partition ∧
    total.expr.hasWindow = true ∧ total.expr.hasAggregate = false ∧
    ∃ call, Expr.construct .aggregate f.template [s.expr] = .ok call ∧
      w.apply call = .ok total.expr
  /-- it lines up with the data columns -/
  compared : df.Compares total

section Totals

variable {df : DataFrame} {p : Partition}

/-- What is over the partition of a dataframe and of its relation can be compared with the data. -/
theorem Tabular.compares (hdf : df.Tabular) {s : Series} (hrelation : s.relation = df.relation)
    (hpartition : s.partition = df.partition) : df.Compares s := by
  intro entry hentry htypes op
  have hdatum := hdf.coherent.data entry hentry
  have hsame : s.relation = entry.2.relation := hrelation.trans hdatum.relation.symm
  have hunder : s.partition = entry.2.partition := hpartition.trans hdatum.partition.symm
  refine ⟨Series.exists_compare htypes hsame hunder op, ?_⟩
  rw [DataType.comparableWith_comm] at htypes
  exact Series.exists_compare htypes hsame.symm hunder.symm op

variable {entry : String × Series}

theorem Tabular.rowwise (hdf : df.Tabular) (hentry : entry ∈ df.data) : entry.2.expr.Rowwise := by
  rw [hdf.column entry hentry]
  exact Expr.rowwise_column entry.1

theorem Tabular.not_foreign (hdf : df.Tabular) (hp : df.partition = some p)
    (hentry : entry ∈ df.data) : ¬ p.Foreign entry.2 := by
  rintro ⟨key, hkey, hforeign⟩
  rw [(hdf.coherent.data entry hentry).relation] at hforeign
  exact hforeign (hdf.keys p hp key hkey).relation

/-- **An aggregate of a data column**, if there is one, is all that it should be. -/
theorem Tabular.isTotal (hdf : df.Tabular) (hp : df.partition = some p) (hentry : entry ∈ df.data)
    {f : Aggregate} {total : Series} (h : entry.2.aggregate f (some p) = .ok total) :
    df.IsTotal p entry.2 f total := by
  obtain ⟨-, call, hcall, htotal⟩ := Series.aggregate_some_eq_ok h
  have hdatum := hdf.coherent.data entry hentry
  rcases htotal with ⟨w, expr, hw, hexpr, rfl⟩ | ⟨hnone, rfl⟩
  · -- a window: index and partition are those of the column
    have hwindow : p.isWindow = true := by
      rw [p.isWindow_eq, hw]
      rfl
    refine ⟨rfl, rfl, rfl, rfl, fun hgroups => ?_, fun other hother => ?_,
      hdf.compares hdatum.relation hdatum.partition⟩
    · cases hwindow.symm.trans hgroups
    · obtain rfl := Option.some.inj (hw.symm.trans hother)
      obtain ⟨haggregate, hlooks⟩ := Window.kinds_of_apply hexpr
      exact ⟨rfl, rfl, hlooks, haggregate, call, hcall, hexpr⟩
  · -- groups: index and partition are those of the dataframe, which go by the partition
    refine ⟨rfl, rfl, rfl, rfl, fun hgroups => ?_, fun w hw => ?_,
      hdf.compares hdatum.relation hp.symm⟩
    · obtain ⟨haggregate, hlooks⟩ := Expr.kinds_of_aggregate hcall
      rw [List.any_cons, (hdf.rowwise hentry).window] at hlooks
      exact ⟨(hdf.coherent.grouped p hp hgroups).1.symm, rfl, haggregate, hlooks⟩
    · cases hnone.symm.trans hw

end Totals

/-- **A data column can be aggregated over the partition that it shows.** Whatever led to the
dataframe and whatever its partition is, there is an aggregate of every column, unless its type has
none. Then it is refused for the type. -/
theorem aggregate_of_reachable {df : DataFrame} (hdf : df.Reachable) {p : Partition}
    (hp : df.partition = some p) {name : String} {s : Series} (hs : (name, s) ∈ df.data) :
    s.partition = some p ∧ ∀ f : Aggregate,
      ((∃ total, s.aggregate f s.partition = .ok total) ↔ ¬ f.Lacks s.dtype) ∧
      (∀ fault, s.aggregate f s.partition = .error fault →
        fault = .type (.unsupported s.dtype f.name) ∧ fault.code = "TYPE_002") ∧
      ∀ total, s.aggregate f s.partition = .ok total → df.IsTotal p s f total := by
  have htabular := hdf.tabular
  have hpartition : s.partition = some p := (htabular.coherent.data _ hs).partition.trans hp
  refine ⟨hpartition, fun f => ?_⟩
  rw [hpartition, ← f.supports_iff]
  have hcheck := Series.checkAggregate_of_rowwise (htabular.rowwise hs) f
  cases hsupports : f.supports s.dtype with
  | true =>
    rw [hsupports, if_pos rfl] at hcheck
    obtain ⟨total, htotal⟩ : ∃ total, s.aggregate f (some p) = .ok total :=
      Series.exists_aggregate hcheck
        (Partition.checkRelation_of_not_foreign (htabular.not_foreign hp hs))
    refine ⟨iff_of_true ⟨total, htotal⟩ rfl, fun fault hfault => ?_, fun other hother => ?_⟩
    · cases htotal.symm.trans hfault
    · exact htabular.isTotal hp hs hother
  | false =>
    rw [hsupports, if_neg Bool.false_ne_true] at hcheck
    rw [Series.aggregate_of_checkAggregate_error hcheck]
    refine ⟨iff_of_false (by rintro ⟨total, ⟨⟩⟩) Bool.false_ne_true, fun fault hfault => ?_, ?_⟩
    · rw [← Except.error.inj hfault]
      exact ⟨rfl, rfl⟩
    · rintro total ⟨⟩

/-- A column of numbers and one of documents, grouped by the index. Numbers have a sum for each
group, which can be compared with them; documents have no greatest value, but can be counted. Over a
window the sum stays with the index of its column. -/
theorem aggregate_of_reachable_documents :
    let start := ofRelation Sample.relation .standard (Sample.fields ["a"])
      [("b", .int64), ("d", .json)]
    (∃ df b d total count, start.cube [.label "a"] = .ok df ∧ df.Reachable ∧
      df.data = [("b", b), ("d", d)] ∧
      b.aggregate .sum b.partition = .ok total ∧ total.index = df.index ∧
      total.expr.hasAggregate = true ∧ (∃ next, total.compare .less b = .ok next) ∧
      d.aggregate .max d.partition = .error (.type (.unsupported .json "max")) ∧
      d.aggregate .count d.partition = .ok count ∧ count.partition = d.partition) ∧
    ∃ df b d total, start.window [.label "d"] none (some 2) = .ok df ∧
      df.data = [("b", b), ("d", d)] ∧ b.aggregate .sum b.partition = .ok total ∧
      total.index = b.index ∧ total.expr.hasAggregate = false ∧ total.expr.hasWindow = true := by
  intro start
  have hsum : ¬ Aggregate.Lacks .sum .int64 := by simp [Aggregate.Lacks]
  have hmax : Aggregate.Lacks .max .json := .inl rfl
  refine ⟨?_, ?_⟩
  · obtain ⟨df, hdf⟩ : ∃ df, start.cube [.label "a"] = .ok df := ⟨_, rfl⟩
    have hreach : df.Reachable :=
      ⟨_, _, _, _, .single (@Step.partitioned start (.cube [.label "a"]) df hdf)⟩
    obtain ⟨p, b, d, hp, hgroups, hdata, hnumbers, hdocuments⟩ : ∃ p b d,
        df.partition = some p ∧ p.isWindow = false ∧ df.data = [("b", b), ("d", d)] ∧
          b.dtype = .int64 ∧ d.dtype = .json := by
      obtain rfl := Except.ok.inj hdf
      exact ⟨_, _, _, rfl, rfl, rfl, rfl, rfl⟩
    have hb : ("b", b) ∈ df.data := by simp [hdata]
    have hd : ("d", d) ∈ df.data := by simp [hdata]
    obtain ⟨-, hofb⟩ := aggregate_of_reachable hreach hp hb
    obtain ⟨hpartition, hofd⟩ := aggregate_of_reachable hreach hp hd
    rw [hnumbers] at hofb
    rw [hdocuments] at hofd
    obtain ⟨total, htotal⟩ := (hofb .sum).1.mpr hsum
    obtain ⟨count, hcount⟩ := (hofd .count).1.mpr not_false
    have hsums := (hofb .sum).2.2 total htotal
    have hcounts := (hofd .count).2.2 count hcount
    have hcompared := hsums.compared _ hb (by rw [hsums.dtype, hnumbers]; rfl) .less
    refine ⟨df, b, d, total, count, hdf, hreach, hdata, htotal, (hsums.grouped hgroups).1,
      (hsums.grouped hgroups).2.2.1, hcompared.1, ?_, hcount,
      (hcounts.grouped hgroups).2.1.trans hpartition.symm⟩
    cases hfault : d.aggregate .max d.partition with
    | error fault => exact congrArg Except.error ((hofd .max).2.1 fault hfault).1
    | ok greatest => exact absurd hmax ((hofd .max).1.mp ⟨greatest, hfault⟩)
  · obtain ⟨df, hdf⟩ : ∃ df, start.window [.label "d"] none (some 2) = .ok df := ⟨_, rfl⟩
    have hreach : df.Reachable :=
      ⟨_, _, _, _, .single (@Step.partitioned start (.window [.label "d"] none (some 2)) df hdf)⟩
    obtain ⟨w, b, d, hp, hdata, hnumbers⟩ : ∃ w b d, df.partition = some (Window.partition w) ∧
        df.data = [("b", b), ("d", d)] ∧ b.dtype = .int64 := by
      obtain rfl := Except.ok.inj hdf
      exact ⟨_, _, _, rfl, rfl, rfl⟩
    have hb : ("b", b) ∈ df.data := by simp [hdata]
    obtain ⟨-, hofb⟩ := aggregate_of_reachable hreach hp hb
    rw [hnumbers] at hofb
    obtain ⟨total, htotal⟩ := (hofb .sum).1.mpr hsum
    obtain ⟨hindex, -, hlooks, haggregate, -⟩ := ((hofb .sum).2.2 total htotal).windowed w rfl
    exact ⟨df, b, d, total, hdf, hdata, htotal, hindex, haggregate, hlooks⟩

end DataFrame

end QueryFrame
