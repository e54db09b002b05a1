import QueryFrame.DataFrame.Grouping
import QueryFrame.Proofs.Columns
import QueryFrame.Sample
import Mathlib.Logic.Relation

/-!
# Runs of dataframes

A dataframe starts as the columns of a relation, and each successful call makes the next one from
it (`DataFrame.Step`). Calls that put it under a partition are values of their own, `Grouping`:
each forms a partition out of resolved keys (`DataFrame.partitionFor`) and then applies it, so what
holds of `applyPartition` holds of all eight (`DataFrame.partitioned_eq`).

What every dataframe of a run satisfies is `DataFrame.Coherent`: names and series agree, the index
consists of bare keys of the relation, and each data column knows the index and the partition of the
dataframe that it stands in. The proof is the usual one, a step at a time
(`Coherent.step`), and one more fact about a step settles what becomes of a partition: where
there is one, it stays.
-/

namespace QueryFrame

/-- A call that puts a dataframe under a partition. -/
inductive Grouping where
  | groupBy (keys : List GroupKey)
  | cube (keys : List GroupKey)
  | rollup (keys : List GroupKey)
  | groupingSets (sets : List (List GroupKey))
  | groupingLists (lists : List (List GroupKey))
  | window (keys : List GroupKey) (frame : Option Frame) (minValues : Option UInt32)
  | rolling (size : UInt32) (minPeriods : Option UInt32) (centred : Bool)
  | expanding (minPeriods : Option UInt32)

namespace DataFrame

/-- The dataframe after the call. -/
def partitioned (df : DataFrame) : Grouping → Outcome DataFrame
  | .groupBy keys => df.groupBy keys
  | .cube keys => df.cube keys
  | .rollup keys => df.rollup keys
  | .groupingSets sets => df.groupingSets sets
  | .groupingLists lists => df.groupingLists lists
  | .window keys frame minValues => df.window keys frame minValues
  | .rolling size minPeriods centred => df.rolling size minPeriods centred
  | .expanding minPeriods => df.expanding minPeriods

/-- One successful call. -/
inductive Step (df : DataFrame) : DataFrame → Prop
  | get {names : List String} {next : DataFrame}
      (h : df.get (.labels names) = .ok (.dataFrame next)) : Step df next
  | select {names : List String} {next : DataFrame} (h : df.select names = .ok next) : Step df next
  | sortBy {names : List String} {ascending : List Bool} {next : DataFrame}
      (h : df.sortBy names ascending = .ok next) : Step df next
  | partitioned {call : Grouping} {next : DataFrame} (h : df.partitioned call = .ok next) :
      Step df next

/-- What a run of successful calls leads to. -/
def Reachable (df : DataFrame) : Prop :=
  ∃ relation settings index data,
    Relation.ReflTransGen Step (ofRelation relation settings index data) df

/-! ## The partition that a call asks for -/

/-- The window that a call asks for. -/
def windowFor (df : DataFrame) (keys : List GroupKey) (frame : Option Frame)
    (minValues : Option UInt32) : Outcome Partition := do
  let columns ← df.resolve keys
  let window ← Window.make columns df.order (frame.getD df.settings.window) minValues
  pure window.partition

/-- The partition that a call asks for, before it is known whether it can be applied. -/
def partitionFor (df : DataFrame) : Grouping → Outcome Partition
  | .groupBy keys => do
    let columns ← df.resolve keys
    Partition.groupBy columns
  | .cube keys => do
    let columns ← df.resolve keys
    Partition.cube columns
  | .rollup keys => do
    let columns ← df.resolve keys
    Partition.rollup columns
  | .groupingSets sets => do
    let children ← df.resolveLists sets
    Partition.groupingSet children
  | .groupingLists lists => do
    let children ← df.resolveLists lists
    Partition.groupingList children
  | .window keys frame minValues => df.windowFor keys frame minValues
  | .rolling size minPeriods centred =>
    if size = 0 then .error (.frame .emptyRolling)
    else df.windowFor [] (some (rollingFrame size centred)) (some (minPeriods.getD size))
  | .expanding minPeriods =>
    df.windowFor [] (some (.rows .unboundedPreceding .currentRow)) minPeriods

theorem window_eq (df : DataFrame) (keys : List GroupKey) (frame : Option Frame)
    (minValues : Option UInt32) :
    df.window keys frame minValues = (df.windowFor keys frame minValues >>= df.applyPartition) := by
  rw [window, windowFor]
  simp only [bind_assoc, pure_bind]

/-- Inversion for a window that is asked for: it is made of what the keys stand for. -/
theorem windowFor_eq_ok {df : DataFrame} {keys : List GroupKey} {frame : Option Frame}
    {minValues : Option UInt32} {p : Partition} (h : df.windowFor keys frame minValues = .ok p) :
    ∃ columns w, df.resolve keys = .ok columns ∧
      Window.make columns df.order (frame.getD df.settings.window) minValues = .ok w ∧
      w.partition = p := by
  obtain ⟨columns, hcolumns, h⟩ := Outcome.bind_eq_ok h
  obtain ⟨w, hw, h⟩ := Outcome.bind_eq_ok h
  exact ⟨columns, w, hcolumns, hw, Outcome.pure_eq_ok h⟩

/-- Inversion for a rolling call: it has rows, and asks for a window without keys. -/
theorem windowFor_of_rolling {df : DataFrame} {size : UInt32} {minPeriods : Option UInt32}
    {centred : Bool} {p : Partition}
    (h : df.partitionFor (.rolling size minPeriods centred) = .ok p) :
    df.windowFor [] (some (rollingFrame size centred)) (some (minPeriods.getD size)) = .ok p := by
  rw [partitionFor] at h
  split at h
  · cases h
  · exact h

/-- **A call forms its partition, then applies it.** -/
theorem partitioned_eq (df : DataFrame) (call : Grouping) :
    df.partitioned call = (df.partitionFor call >>= df.applyPartition) := by
  cases call with
  | groupBy keys =>
    rw [partitioned, groupBy, partitionFor]
    simp only [bind_assoc]
  | cube keys =>
    rw [partitioned, cube, partitionFor]
    simp only [bind_assoc]
  | rollup keys =>
    rw [partitioned, rollup, partitionFor]
    simp only [bind_assoc]
  | groupingSets sets =>
    rw [partitioned, groupingSets, partitionFor]
    simp only [bind_assoc]
  | groupingLists lists =>
    rw [partitioned, groupingLists, partitionFor]
    simp only [bind_assoc]
  | window keys frame minValues => exact window_eq df keys frame minValues
  | rolling size minPeriods centred =>
    rw [partitioned, rolling, partitionFor]
    split
    · rfl
    · exact window_eq df _ _ _
  | expanding minPeriods => exact window_eq df _ _ _

/-- Inversion for a call. -/
theorem partitioned_eq_ok {df next : DataFrame} {call : Grouping}
    (h : df.partitioned call = .ok next) :
    ∃ p, df.partitionFor call = .ok p ∧ df.applyPartition p = .ok next := by
  rw [partitioned_eq] at h
  exact Outcome.bind_eq_ok h

/-- Inversion for applying a partition: it is the first one, and either keeps the rows or makes
groups of them. -/
theorem applyPartition_eq_ok {df next : DataFrame} {p : Partition}
    (h : df.applyPartition p = .ok next) :
    df.partition = none ∧
      ((p.isWindow = true ∧
          next = { df with
            data := df.data.map fun entry => (entry.1, { entry.2 with partition := some p })
            partition := some p }) ∨
        (p.isWindow = false ∧
          next = { df with
            index := p.columns
            data := dataUnder df.data p.columns p
            order := []
            partition := some p })) := by
  rw [applyPartition] at h
  split at h
  · cases h
  · next hnone =>
    split at h
    · next hwindow => exact ⟨hnone, .inl ⟨hwindow, (Except.ok.inj h).symm⟩⟩
    · next hwindow =>
      exact ⟨hnone, .inr ⟨Bool.eq_false_iff.mpr hwindow, (Except.ok.inj h).symm⟩⟩

/-- A data column under a partition is one that was there, unless an index column hides it. -/
theorem mem_of_mem_dataUnder {data index : Columns} {p : Partition} {entry : String × Series}
    (h : entry ∈ dataUnder data index p) :
    ∃ own ∈ data, own.1 ∉ Keyed.keys index ∧
      entry = (own.1, { own.2 with index := index, partition := some p }) := by
  obtain ⟨own, hown, rfl⟩ := List.mem_map.mp h
  obtain ⟨hmem, hfree⟩ := List.mem_filter.mp hown
  refine ⟨own, hmem, fun hkey => ?_, rfl⟩
  rw [(Keyed.contains_iff _ _).mpr hkey] at hfree
  cases hfree

/-! ### What keys stand for -/

/-- Inversion for a column: it is a data column or an index column. -/
theorem column_eq_ok {df : DataFrame} {name : String} {s : Series} (h : df.column name = .ok s) :
    (name, s) ∈ df.data ∨ (name, s) ∈ df.index := by
  rw [column] at h
  split at h
  · next found hfound =>
    obtain rfl := Except.ok.inj h
    rcases Option.or_eq_some_iff.mp hfound with hdata | ⟨-, hindex⟩
    · exact .inl (Keyed.mem_of_find? hdata)
    · exact .inr (Keyed.mem_of_find? hindex)
  · cases h

/-- What a key stands for is looked up, or brought along and of the same relation. -/
theorem mem_of_resolve {df : DataFrame} {keys : List GroupKey} {columns : List Series}
    (h : df.resolve keys = .ok columns) {s : Series} (hs : s ∈ columns) :
    (∃ name, df.column name = .ok s) ∨ (.series s ∈ keys ∧ s.relation = df.relation) := by
  obtain ⟨key, hkey, hresolve⟩ := Outcome.mem_of_mapM_eq_ok h hs
  cases key with
  | label name => exact .inl ⟨name, hresolve⟩
  | series own =>
    rw [resolveKey] at hresolve
    split at hresolve
    · next hrelation =>
      obtain rfl := Except.ok.inj hresolve
      exact .inr ⟨hkey, hrelation⟩
    · cases hresolve

/-- Each member of a list of groupings is made from keys of its own. -/
theorem mem_of_resolveLists {df : DataFrame} {lists : List (List GroupKey)}
    {children : List Partition} (h : df.resolveLists lists = .ok children) {child : Partition}
    (hchild : child ∈ children) :
    ∃ keys ∈ lists, ∃ columns, df.resolve keys = .ok columns ∧
      Partition.groupBy columns = .ok child := by
  obtain ⟨keys, hkeys, hgroup⟩ := Outcome.mem_of_mapM_eq_ok h hchild
  exact ⟨keys, hkeys, Outcome.bind_eq_ok hgroup⟩

end DataFrame

/-! ## What a run keeps up -/

/-- A series stored as a key: under its own name, over the relation, and with no surroundings. -/
structure Series.IsKey (relation : Relation) (entry : String × Series) : Prop where
  /-- it is stored under its name -/
  name : entry.1 = entry.2.name
  /-- it is taken from the relation -/
  relation : entry.2.relation = relation
  /-- it has no index -/
  index : entry.2.index = []
  /-- it has no partition -/
  partition : entry.2.partition = none
  /-- no index column is sorted -/
  indexSorting : entry.2.indexSorting = []

namespace DataFrame

/-- A series stored as a data column: under its own name, with the surroundings of the
dataframe. -/
structure IsDatum (df : DataFrame) (entry : String × Series) : Prop where
  /-- it is stored under its name -/
  name : entry.1 = entry.2.name
  /-- it is taken from the relation -/
  relation : entry.2.relation = df.relation
  /-- it has the index of the dataframe -/
  index : entry.2.index = df.index
  /-- it has the partition of the dataframe -/
  partition : entry.2.partition = df.partition

/-- The columns of a dataframe fit together. -/
structure Coherent (df : DataFrame) : Prop where
  /-- the index consists of keys -/
  index : ∀ entry ∈ df.index, Series.IsKey df.relation entry
  /-- everything else has the surroundings of the dataframe -/
  data : ∀ entry ∈ df.data, df.IsDatum entry
  /-- groups are identified by what they are grouped on, and nothing else has such a name -/
  grouped : ∀ p, df.partition = some p → p.isWindow = false →
    df.index = p.columns ∧ ∀ name ∈ Keyed.keys df.data, name ∉ Keyed.keys df.index

end DataFrame

namespace Columns

/-- Columns of one relation become keys when they are grouped on, whatever surrounded them. -/
theorem isKey_of_group {relation : Relation} {columns : List Series} {grouped : Columns}
    (hrelation : ∀ column ∈ columns, column.relation = relation)
    (h : group columns = .ok grouped) : ∀ entry ∈ grouped, Series.IsKey relation entry := by
  intro entry hentry
  obtain ⟨column, hcolumn, -, rfl⟩ := mem_of_group h hentry
  exact ⟨rfl, hrelation column hcolumn, rfl, rfl, rfl⟩

end Columns

namespace DataFrame

/-- What keys stand for belongs to the relation, be it looked up or brought along. -/
theorem Coherent.relation_of_resolve {df : DataFrame} (hdf : df.Coherent) {keys : List GroupKey}
    {columns : List Series} (h : df.resolve keys = .ok columns) :
    ∀ column ∈ columns, column.relation = df.relation := by
  intro column hcolumn
  rcases mem_of_resolve h hcolumn with ⟨name, hname⟩ | ⟨-, hrelation⟩
  · rcases column_eq_ok hname with hdata | hindex
    · exact (hdf.data _ hdata).relation
    · exact (hdf.index _ hindex).relation
  · exact hrelation

/-- The columns of a list of groupings are keys of the relation. -/
theorem Coherent.isKey_of_lists {df : DataFrame} (hdf : df.Coherent)
    {lists : List (List GroupKey)} {children : List Partition} {columns : Columns}
    (hresolve : df.resolveLists lists = .ok children)
    (h : Partition.mergedColumns children = .ok columns) :
    ∀ entry ∈ columns, Series.IsKey df.relation entry := by
  obtain ⟨merged, hgroup, hmerged⟩ := Partition.mergedColumns_eq_ok h
  refine Columns.isKey_of_group (fun column hcolumn => ?_) hgroup
  obtain ⟨child, hchild, key, hentry⟩ := hmerged column hcolumn
  obtain ⟨keys, -, own, hown, hchild⟩ := mem_of_resolveLists hresolve hchild
  obtain ⟨hgroup, -⟩ := Partition.groupBy_eq_ok hchild
  exact (Columns.isKey_of_group (hdf.relation_of_resolve hown) hgroup _ hentry).relation

theorem Coherent.isKey_of_windowFor {df : DataFrame} (hdf : df.Coherent) {keys : List GroupKey}
    {frame : Option Frame} {minValues : Option UInt32} {p : Partition}
    (h : df.windowFor keys frame minValues = .ok p) :
    ∀ entry ∈ p.columns, Series.IsKey df.relation entry := by
  obtain ⟨columns, window, hcolumns, hwindow, rfl⟩ := windowFor_eq_ok h
  exact Columns.isKey_of_group (hdf.relation_of_resolve hcolumns) (Window.make_eq_ok hwindow).1

/-- **The columns of the partition that a call asks for** are keys of the relation. -/
theorem Coherent.isKey_of_partitionFor {df : DataFrame} (hdf : df.Coherent) {call : Grouping}
    {p : Partition} (h : df.partitionFor call = .ok p) :
    ∀ entry ∈ p.columns, Series.IsKey df.relation entry := by
  cases call with
  | groupBy keys =>
    obtain ⟨columns, hcolumns, h⟩ := Outcome.bind_eq_ok h
    exact Columns.isKey_of_group (hdf.relation_of_resolve hcolumns) (Partition.groupBy_eq_ok h).1
  | cube keys =>
    obtain ⟨columns, hcolumns, h⟩ := Outcome.bind_eq_ok h
    exact Columns.isKey_of_group (hdf.relation_of_resolve hcolumns) (Partition.cube_eq_ok h).1
  | rollup keys =>
    obtain ⟨columns, hcolumns, h⟩ := Outcome.bind_eq_ok h
    exact Columns.isKey_of_group (hdf.relation_of_resolve hcolumns) (Partition.rollup_eq_ok h).1
  | groupingSets sets =>
    obtain ⟨children, hchildren, h⟩ := Outcome.bind_eq_ok h
    exact hdf.isKey_of_lists hchildren (Partition.groupingSet_eq_ok h).1
  | groupingLists lists =>
    obtain ⟨children, hchildren, h⟩ := Outcome.bind_eq_ok h
    exact hdf.isKey_of_lists hchildren (Partition.groupingList_eq_ok h).1
  | window keys frame minValues => exact hdf.isKey_of_windowFor h
  | rolling size minPeriods centred => exact hdf.isKey_of_windowFor (windowFor_of_rolling h)
  | expanding minPeriods => exact hdf.isKey_of_windowFor h

/-! ### One step -/

/-- A dataframe starts coherent. -/
theorem Coherent.ofRelation (relation : Relation) (settings : Settings)
    (index data : List (String × DataType)) :
    (DataFrame.ofRelation relation settings index data).Coherent := by
  have hcolumn : ∀ fields, ∀ entry ∈ columnsOf relation fields, ∃ name dtype,
      entry = (name, Series.ofColumn relation name dtype) := by
    intro fields entry hentry
    obtain ⟨field, -, rfl⟩ := List.mem_map.mp (Keyed.mem_of_mem_ofList hentry)
    exact ⟨field.1, field.2, rfl⟩
  refine ⟨fun entry hentry => ?_, fun entry hentry => ?_, fun p hp => ?_⟩
  · obtain ⟨name, dtype, rfl⟩ := hcolumn index entry hentry
    exact ⟨rfl, rfl, rfl, rfl, rfl⟩
  · obtain ⟨own, hown, rfl⟩ := List.mem_map.mp hentry
    obtain ⟨name, dtype, rfl⟩ := hcolumn data own hown
    exact ⟨rfl, rfl, rfl, rfl⟩
  · cases hp

/-- Selecting takes data columns away and changes nothing else. -/
theorem select_eq_ok {df next : DataFrame} {names : List String} (h : df.select names = .ok next) :
    (∀ entry ∈ next.data, entry ∈ df.data) ∧ next = { df with data := next.data } := by
  obtain ⟨columns, hcolumns, h⟩ := Outcome.bind_eq_ok h
  obtain rfl := Outcome.pure_eq_ok h
  refine ⟨fun entry hentry => ?_, rfl⟩
  obtain ⟨label, -, hlabel⟩ :=
    Outcome.mem_of_mapM_eq_ok hcolumns (Keyed.mem_of_mem_ofList hentry)
  split at hlabel
  · next s hs =>
    obtain rfl := Except.ok.inj hlabel
    exact Keyed.mem_of_find? hs
  · cases hlabel

/-- Sorting changes the order and nothing else. -/
theorem sortBy_eq_ok {df next : DataFrame} {names : List String} {ascending : List Bool}
    (h : df.sortBy names ascending = .ok next) : next = { df with order := next.order } := by
  rw [sortBy] at h
  split at h
  · cases h
  · obtain ⟨columns, -, h⟩ := Outcome.bind_eq_ok h
    obtain rfl := Outcome.pure_eq_ok h
    rfl

theorem Coherent.select {df next : DataFrame} (hdf : df.Coherent) {names : List String}
    (h : df.select names = .ok next) : next.Coherent := by
  obtain ⟨hsub, hnext⟩ := select_eq_ok h
  rw [hnext]
  refine ⟨hdf.index, fun entry hentry => ?_, fun p hp hgroups => ?_⟩
  · obtain ⟨hname, hrelation, hindex, hpartition⟩ := hdf.data entry (hsub entry hentry)
    exact ⟨hname, hrelation, hindex, hpartition⟩
  · obtain ⟨hcolumns, hfree⟩ := hdf.grouped p hp hgroups
    refine ⟨hcolumns, fun name hname => ?_⟩
    obtain ⟨entry, hentry, rfl⟩ := List.mem_map.mp hname
    exact hfree entry.1 (List.mem_map.mpr ⟨entry, hsub entry hentry, rfl⟩)

theorem Coherent.sortBy {df next : DataFrame} (hdf : df.Coherent) {names : List String}
    {ascending : List Bool} (h : df.sortBy names ascending = .ok next) : next.Coherent := by
  rw [sortBy_eq_ok h]
  obtain ⟨hindex, hdata, hgrouped⟩ := hdf
  exact ⟨hindex, fun entry hentry => ⟨(hdata entry hentry).name, (hdata entry hentry).relation,
    (hdata entry hentry).index, (hdata entry hentry).partition⟩, hgrouped⟩

/-- A partition with keys of the relation as columns leaves a dataframe coherent. -/
theorem Coherent.applyPartition {df next : DataFrame} (hdf : df.Coherent) {p : Partition}
    (hkeys : ∀ entry ∈ p.columns, Series.IsKey df.relation entry)
    (h : df.applyPartition p = .ok next) : next.Coherent := by
  obtain ⟨-, ⟨hwindow, rfl⟩ | ⟨hgroups, rfl⟩⟩ := applyPartition_eq_ok h
  · -- a window: the index stays, the data learn of the partition
    refine ⟨hdf.index, fun entry hentry => ?_, fun other hother hgroups => ?_⟩
    · obtain ⟨own, hown, rfl⟩ := List.mem_map.mp hentry
      have hold := hdf.data own hown
      exact ⟨hold.name, hold.relation, hold.index, rfl⟩
    · rw [← Option.some.inj hother, hwindow] at hgroups
      cases hgroups
  · -- groups: the index is replaced, and the data learn of both
    refine ⟨hkeys, fun entry hentry => ?_, fun other hother _ => ⟨?_, fun name hname => ?_⟩⟩
    · obtain ⟨own, hown, -, rfl⟩ := mem_of_mem_dataUnder hentry
      have hold := hdf.data own hown
      exact ⟨hold.name, hold.relation, rfl, rfl⟩
    · rw [← Option.some.inj hother]
    · obtain ⟨entry, hentry, rfl⟩ := List.mem_map.mp hname
      obtain ⟨own, -, hfree, rfl⟩ := mem_of_mem_dataUnder hentry
      exact hfree

/-- A call by labels is a selection. -/
theorem get_labels_eq_ok {df next : DataFrame} {names : List String}
    (h : df.get (.labels names) = .ok (.dataFrame next)) : df.select names = .ok next := by
  obtain ⟨selected, hselected, heq⟩ := Outcome.map_eq_ok h
  cases heq
  exact hselected

/-- **A step leads from coherent dataframes to coherent ones.** -/
theorem Coherent.step {df next : DataFrame} (hdf : df.Coherent) (h : Step df next) :
    next.Coherent := by
  cases h with
  | get h => exact hdf.select (get_labels_eq_ok h)
  | select h => exact hdf.select h
  | sortBy h => exact hdf.sortBy h
  | partitioned h =>
    obtain ⟨p, hp, happly⟩ := partitioned_eq_ok h
    exact hdf.applyPartition (hdf.isKey_of_partitionFor hp) happly

/-- **A partition is there to stay.** No step takes it away or puts another in its place. -/
theorem Step.partition_eq {df next : DataFrame} (h : Step df next) {p : Partition}
    (hp : df.partition = some p) : next.partition = some p := by
  cases h with
  | get h =>
    rw [(select_eq_ok (get_labels_eq_ok h)).2]
    exact hp
  | select h =>
    rw [(select_eq_ok h).2]
    exact hp
  | sortBy h =>
    rw [sortBy_eq_ok h]
    exact hp
  | partitioned h =>
    obtain ⟨other, -, happly⟩ := partitioned_eq_ok h
    rw [(applyPartition_eq_ok happly).1] at hp
    cases hp

/-- Under a partition, every call that would apply one is refused. -/
theorem partitioned_eq_error {df : DataFrame} {p : Partition} (hp : df.partition = some p)
    (call : Grouping) : ∃ fault, df.partitioned call = .error fault := by
  cases h : df.partitioned call with
  | error fault => exact ⟨fault, rfl⟩
  | ok next =>
    obtain ⟨other, -, happly⟩ := partitioned_eq_ok h
    rw [(applyPartition_eq_ok happly).1] at hp
    cases hp

/-! ### Whole runs -/

/-- What holds of every start and is kept by every step holds of whatever a run leads to. -/
theorem Reachable.holds {P : DataFrame → Prop}
    (hstart : ∀ relation settings index data, P (ofRelation relation settings index data))
    (hstep : ∀ {df next : DataFrame}, P df → Step df next → P next) {df : DataFrame}
    (h : df.Reachable) : P df := by
  obtain ⟨relation, settings, index, data, hrun⟩ := h
  induction hrun with
  | refl => exact hstart relation settings index data
  | tail _ hnext ih => exact hstep ih hnext

theorem Reachable.coherent {df : DataFrame} (h : df.Reachable) : df.Coherent :=
  h.holds Coherent.ofRelation Coherent.step

/-- **Whatever a run leads to is coherent**, and once a partition is applied, it stays for the rest
of the run, and every further call for one is refused. -/
theorem coherent_of_reachable {df : DataFrame} (h : df.Reachable) :
    df.Coherent ∧ ∀ p, df.partition = some p →
      (∀ next, Relation.ReflTransGen Step df next → next.partition = some p) ∧
        ∀ call, ∃ fault, df.partitioned call = .error fault := by
  obtain ⟨relation, settings, index, data, hrun⟩ := h
  refine ⟨?_, fun p hp => ⟨fun next hnext => ?_, partitioned_eq_error hp⟩⟩
  · induction hrun with
    | refl => exact .ofRelation relation settings index data
    | tail _ hstep ih => exact ih.step hstep
  · induction hnext with
    | refl => exact hp
    | tail _ hstep ih => exact hstep.partition_eq ih

/-- A dataframe that is grouped by one of its data columns. -/
theorem coherent_of_reachable_grouped :
    ∃ df p, (Sample.dataFrame ["a"] ["b", "c"]).groupBy [.label "c"] = .ok df ∧
      df.partition = some p ∧ df.Reachable ∧ df.Coherent ∧
      (∀ next, Relation.ReflTransGen Step df next → next.partition = some p) ∧
      ∀ call, ∃ fault, df.partitioned call = .error fault := by
  refine ⟨_, _, rfl, rfl, ?_⟩
  have hreach : Reachable _ := ⟨_, _, _, _, .single
    (@Step.partitioned (Sample.dataFrame ["a"] ["b", "c"]) (.groupBy [.label "c"]) _ rfl)⟩
  obtain ⟨hcoherent, hpartition⟩ := coherent_of_reachable hreach
  exact ⟨hreach, hcoherent, hpartition _ rfl⟩

end DataFrame

end QueryFrame
