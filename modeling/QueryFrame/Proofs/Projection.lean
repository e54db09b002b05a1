import QueryFrame.Proofs.Runs
import QueryFrame.Sample

/-!
# Selecting first, or last

Selecting columns gives a dataframe with fewer of them. What a partition or an order is formed of is
looked up in the dataframe, so it can be formed before columns are selected or after, provided that
no column is missed: the names that are looked up are selected, or mean no data column in the first
place.

A selection is the entries of its labels, collected (`DataFrame.select_eq`), and look-ups for such
names do not tell the two dataframes apart (`DataFrame.resolveKey_project`). So both form the same
partition (`DataFrame.partitionFor_congr`), and what remains is what the partition does to the data.
A window leaves all of them; any other partition takes away those that its columns hide, and of the
labels the same ones have to go (`DataFrame.dataUnder_pick`).
-/

namespace QueryFrame

namespace Grouping

/-- The lists of keys that a call looks up. -/
def keyLists : Grouping → List (List GroupKey)
  | .groupBy keys | .cube keys | .rollup keys => [keys]
  | .groupingSets lists | .groupingLists lists => lists
  | .window keys _ _ => [keys]
  | .rolling .. | .expanding .. => []

/-- Whether a call keeps the rows apart. -/
def keepsRows : Grouping → Bool
  | .window .. | .rolling .. | .expanding .. => true
  | _ => false

/-- The labels that are left after a call with that index. Rows keep all of their columns, groups
those that are not hidden by the columns that identify them. -/
def labelsUnder (call : Grouping) (index : Columns) (labels : List String) : List String :=
  if call.keepsRows then labels else labels.filter fun label => !Keyed.contains label index

variable {call : Grouping} (index : Columns) (labels : List String)

theorem labelsUnder_of_rows (h : call.keepsRows = true) : call.labelsUnder index labels = labels :=
  if_pos h

theorem labelsUnder_of_groups (h : call.keepsRows = false) :
    call.labelsUnder index labels = labels.filter fun label => !Keyed.contains label index :=
  if_neg (Bool.eq_false_iff.mp h)

end Grouping

namespace DataFrame

/-! ## What a selection looks like -/

/-- The dataframe with the data columns of these names, as far as it has them. -/
def project (df : DataFrame) (labels : List String) : DataFrame :=
  { df with data := Keyed.ofList (Keyed.pick labels df.data) }

theorem selectColumns_eq {df : DataFrame} {labels : List String}
    (h : ∀ label ∈ labels, label ∈ df.dataColumns) :
    df.selectColumns labels = .ok (Keyed.pick labels df.data) := by
  rw [selectColumns]
  induction labels with
  | nil => rfl
  | cons label rest ih =>
    obtain ⟨hlabel, hrest⟩ := List.forall_mem_cons.mp h
    obtain ⟨s, hs⟩ := Option.isSome_iff_exists.mp ((Keyed.contains_iff _ _).mpr hlabel)
    rw [List.mapM_cons, hs, Outcome.ok_bind, ih hrest, Outcome.ok_bind, Keyed.pick_cons_of_some hs]
    rfl

/-- **Selecting columns that are there.** -/
theorem select_eq {df : DataFrame} {labels : List String}
    (h : ∀ label ∈ labels, label ∈ df.dataColumns) :
    df.select labels = .ok (df.project labels) := by
  rw [select, selectColumns_eq h]
  rfl

section LookUps

variable {df : DataFrame} {labels : List String}

/-- A name can be looked up after a selection: it is selected, or there was no data column of this
name to begin with. -/
def Survives (df : DataFrame) (labels : List String) (name : String) : Prop :=
  name ∈ labels ∨ name ∉ df.dataColumns

theorem column_project {name : String} (h : df.Survives labels name) :
    (df.project labels).column name = df.column name := by
  have hfind : Keyed.find? name (df.project labels).data = Keyed.find? name df.data := by
    rw [project, Keyed.find?_ofList_pick]
    split
    · rfl
    · next hlabel => exact (Keyed.find?_eq_none_iff.mpr (h.resolve_left hlabel)).symm
  rw [column, column, hfind]
  rfl

theorem resolveKey_project {key : GroupKey}
    (h : ∀ name, key = .label name → df.Survives labels name) :
    (df.project labels).resolveKey key = df.resolveKey key := by
  cases key with
  | label name => exact column_project (h name rfl)
  | series s => rfl

end LookUps

/-! ## The same partition -/

section Congruence

variable {df other : DataFrame}

theorem resolve_congr {keys : List GroupKey}
    (h : ∀ key ∈ keys, other.resolveKey key = df.resolveKey key) :
    other.resolve keys = df.resolve keys :=
  Outcome.mapM_congr h

theorem resolveLists_congr {lists : List (List GroupKey)}
    (h : ∀ keys ∈ lists, ∀ key ∈ keys, other.resolveKey key = df.resolveKey key) :
    other.resolveLists lists = df.resolveLists lists :=
  Outcome.mapM_congr fun keys hkeys => by rw [resolve_congr (h keys hkeys)]

theorem windowFor_congr (horder : other.order = df.order) (hsettings : other.settings = df.settings)
    {keys : List GroupKey} (h : ∀ key ∈ keys, other.resolveKey key = df.resolveKey key)
    (frame : Option Frame) (minValues : Option UInt32) :
    other.windowFor keys frame minValues = df.windowFor keys frame minValues := by
  rw [windowFor, windowFor, resolve_congr h, horder, hsettings]

/-- **What a call makes of a dataframe** is settled by what its keys stand for, by the order and by
the settings. -/
theorem partitionFor_congr (horder : other.order = df.order)
    (hsettings : other.settings = df.settings) {call : Grouping}
    (h : ∀ keys ∈ call.keyLists, ∀ key ∈ keys, other.resolveKey key = df.resolveKey key) :
    other.partitionFor call = df.partitionFor call := by
  cases call with
  | groupBy keys | cube keys | rollup keys =>
    rw [partitionFor, partitionFor, resolve_congr (h keys (List.mem_singleton_self _))]
  | groupingSets lists | groupingLists lists =>
    have hlists : other.resolveLists lists = df.resolveLists lists := resolveLists_congr h
    rw [partitionFor, partitionFor, hlists]
  | window keys frame minValues =>
    exact windowFor_congr horder hsettings (h keys (List.mem_singleton_self _)) frame minValues
  | rolling size minPeriods centred =>
    rw [partitionFor, partitionFor, windowFor_congr horder hsettings (List.forall_mem_nil _)]
  | expanding minPeriods => exact windowFor_congr horder hsettings (List.forall_mem_nil _) _ _

end Congruence

theorem isWindow_of_windowFor {df : DataFrame} {keys : List GroupKey} {frame : Option Frame}
    {minValues : Option UInt32} {p : Partition} (h : df.windowFor keys frame minValues = .ok p) :
    p.isWindow = true := by
  obtain ⟨columns, window, -, -, rfl⟩ := windowFor_eq_ok h
  rfl

/-- The calls that keep the rows are those that ask for a window. -/
theorem isWindow_of_partitionFor {df : DataFrame} {call : Grouping} {p : Partition}
    (h : df.partitionFor call = .ok p) : p.isWindow = call.keepsRows := by
  rw [Partition.isWindow]
  cases call with
  | groupBy keys =>
    obtain ⟨columns, -, h⟩ := Outcome.bind_eq_ok h
    rw [(Partition.groupBy_eq_ok h).2]
    rfl
  | cube keys =>
    obtain ⟨columns, -, h⟩ := Outcome.bind_eq_ok h
    rw [(Partition.cube_eq_ok h).2.1]
    rfl
  | rollup keys =>
    obtain ⟨columns, -, h⟩ := Outcome.bind_eq_ok h
    rw [(Partition.rollup_eq_ok h).2.1]
    rfl
  | groupingSets lists =>
    obtain ⟨children, -, h⟩ := Outcome.bind_eq_ok h
    rw [(Partition.groupingSet_eq_ok h).2]
    rfl
  | groupingLists lists =>
    obtain ⟨children, -, h⟩ := Outcome.bind_eq_ok h
    rw [(Partition.groupingList_eq_ok h).2]
    rfl
  | window keys frame minValues => exact isWindow_of_windowFor h
  | rolling size minPeriods centred => exact isWindow_of_windowFor (windowFor_of_rolling h)
  | expanding minPeriods => exact isWindow_of_windowFor h

/-! ## The same data -/

theorem dataUnder_eq (data index : Columns) (p : Partition) :
    dataUnder data index p =
      Keyed.mapValues (fun s => { s with index := index, partition := some p })
        (data.filter fun entry => !Keyed.contains entry.1 index) := rfl

/-- The columns that a partition hides may be left out before they are hidden. -/
theorem dataUnder_pick (labels : List String) (data index : Columns) (p : Partition) :
    dataUnder (Keyed.ofList (Keyed.pick labels data)) index p =
      Keyed.ofList (Keyed.pick (labels.filter fun label => !Keyed.contains label index)
        (dataUnder data index p)) := by
  rw [dataUnder_eq, dataUnder_eq,
    Keyed.filter_ofList_pick fun label => !Keyed.contains label index, Keyed.mapValues_ofList_pick]

/-- What a partition does not hide is there under it. -/
theorem mem_keys_dataUnder {data index : Columns} (p : Partition) {name : String}
    (hname : name ∈ Keyed.keys data) (hfree : !Keyed.contains name index) :
    name ∈ Keyed.keys (dataUnder data index p) := by
  obtain ⟨entry, hentry, rfl⟩ := List.mem_map.mp hname
  have hkept : entry ∈ data.filter fun entry => !Keyed.contains entry.1 index :=
    List.mem_filter.mpr ⟨hentry, hfree⟩
  exact List.mem_map.mpr ⟨_, List.mem_map.mpr ⟨entry, hkept, rfl⟩, rfl⟩

section Selection

variable {df : DataFrame} {labels : List String}

/-- A partition goes together with a selection, whatever the partition. -/
theorem applyPartition_project {call : Grouping} {p : Partition}
    (hp : p.isWindow = call.keepsRows) :
    (df.project labels).applyPartition p = (df.applyPartition p).map fun next =>
      next.project (call.labelsUnder next.index labels) := by
  have hproject : (df.project labels).partition = df.partition := rfl
  rw [applyPartition, applyPartition, hproject]
  cases df.partition with
  | some current => rfl
  | none =>
    dsimp only
    split
    · next hwindow =>
      have hdata : ∀ data : Columns,
          (data.map fun entry => (entry.1, { entry.2 with partition := some p })) =
            Keyed.mapValues (fun s => { s with partition := some p }) data := fun data => rfl
      have hrows : call.keepsRows = true := hp.symm.trans hwindow
      simp only [hdata, Except.map, Grouping.labelsUnder_of_rows _ _ hrows, project,
        Keyed.mapValues_ofList_pick]
    · next hwindow =>
      have hgroups : call.keepsRows = false := hp.symm.trans (Bool.eq_false_iff.mpr hwindow)
      simp only [Except.map, Grouping.labelsUnder_of_groups _ _ hgroups, project, dataUnder_pick]

/-- **A call that looks up nothing but what is selected** gives the same dataframe after the
selection, but for the columns that were not selected. -/
theorem partitioned_project {call : Grouping}
    (hkeys : ∀ keys ∈ call.keyLists, ∀ name, .label name ∈ keys → df.Survives labels name) :
    (df.project labels).partitioned call = (df.partitioned call).map fun next =>
      next.project (call.labelsUnder next.index labels) := by
  have hsame : (df.project labels).partitionFor call = df.partitionFor call := by
    have horder : (df.project labels).order = df.order := rfl
    have hsettings : (df.project labels).settings = df.settings := rfl
    refine partitionFor_congr horder hsettings fun keys hlist key hkey => ?_
    exact resolveKey_project fun name hname => hkeys keys hlist name (hname ▸ hkey)
  rw [partitioned_eq, partitioned_eq, hsame]
  cases hp : df.partitionFor call with
  | error fault => rfl
  | ok p => exact applyPartition_project (isWindow_of_partitionFor hp)

/-- Sorting by what is selected, likewise. -/
theorem sortBy_project {names : List String} (hnames : ∀ name ∈ names, df.Survives labels name)
    (ascending : List Bool) :
    (df.project labels).sortBy names ascending =
      (df.sortBy names ascending).map fun sorted => sorted.project labels := by
  have hcolumns : names.mapM (df.project labels).column = names.mapM df.column :=
    Outcome.mapM_congr fun name hname => column_project (hnames name hname)
  rw [sortBy, sortBy]
  split
  · rfl
  · rw [hcolumns]
    cases names.mapM df.column <;> rfl

/-- The labels that are left after a call can be selected then. -/
theorem mem_dataColumns_of_partitioned (hlabels : ∀ label ∈ labels, label ∈ df.dataColumns)
    {call : Grouping} {next : DataFrame} (h : df.partitioned call = .ok next) :
    ∀ label ∈ call.labelsUnder next.index labels, label ∈ next.dataColumns := by
  obtain ⟨p, hp, happly⟩ := partitioned_eq_ok h
  have hkeeps := isWindow_of_partitionFor hp
  obtain ⟨-, ⟨hwindow, rfl⟩ | ⟨hgroups, rfl⟩⟩ := applyPartition_eq_ok happly
  · rw [Grouping.labelsUnder_of_rows _ _ (hkeeps.symm.trans hwindow)]
    intro label hlabel
    obtain ⟨entry, hentry, rfl⟩ := List.mem_map.mp (hlabels label hlabel)
    exact List.mem_map.mpr ⟨_, List.mem_map.mpr ⟨entry, hentry, rfl⟩, rfl⟩
  · rw [Grouping.labelsUnder_of_groups _ _ (hkeeps.symm.trans hgroups)]
    intro label hlabel
    obtain ⟨hlabel, hfree⟩ := List.mem_filter.mp hlabel
    exact mem_keys_dataUnder p (hlabels label hlabel) hfree

/-- **Selecting goes together with partitioning and with sorting.** Columns of a dataframe may be
selected first, if what is looked up afterwards is selected, or is no data column anyway. A call for
a partition is then refused for the same reason as before, and otherwise gives what it gave before,
with as many of the selected columns as are left under it. Sorting is refused alike as well, and
leaves all of them. -/
theorem partitioned_select (hlabels : ∀ label ∈ labels, label ∈ df.dataColumns) :
    ∃ selected, df.select labels = .ok selected ∧
      (∀ call : Grouping,
        (∀ keys ∈ call.keyLists, ∀ name, .label name ∈ keys → df.Survives labels name) →
        (∀ fault, selected.partitioned call = .error fault ↔
          df.partitioned call = .error fault) ∧
        ∀ next, df.partitioned call = .ok next → ∃ projected,
          next.select (call.labelsUnder next.index labels) = .ok projected ∧
            selected.partitioned call = .ok projected) ∧
      ∀ names ascending, (∀ name ∈ names, df.Survives labels name) →
        (∀ fault, selected.sortBy names ascending = .error fault ↔
          df.sortBy names ascending = .error fault) ∧
        ∀ sorted, df.sortBy names ascending = .ok sorted → ∃ projected,
          sorted.select labels = .ok projected ∧
            selected.sortBy names ascending = .ok projected := by
  refine ⟨_, select_eq hlabels, fun call hkeys => ?_, fun names ascending hnames => ?_⟩
  · rw [partitioned_project hkeys]
    refine ⟨fun fault => Outcome.map_eq_error_iff, fun next hnext => ?_⟩
    rw [hnext]
    exact ⟨_, select_eq (mem_dataColumns_of_partitioned hlabels hnext), rfl⟩
  · rw [sortBy_project hnames]
    refine ⟨fun fault => Outcome.map_eq_error_iff, fun sorted hsorted => ?_⟩
    have hthere : ∀ label ∈ labels, label ∈ sorted.dataColumns := by
      rw [sortBy_eq_ok hsorted]
      exact hlabels
    rw [hsorted]
    exact ⟨_, select_eq hthere, rfl⟩

end Selection

/-- Columns that are selected in another order, one of them twice, before rows are grouped by one of
them and the index, or sorted by both. Of the selected columns one is left beside the groups. A
column that was not selected cannot be grouped by any more. -/
theorem partitioned_select_repeated :
    let df := Sample.dataFrame ["a"] ["b", "c", "d"]
    let call := Grouping.cube [.label "c", .label "a"]
    ∃ selected grouped projected sorted, df.select ["c", "b", "c"] = .ok selected ∧
      selected.dataColumns = ["c", "b"] ∧
      df.partitioned call = .ok grouped ∧ grouped.dataColumns = ["b", "d"] ∧
      grouped.select ["b"] = .ok projected ∧ selected.partitioned call = .ok projected ∧
      selected.sortBy ["c", "a"] [true, false] = .ok sorted ∧ sorted.dataColumns = ["c", "b"] ∧
      selected.partitioned (.groupBy [.label "d"]) = .error (.dataFrame (.unknownColumn "d")) := by
  intro df call
  have hlabels : ∀ label ∈ ["c", "b", "c"], label ∈ df.dataColumns := by decide
  have hsurvives : ∀ name ∈ ["c", "a"], df.Survives ["c", "b", "c"] name := by
    have ha : "a" ∉ df.dataColumns := by decide
    simp [Survives, ha]
  have hkeys : ∀ keys ∈ call.keyLists, ∀ name, .label name ∈ keys →
      df.Survives ["c", "b", "c"] name := by
    intro keys hkeys name hname
    obtain rfl := List.mem_singleton.mp hkeys
    exact hsurvives name (by simpa using hname)
  obtain ⟨selected, hselected, hcalls, hsorts⟩ := partitioned_select hlabels
  obtain ⟨projected, hprojected, hgrouped⟩ := (hcalls call hkeys).2 _ rfl
  obtain ⟨sorted, hsorted, hsort⟩ := (hsorts ["c", "a"] [true, false] hsurvives).2 _ rfl
  obtain rfl := Except.ok.inj hselected
  obtain rfl := Except.ok.inj hsorted
  exact ⟨_, _, projected, _, rfl, by decide +kernel, rfl, by decide +kernel, hprojected, hgrouped,
    hsort, by decide +kernel, rfl⟩

end DataFrame

end QueryFrame
