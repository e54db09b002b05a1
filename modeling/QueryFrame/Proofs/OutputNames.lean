import Mathlib.Data.List.Nodup
import Mathlib.Data.List.Perm.Basic
import QueryFrame.Proofs.Projection
import QueryFrame.Proofs.Rendering
import QueryFrame.Proofs.SelectList

/-!
# Names in the select list

The select list of a dataframe has an item for each column, under the name of the column, and for a
composite one item for each level, under a name made of both (`DataFrame.outputNames`). Names of
columns never meet, provided that they differ to begin with: names that are stored differ, and a
column that rows are grouped on takes the place of a data column of its name
(`DataFrame.Distinct`).

The names of levels are only put together in the select list, where nothing is compared with them.
So they may meet one another and the names of columns, and nothing else can go wrong
(`DataFrame.nodup_outputNames_iff`). Data columns have no levels, so nothing goes wrong before rows
are grouped, nor after that if what they are grouped on has none.
-/

namespace QueryFrame

/-! ## The names of items -/

/-- The name of an item: its alias, or else that of the column which it is. -/
def Expr.outputName? (e : Expr) : Option String :=
  match e.tokens with
  | [.column name] => some name
  | [_, .raw " as ", .nested _ [.identifier name]] => some name
  | _ => none

/-- An alias is the name. -/
theorem Expr.outputName?_aliased {e item : Expr} {name : String} (h : e.aliased name = .ok item) :
    item.outputName? = some name := by
  obtain ⟨-, rfl⟩ := construct_eq_ok h
  rfl

namespace Series

/-- The names of the items for a series. -/
def outputNames (s : Series) : List String :=
  if s.isComposite then s.levels.map fun level => s.levelName level.1 else [s.name]

/-- A series on its own is selected under its name, with an alias or without. -/
theorem outputName?_selectItem {s : Series} {item : Expr} (h : s.selectItem = .ok item) :
    item.outputName? = some s.name := by
  rw [selectItem] at h
  split at h
  · next hcolumn =>
    rw [← Except.ok.inj h, hcolumn]
    rfl
  · exact Expr.outputName?_aliased h

/-- And its levels under names that are put together. -/
theorem outputName?_levelItems {s : Series} {items : List Expr} (h : s.levelItems = .ok items) :
    items.map Expr.outputName? = s.levels.map fun level => some (s.levelName level.1) := by
  replace h := Outcome.mapM_eq_ok h
  generalize s.levels = levels at h
  induction h with
  | nil => rfl
  | cons hitem _ ih => rw [List.map_cons, List.map_cons, ih, Expr.outputName?_aliased hitem]

theorem outputName?_ownItems {s : Series} {items : List Expr} (h : s.ownItems false = .ok items) :
    items.map Expr.outputName? = s.outputNames.map some := by
  rw [ownItems, Bool.not_false, Bool.and_true] at h
  rw [outputNames]
  split at h
  · next hcomposite =>
    rw [if_pos hcomposite, outputName?_levelItems h, List.map_map]
    rfl
  · next hsingle =>
    obtain ⟨item, hitem, rfl⟩ := Outcome.map_eq_ok h
    rw [if_neg hsingle, List.map_singleton, outputName?_selectItem hitem]
    rfl

/-- **Every item of a select list has a name**, and these are the names of the series in order. -/
theorem outputName?_selectItems {columns : List Series} {items : List Expr}
    (h : selectItems false columns = .ok items) :
    items.map Expr.outputName? = (columns.flatMap outputNames).map some := by
  induction columns generalizing items with
  | nil =>
    obtain rfl := Except.ok.inj h
    rfl
  | cons s rest ih =>
    rw [selectItems_cons] at h
    obtain ⟨own, hown, h⟩ := Outcome.bind_eq_ok h
    obtain ⟨others, hothers, h⟩ := Outcome.bind_eq_ok h
    rw [← Outcome.pure_eq_ok h, List.map_append, outputName?_ownItems hown, ih hothers,
      List.flatMap_cons, List.map_append]

end Series

namespace DataFrame

/-- The columns of a dataframe: the index, then the data. -/
def columns (df : DataFrame) : List Series :=
  Keyed.values df.index ++ Keyed.values df.data

/-- The names of the select list. -/
def outputNames (df : DataFrame) : List String :=
  df.columns.flatMap Series.outputNames

/-- The names of the columns that are no composites. -/
def plainNames (df : DataFrame) : List String :=
  (df.columns.filter fun s => !s.isComposite).map Series.name

/-- The names that levels of composites go by. -/
def levelNames (df : DataFrame) : List String :=
  (df.columns.filter Series.isComposite).flatMap fun s =>
    s.levels.map fun level => s.levelName level.1

/-- Every name in the select list is either of a column or of a level. -/
theorem outputNames_perm (df : DataFrame) :
    df.outputNames.Perm (df.plainNames ++ df.levelNames) := by
  rw [outputNames, plainNames, levelNames]
  induction df.columns with
  | nil => exact .nil
  | cons s rest ih =>
    rw [List.flatMap_cons, Series.outputNames, List.filter_cons, List.filter_cons]
    -- the levels of a composite move behind the columns that follow it
    cases hcomposite : s.isComposite with
    | true => exact (ih.append_left _).trans (List.perm_append_comm_assoc _ _ _)
    | false => exact ih.cons s.name

/-- **When names meet.** Columns that differ in their names can only meet levels, and levels one
another. -/
theorem nodup_outputNames (df : DataFrame) (hplain : df.plainNames.Nodup) :
    df.outputNames.Nodup ↔
      df.levelNames.Nodup ∧ ∀ name ∈ df.levelNames, name ∉ df.plainNames := by
  rw [df.outputNames_perm.nodup_iff, List.nodup_append']
  constructor
  · rintro ⟨-, hlevels, hdisjoint⟩
    exact ⟨hlevels, fun name hlevel hname => hdisjoint hname hlevel⟩
  · rintro ⟨hlevels, hapart⟩
    exact ⟨hplain, hlevels, fun name hname hlevel => hapart name hlevel hname⟩

/-! ## Names along a run -/

/-- The columns of a dataframe do not meet. -/
structure Distinct (df : DataFrame) : Prop where
  /-- no two are stored under one name -/
  names : (Keyed.keys df.index ++ Keyed.keys df.data).Nodup
  /-- only what rows are grouped on can have levels -/
  data : ∀ entry ∈ df.data, entry.2.levels = []
  /-- and only if there is such a thing -/
  index : (∀ p, df.partition = some p → p.isWindow = true) → ∀ entry ∈ df.index, entry.2.levels = []

namespace Distinct

variable {df next : DataFrame}

theorem ofRelation {relation : Relation} {settings : Settings}
    {index data : List (String × DataType)}
    (hnames : (index.map Prod.fst ++ data.map Prod.fst).Nodup) :
    (DataFrame.ofRelation relation settings index data).Distinct := by
  have hkeys : ∀ fields : List (String × DataType), (fields.map Prod.fst).Nodup →
      Keyed.keys (columnsOf relation fields) = fields.map Prod.fst := by
    intro fields hfields
    have hown := Keyed.keys_map Prod.fst
      (fun field : String × DataType => Series.ofColumn relation field.1 field.2) fields
    rw [columnsOf, Keyed.ofList_of_nodup (hown ▸ hfields), hown]
  have hlevels : ∀ fields, ∀ entry ∈ columnsOf relation fields, entry.2.levels = [] := by
    intro fields entry hentry
    obtain ⟨field, -, rfl⟩ := List.mem_map.mp (Keyed.mem_of_mem_ofList hentry)
    rfl
  obtain ⟨hindex, hdata, -⟩ := List.nodup_append.mp hnames
  refine ⟨?_, fun entry hentry => ?_, fun _ => hlevels index⟩
  · have hstored : Keyed.keys (DataFrame.ofRelation relation settings index data).data =
        Keyed.keys (columnsOf relation data) :=
      Keyed.keys_mapValues (fun s : Series => { s with index := columnsOf relation index }) _
    have hown : (DataFrame.ofRelation relation settings index data).index =
        columnsOf relation index := rfl
    rw [hstored, hown, hkeys index hindex, hkeys data hdata]
    exact hnames
  · obtain ⟨own, hown, rfl⟩ := List.mem_map.mp hentry
    exact hlevels data own hown

/-- Fewer data columns do not meet either. -/
theorem select (hdf : df.Distinct) {names : List String} (h : df.select names = .ok next) :
    next.Distinct := by
  have hkeys : (Keyed.keys next.data).Nodup := by
    obtain ⟨columns, -, h⟩ := Outcome.bind_eq_ok h
    rw [← Outcome.pure_eq_ok h]
    exact Keyed.nodup_keys_ofList columns
  obtain ⟨hsub, hnext⟩ := select_eq_ok h
  rw [hnext]
  refine ⟨?_, fun entry hentry => hdf.data entry (hsub entry hentry), hdf.index⟩
  obtain ⟨hindex, -, hapart⟩ := List.nodup_append'.mp hdf.names
  refine List.nodup_append'.mpr ⟨hindex, hkeys, fun name hname hdata => hapart hname ?_⟩
  obtain ⟨entry, hentry, rfl⟩ := List.mem_map.mp hdata
  exact List.mem_map_of_mem (hsub entry hentry)

/-- A partition takes away the data columns that it would meet. -/
theorem applyPartition (hdf : df.Distinct) {p : Partition} (hp : (Keyed.keys p.columns).Nodup)
    (h : df.applyPartition p = .ok next) : next.Distinct := by
  obtain ⟨hnone, ⟨hwindow, rfl⟩ | ⟨hgroups, rfl⟩⟩ := applyPartition_eq_ok h
  · refine ⟨?_, fun entry hentry => ?_, fun _ => hdf.index fun p hp => ?_⟩
    · have hkeys := Keyed.keys_mapValues (fun s => { s with partition := some p }) df.data
      exact hkeys ▸ hdf.names
    · obtain ⟨own, hown, rfl⟩ := List.mem_map.mp hentry
      exact hdf.data own hown
    · rw [hnone] at hp
      cases hp
  · refine ⟨?_, fun entry hentry => ?_, fun hrows => ?_⟩
    · have hkeys : (Keyed.keys (dataUnder df.data p.columns p)).Sublist (Keyed.keys df.data) := by
        rw [dataUnder_eq, Keyed.keys_mapValues]
        exact List.filter_sublist.map Prod.fst
      have hdata := (List.nodup_append.mp hdf.names).2.1
      refine List.nodup_append'.mpr ⟨hp, hdata.sublist hkeys, fun name hname hkept => ?_⟩
      obtain ⟨entry, hentry, rfl⟩ := List.mem_map.mp hkept
      obtain ⟨own, -, hfree, rfl⟩ := mem_of_mem_dataUnder hentry
      exact hfree hname
    · obtain ⟨own, hown, -, rfl⟩ := mem_of_mem_dataUnder hentry
      exact hdf.data own hown
    · cases (hrows p rfl).symm.trans hgroups

/-- **A step keeps columns from meeting.** -/
theorem step (hdf : df.Distinct) (h : Step df next) : next.Distinct := by
  cases h with
  | get h => exact hdf.select (get_labels_eq_ok h)
  | select h => exact hdf.select h
  | sortBy h =>
    rw [sortBy_eq_ok h]
    exact ⟨hdf.names, hdf.data, hdf.index⟩
  | partitioned h =>
    obtain ⟨p, hp, happly⟩ := partitioned_eq_ok h
    exact hdf.applyPartition (Columns.settled_iff.mp (built_of_partitionFor hp).formed.settled).2
      happly

/-- A run keeps them from meeting, if they differ to begin with. -/
theorem run {relation : Relation} {settings : Settings} {index data : List (String × DataType)}
    (hnames : (index.map Prod.fst ++ data.map Prod.fst).Nodup)
    (hrun : Relation.ReflTransGen Step (DataFrame.ofRelation relation settings index data) df) :
    df.Distinct := by
  induction hrun with
  | refl => exact ofRelation hnames
  | tail _ hstep ih => exact ih.step hstep

end Distinct

/-- Columns that do not meet have names that do not. -/
theorem Distinct.nodup_plainNames {df : DataFrame} (hdf : df.Distinct) (hcoherent : df.Coherent) :
    df.plainNames.Nodup := by
  have hname : ∀ columns : Columns, (∀ entry ∈ columns, entry.1 = entry.2.name) →
      (Keyed.values columns).map Series.name = Keyed.keys columns := by
    intro columns hcolumns
    rw [Keyed.values, List.map_map]
    exact List.map_congr_left fun entry hentry => (hcolumns entry hentry).symm
  have hcolumns : df.columns.map Series.name = Keyed.keys df.index ++ Keyed.keys df.data := by
    rw [columns, List.map_append, hname _ fun entry hentry => (hcoherent.index entry hentry).name,
      hname _ fun entry hentry => (hcoherent.data entry hentry).name]
  have hnames := hdf.names
  rw [← hcolumns] at hnames
  exact hnames.sublist (List.filter_sublist.map Series.name)

/-- If the index has no levels, nothing has. -/
theorem Distinct.levelNames_eq_nil {df : DataFrame} (hdf : df.Distinct)
    (hindex : ∀ entry ∈ df.index, entry.2.levels = []) : df.levelNames = [] := by
  have hlevels : ∀ s ∈ df.columns, s.isComposite = false := by
    intro s hs
    have hnone : s.levels = [] := by
      rcases List.mem_append.mp hs with hs | hs
      · obtain ⟨key, hentry⟩ := Keyed.mem_values.mp hs
        exact hindex _ hentry
      · obtain ⟨key, hentry⟩ := Keyed.mem_values.mp hs
        exact hdf.data _ hentry
    rw [Series.isComposite, hnone]
    rfl
  have hfilter : df.columns.filter Series.isComposite = [] :=
    List.filter_eq_nil_iff.mpr fun s hs => Bool.eq_false_iff.mp (hlevels s hs)
  rw [levelNames, hfilter]
  rfl

/-- **The names in the select list differ exactly if those of levels do**, from one another and from
the names of columns. This is so after any run that starts with different names: there is a name for
each item, and the names of columns differ in any case. Data columns have no levels, so there are no
others without groups, or with groups on columns that have none. -/
theorem nodup_outputNames_iff {relation : Relation} {settings : Settings}
    {index data : List (String × DataType)}
    (hnames : (index.map Prod.fst ++ data.map Prod.fst).Nodup) {df : DataFrame}
    (hrun : Relation.ReflTransGen Step (ofRelation relation settings index data) df) :
    ∃ items, df.selectItems = .ok items ∧
      items.map Expr.outputName? = df.outputNames.map some ∧
      ((items.map Expr.outputName?).Nodup ↔
        df.levelNames.Nodup ∧ ∀ name ∈ df.levelNames, name ∉ df.plainNames) ∧
      df.plainNames.Nodup ∧
      ((∀ p, df.partition = some p → p.isWindow = true) →
        (items.map Expr.outputName?).Nodup) ∧
      (∀ entry ∈ df.data, entry.2.levels = []) ∧
      ∀ p, df.partition = some p → (∀ entry ∈ p.columns, entry.2.levels = []) →
        (items.map Expr.outputName?).Nodup := by
  have hdf := Distinct.run hnames hrun
  have hcoherent : df.Coherent := Reachable.coherent ⟨relation, settings, index, data, hrun⟩
  have hplain := hdf.nodup_plainNames hcoherent
  obtain ⟨items, hitems, -⟩ := Series.exists_selectItems df.columns
  have hown := Series.outputName?_selectItems hitems
  have hiff : (items.map Expr.outputName?).Nodup ↔
      df.levelNames.Nodup ∧ ∀ name ∈ df.levelNames, name ∉ df.plainNames := by
    rw [hown, List.nodup_map_iff fun _ _ => Option.some.inj]
    exact df.nodup_outputNames hplain
  have hsingle (hindex : ∀ entry ∈ df.index, entry.2.levels = []) :
      (items.map Expr.outputName?).Nodup := by
    rw [hiff, hdf.levelNames_eq_nil hindex]
    exact ⟨List.nodup_nil, List.forall_mem_nil _⟩
  refine ⟨items, hitems, hown, hiff, hplain, fun hrows => hsingle (hdf.index hrows), hdf.data,
    fun p hp hkeys => hsingle ?_⟩
  cases hwindow : p.isWindow with
  | true =>
    refine hdf.index fun own hown => ?_
    obtain rfl := Option.some.inj (hp.symm.trans hown)
    exact hwindow
  | false =>
    rw [(hcoherent.grouped p hp hwindow).1]
    exact hkeys

/-- A dataframe that is grouped on an interval. -/
theorem nodup_outputNames_iff_interval :
    let lower := Sample.series Sample.relation "lower"
    let upper := Sample.series Sample.relation "upper"
    ∃ range df items,
      Series.composite Sample.relation "range" .numericInterval [lower, upper] = .ok range ∧
      (Sample.dataFrame ["a"] ["lower", "upper"]).groupBy [.series range] = .ok df ∧
      df.selectItems = .ok items ∧ (items.map Expr.outputName?).Nodup ∧
      items.map Expr.outputName? =
        ["range__lower", "range__upper", "lower", "upper"].map some := by
  intro lower upper
  let range := Sample.pair "range" .numericInterval lower upper
  let p : Partition := ⟨[("range", range)], .plain⟩
  let df : DataFrame := { Sample.dataFrame ["a"] ["lower", "upper"] with
    index := p.columns
    data := [lower, upper].map fun s => (s.name, { s with index := p.columns, partition := some p })
    partition := some p }
  have hdf : (Sample.dataFrame ["a"] ["lower", "upper"]).groupBy [.series range] = .ok df := rfl
  have hnames : ((Sample.fields ["a"]).map Prod.fst ++
      (Sample.fields ["lower", "upper"]).map Prod.fst).Nodup := by decide
  obtain ⟨items, hitems, hown, hiff, -⟩ := nodup_outputNames_iff hnames
    (.single (@Step.partitioned _ (.groupBy [.series range]) _ hdf))
  have hlevels : df.levelNames.Nodup ∧ ∀ name ∈ df.levelNames, name ∉ df.plainNames := by
    decide +kernel
  exact ⟨range, df, items, by decide +kernel, hdf, hitems, hiff.mpr hlevels, hown⟩

/-- The same where a data column is called like a level. -/
theorem level_meets_column :
    let lower := Sample.series Sample.relation "lower"
    let upper := Sample.series Sample.relation "upper"
    ["lower", "upper", "range__lower"].Nodup ∧ ∃ range df items,
      Series.composite Sample.relation "range" .numericInterval [lower, upper] = .ok range ∧
      (Sample.dataFrame [] ["lower", "upper", "range__lower"]).groupBy [.series range] = .ok df ∧
      df.selectItems = .ok items ∧ ¬ (items.map Expr.outputName?).Nodup ∧
      items.map (Expr.text ⟨.rowStore, none⟩) = ["\"lower\" as \"range__lower\"",
        "\"upper\" as \"range__upper\"", "\"lower\"", "\"upper\"", "\"range__lower\""] := by
  intro lower upper
  let range := Sample.pair "range" .numericInterval lower upper
  let p : Partition := ⟨[("range", range)], .plain⟩
  let df : DataFrame := { Sample.dataFrame [] ["lower", "upper", "range__lower"] with
    index := p.columns
    data := [lower, upper, Sample.series Sample.relation "range__lower"].map fun s =>
      (s.name, { s with index := p.columns, partition := some p })
    partition := some p }
  let items : List Expr := [Sample.aliased lower.expr "range__lower",
    Sample.aliased upper.expr "range__upper", .column "lower", .column "upper",
    .column "range__lower"]
  exact ⟨by decide, range, df, items, by decide +kernel, rfl, by decide +kernel⟩

end DataFrame

end QueryFrame
