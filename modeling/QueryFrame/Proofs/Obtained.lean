import QueryFrame.Proofs.Throughout

/-!
# What holds throughout everything that can be obtained

The operations on partitions and dataframes keep what is kept of series and expressions, and so
does every sequence of operations (`Obtained.throughout`). A partition is moved to another relation
member by member, so that proof is an induction on the partition. Everything else follows from the
inversions, since columns are either looked up in what is there or brought along.
-/

namespace QueryFrame

variable {supply : Supply} {S : Series → Prop} {E : Expr → Prop}

namespace Throughout

/-! ## Looking things up -/

theorem column {df : DataFrame} (hdf : Throughout S E (.dataFrame df)) {name : String} {s : Series}
    (h : df.column name = .ok s) : Throughout S E (.series s) := by
  rcases DataFrame.column_eq_ok h with hdata | hindex
  · exact hdf.part (.frameData hdata)
  · exact hdf.part (.frameIndex hindex)

theorem select {df next : DataFrame} (hdf : Throughout S E (.dataFrame df)) {names : List String}
    (h : df.select names = .ok next) : Throughout S E (.dataFrame next) := by
  obtain ⟨hsub, hnext⟩ := DataFrame.select_eq_ok h
  rw [hnext]
  cases hdf with
  | dataFrame index data order partition =>
    exact .dataFrame index (fun entry hentry => data entry (hsub entry hentry)) order partition

theorem sortBy {df next : DataFrame} (hdf : Throughout S E (.dataFrame df)) {names : List String}
    {ascending : List Bool} (h : df.sortBy names ascending = .ok next) :
    Throughout S E (.dataFrame next) := by
  rw [DataFrame.sortBy] at h
  split at h
  · cases h
  · obtain ⟨columns, hcolumns, h⟩ := Outcome.bind_eq_ok h
    obtain rfl := Outcome.pure_eq_ok h
    refine .dataFrame (fun entry hentry => hdf.part (.frameIndex hentry))
      (fun entry hentry => hdf.part (.frameData hentry)) (fun key hkey => ?_)
      fun p hp => hdf.part (.framePartition hp)
    obtain ⟨⟨s, flag⟩, hs, rfl⟩ := List.mem_map.mp hkey
    obtain ⟨name, -, hname⟩ := Outcome.mem_of_mapM_eq_ok hcolumns (List.of_mem_zip hs).1
    exact (hdf.column hname).own_expr

/-- What keys stand for is looked up in the dataframe or brought along. -/
theorem resolve {df : DataFrame} (hdf : Throughout S E (.dataFrame df)) {keys : List GroupKey}
    {columns : List Series}
    (hkeys : ∀ s ∈ keys.filterMap GroupKey.series?, Throughout S E (.series s))
    (h : df.resolve keys = .ok columns) : ∀ column ∈ columns, Throughout S E (.series column) := by
  intro column hcolumn
  rcases DataFrame.mem_of_resolve h hcolumn with ⟨name, hname⟩ | ⟨hkey, -⟩
  · exact hdf.column hname
  · exact hkeys column (List.mem_filterMap.mpr ⟨_, hkey, rfl⟩)

section
variable (kept : Kept supply S E)
include kept

/-! ## Partitions -/

/-- **What is grouped on** has passed the check, and nothing of it is lost that matters. -/
theorem grouped {columns : List Series} {grouped : Columns}
    (hcolumns : ∀ column ∈ columns, Throughout S E (.series column))
    (h : Columns.group columns = .ok grouped) :
    ∀ entry ∈ grouped, entry.2.groupingFault? = none ∧ Throughout S E (.series entry.2) := by
  intro entry hentry
  obtain ⟨column, hcolumn, hvalid, rfl⟩ := Columns.mem_of_group h hentry
  exact ⟨hvalid, asKey kept (hcolumns column hcolumn)⟩

theorem merged {children : List Partition} {columns : Columns}
    (hchildren : ∀ child ∈ children, Throughout S E (.partition child))
    (h : Partition.mergedColumns children = .ok columns) :
    ∀ entry ∈ columns, entry.2.groupingFault? = none ∧ Throughout S E (.series entry.2) := by
  obtain ⟨merged, hgroup, hmerged⟩ := Partition.mergedColumns_eq_ok h
  refine grouped kept (fun column hcolumn => ?_) hgroup
  obtain ⟨child, hchild, key, hentry⟩ := hmerged column hcolumn
  exact (hchildren child hchild).part (.column hentry)

theorem groupBy {columns : List Series} {p : Partition}
    (hcolumns : ∀ column ∈ columns, Throughout S E (.series column))
    (h : Partition.groupBy columns = .ok p) : Throughout S E (.partition p) := by
  obtain ⟨hgroup, hshape⟩ := Partition.groupBy_eq_ok h
  exact .partition_flat (.inl hshape) (grouped kept hcolumns hgroup)

theorem cube {columns : List Series} {p : Partition}
    (hcolumns : ∀ column ∈ columns, Throughout S E (.series column))
    (h : Partition.cube columns = .ok p) : Throughout S E (.partition p) := by
  obtain ⟨hgroup, hshape, -⟩ := Partition.cube_eq_ok h
  exact .partition_flat (.inr (.inl hshape)) (grouped kept hcolumns hgroup)

theorem rollup {columns : List Series} {p : Partition}
    (hcolumns : ∀ column ∈ columns, Throughout S E (.series column))
    (h : Partition.rollup columns = .ok p) : Throughout S E (.partition p) := by
  obtain ⟨hgroup, hshape, -⟩ := Partition.rollup_eq_ok h
  exact .partition_flat (.inr (.inr hshape)) (grouped kept hcolumns hgroup)

theorem groupingList {children : List Partition} {p : Partition}
    (hchildren : ∀ child ∈ children, Throughout S E (.partition child))
    (h : Partition.groupingList children = .ok p) : Throughout S E (.partition p) := by
  obtain ⟨hmerged, hshape⟩ := Partition.groupingList_eq_ok h
  exact .partition_list (.inl hshape) hchildren (merged kept hchildren hmerged)

theorem groupingSet {children : List Partition} {p : Partition}
    (hchildren : ∀ child ∈ children, Throughout S E (.partition child))
    (h : Partition.groupingSet children = .ok p) : Throughout S E (.partition p) := by
  obtain ⟨hmerged, hshape⟩ := Partition.groupingSet_eq_ok h
  exact .partition_list (.inr hshape) hchildren (merged kept hchildren hmerged)

theorem window {columns : List Series} {order : List SortKey} {frame : Frame}
    {minValues : Option UInt32} {w : Window}
    (hcolumns : ∀ column ∈ columns, Throughout S E (.series column))
    (horder : ∀ key ∈ order, E key.expr) (h : Window.make columns order frame minValues = .ok w) :
    Throughout S E (.partition w.partition) := by
  obtain ⟨hgroup, hspec, hcheck⟩ := Window.make_eq_ok h
  refine .partition_window ⟨fun key hkey => ?_, .inr ⟨frame, _, hcheck⟩⟩
    (grouped kept hcolumns hgroup)
  rw [hspec] at hkey
  exact horder key hkey

/-- A window with another frame is a window made again from its parts. -/
theorem withFrame {w next : Window} {frame : Frame} (hw : Throughout S E (.partition w.partition))
    (h : w.withFrame frame = .ok next) : Throughout S E (.partition next.partition) := by
  refine window kept (fun column hcolumn => ?_) hw.window_spec.order h
  obtain ⟨key, hentry⟩ := Keyed.mem_values.mp hcolumn
  exact (hw.columns_of _ hentry).2

theorem rebindColumns {columns moved : Columns} {relation : Relation}
    (hcolumns : ∀ entry ∈ columns, Throughout S E (.series entry.2))
    (h : Columns.rebind relation columns = .ok moved) :
    ∀ entry ∈ moved, entry.2.groupingFault? = none ∧ Throughout S E (.series entry.2) := by
  refine grouped kept (fun column hcolumn => ?_) h
  obtain ⟨own, hown, rfl⟩ := List.mem_map.mp hcolumn
  obtain ⟨key, hentry⟩ := Keyed.mem_values.mp hown
  exact rebind kept (hcolumns _ hentry) relation

/-- A partition over another relation. The induction is on the partition, down its members. -/
theorem rebindPartition {p next : Partition} {relation : Relation}
    (hp : Throughout S E (.partition p)) (h : p.rebind relation = .ok next) :
    Throughout S E (.partition next) := by
  generalize ha : Artifact.partition p = a at hp
  induction hp generalizing p next with
  | partition valid columns children spec _ ihchildren =>
    obtain rfl := Artifact.partition.inj ha
    have hvalues : ∀ {moved : Columns}, Columns.rebind relation p.columns = .ok moved →
        ∀ column ∈ Keyed.values moved, Throughout S E (.series column) := by
      intro moved hmoved column hcolumn
      obtain ⟨key, hentry⟩ := Keyed.mem_values.mp hcolumn
      exact (rebindColumns kept columns hmoved _ hentry).2
    have hmembers : ∀ {moved : List Partition},
        Partition.rebindAll relation p.children = .ok moved →
        ∀ child ∈ moved, Throughout S E (.partition child) := by
      intro moved hmoved child hchild
      obtain ⟨own, hown, hrebind⟩ := Partition.mem_of_rebindAll hmoved hchild
      exact ihchildren own hown hrebind rfl
    -- whatever the shape, the partition is formed again from what was moved
    obtain ⟨own, shape⟩ := p
    cases shape with
    | plain =>
      rw [Partition.rebind] at h
      obtain ⟨moved, hmoved, h⟩ := Outcome.bind_eq_ok h
      obtain rfl := Outcome.pure_eq_ok h
      exact .partition_flat (.inl rfl) (rebindColumns kept columns hmoved)
    | cube =>
      rw [Partition.rebind] at h
      obtain ⟨moved, hmoved, h⟩ := Outcome.bind_eq_ok h
      exact cube kept (hvalues hmoved) h
    | rollup =>
      rw [Partition.rebind] at h
      obtain ⟨moved, hmoved, h⟩ := Outcome.bind_eq_ok h
      exact rollup kept (hvalues hmoved) h
    | lists members =>
      rw [Partition.rebind] at h
      obtain ⟨moved, hmoved, h⟩ := Outcome.bind_eq_ok h
      exact groupingList kept (hmembers hmoved) h
    | sets members =>
      rw [Partition.rebind] at h
      obtain ⟨moved, hmoved, h⟩ := Outcome.bind_eq_ok h
      exact groupingSet kept (hmembers hmoved) h
    | window own =>
      rw [Partition.rebind] at h
      obtain ⟨moved, hmoved, h⟩ := Outcome.bind_eq_ok h
      obtain rfl := Outcome.pure_eq_ok h
      exact partition_window (w := ⟨moved, own⟩) (spec own rfl) (rebindColumns kept columns hmoved)
  | _ => cases ha

/-! ## Dataframes -/

theorem ofRelation {relation : Relation} {settings : Settings}
    {index data : List (String × DataType)} (hindex : ∀ field ∈ index, supply.text field.1)
    (hdata : ∀ field ∈ data, supply.text field.1) :
    Throughout S E (.dataFrame (.ofRelation relation settings index data)) := by
  have hcolumns : ∀ {fields : List (String × DataType)}, (∀ field ∈ fields, supply.text field.1) →
      ∀ entry ∈ DataFrame.columnsOf relation fields, Throughout S E (.series entry.2) := by
    intro fields hfields entry hentry
    obtain ⟨field, hfield, rfl⟩ := List.mem_map.mp (Keyed.mem_of_mem_ofList hentry)
    exact single kept (hfields field hfield) (kept.column (hfields field hfield))
  refine .dataFrame (hcolumns hindex) (fun entry hentry => ?_) (fun key hkey => ?_) fun p hp => ?_
  · obtain ⟨own, hown, rfl⟩ := List.mem_map.mp hentry
    exact surrounded kept (hcolumns hdata own hown) (hcolumns hindex) fun p hp =>
      (hcolumns hdata own hown).part (.partition hp)
  · cases hkey
  · cases hp

theorem resolveLists {df : DataFrame} (hdf : Throughout S E (.dataFrame df))
    {lists : List (List GroupKey)} {children : List Partition}
    (hkeys : ∀ s ∈ lists.flatten.filterMap GroupKey.series?, Throughout S E (.series s))
    (h : df.resolveLists lists = .ok children) :
    ∀ child ∈ children, Throughout S E (.partition child) := by
  intro child hchild
  obtain ⟨keys, hmem, columns, hcolumns, hgroup⟩ := DataFrame.mem_of_resolveLists h hchild
  refine groupBy kept (hdf.resolve (fun s hs => hkeys s ?_) hcolumns) hgroup
  obtain ⟨key, hkey, hseries⟩ := List.mem_filterMap.mp hs
  exact List.mem_filterMap.mpr ⟨key, List.mem_flatten.mpr ⟨keys, hmem, hkey⟩, hseries⟩

theorem windowFor {df : DataFrame} (hdf : Throughout S E (.dataFrame df)) {keys : List GroupKey}
    {frame : Option Frame} {minValues : Option UInt32} {p : Partition}
    (hkeys : ∀ s ∈ keys.filterMap GroupKey.series?, Throughout S E (.series s))
    (h : df.windowFor keys frame minValues = .ok p) : Throughout S E (.partition p) := by
  obtain ⟨columns, w, hcolumns, hw, rfl⟩ := DataFrame.windowFor_eq_ok h
  exact window kept (hdf.resolve hkeys hcolumns)
    (fun key hkey => (hdf.part (.frameOrder hkey)).expr_of) hw

/-- The partition that a call asks for. -/
theorem partitionFor {df : DataFrame} (hdf : Throughout S E (.dataFrame df)) {call : Grouping}
    {p : Partition} (hseries : ∀ s ∈ call.series, Throughout S E (.series s))
    (h : df.partitionFor call = .ok p) : Throughout S E (.partition p) := by
  cases call with
  | groupBy keys =>
    obtain ⟨columns, hcolumns, h⟩ := Outcome.bind_eq_ok h
    exact groupBy kept (hdf.resolve hseries hcolumns) h
  | cube keys =>
    obtain ⟨columns, hcolumns, h⟩ := Outcome.bind_eq_ok h
    exact cube kept (hdf.resolve hseries hcolumns) h
  | rollup keys =>
    obtain ⟨columns, hcolumns, h⟩ := Outcome.bind_eq_ok h
    exact rollup kept (hdf.resolve hseries hcolumns) h
  | groupingSets sets =>
    obtain ⟨children, hchildren, h⟩ := Outcome.bind_eq_ok h
    exact groupingSet kept (resolveLists kept hdf hseries hchildren) h
  | groupingLists lists =>
    obtain ⟨children, hchildren, h⟩ := Outcome.bind_eq_ok h
    exact groupingList kept (resolveLists kept hdf hseries hchildren) h
  | window keys frame minValues => exact windowFor kept hdf hseries h
  | rolling size minPeriods centred =>
    refine windowFor kept hdf (fun s hs => ?_) (DataFrame.windowFor_of_rolling h)
    cases hs
  | expanding minPeriods =>
    refine windowFor kept hdf (fun s hs => ?_) h
    cases hs

theorem applyPartition {df next : DataFrame} (hdf : Throughout S E (.dataFrame df)) {p : Partition}
    (hp : Throughout S E (.partition p)) (h : df.applyPartition p = .ok next) :
    Throughout S E (.dataFrame next) := by
  have hpartition : ∀ q, some p = some q → Throughout S E (.partition q) := by
    intro q hq
    rw [← Option.some.inj hq]
    exact hp
  obtain ⟨-, ⟨-, rfl⟩ | ⟨-, rfl⟩⟩ := DataFrame.applyPartition_eq_ok h
  · -- a window: the data columns learn of it
    refine .dataFrame (fun entry hentry => hdf.part (.frameIndex hentry)) (fun entry hentry => ?_)
      (fun key hkey => (hdf.part (.frameOrder hkey)).expr_of) hpartition
    obtain ⟨own, hown, rfl⟩ := List.mem_map.mp hentry
    have hseries := hdf.part (.frameData hown)
    exact surrounded kept hseries (fun entry hentry => hseries.part (.index hentry)) hpartition
  · -- groups: their columns are the index, for the data columns too
    have hindex : ∀ entry ∈ p.columns, Throughout S E (.series entry.2) := fun entry hentry =>
      hp.part (.column hentry)
    refine .dataFrame hindex (fun entry hentry => ?_) (List.forall_mem_nil _) hpartition
    obtain ⟨own, hown, -, rfl⟩ := DataFrame.mem_of_mem_dataUnder hentry
    exact surrounded kept (hdf.part (.frameData hown)) hindex hpartition

theorem partitioned {df next : DataFrame} (hdf : Throughout S E (.dataFrame df)) {call : Grouping}
    (hseries : ∀ s ∈ call.series, Throughout S E (.series s))
    (h : df.partitioned call = .ok next) : Throughout S E (.dataFrame next) := by
  obtain ⟨p, hp, happly⟩ := DataFrame.partitioned_eq_ok h
  exact applyPartition kept hdf (partitionFor kept hdf hseries hp) happly

end

end Throughout

/-! ## Everything that can be obtained -/

/-- **Whatever is kept holds throughout everything that can be obtained**, in whatever order and to
whatever depth the operations are applied. -/
theorem Obtained.throughout (kept : Kept supply S E) {a : Artifact} (h : Obtained supply a) :
    Throughout S E a := by
  induction h with
  -- expressions
  | sql h => exact .expr (kept.sql h)
  | literal htext h => exact .expr (kept.literal htext h)
  | call _ h ihargs => exact .expr (kept.call (fun arg harg => (ihargs arg harg).expr_of) h)
  | apply _ _ h ihw ihcall => exact .expr (kept.apply ihw ihcall.expr_of h)
  | applyFor _ _ h ihw ihargs =>
    obtain ⟨call, hcall, happly⟩ := Window.applyFor_eq_ok h
    have hE := kept.call (fun arg harg => (ihargs arg harg).expr_of) hcall
    exact .expr (kept.apply ihw hE happly)
  | gives _ h ih => exact .expr (kept.given ih h)
  | part _ h ih => exact ih.part h
  -- series
  | column hname => exact .single kept hname (kept.column hname)
  | single hname _ ih => exact .single kept hname ih.expr_of
  | composite hname _ h ih => exact .composite kept hname ih h
  | withName _ hname ih =>
    exact ih.series_like rfl (kept.renamed ih.own hname) ih.own_expr
      (fun entry hentry => ih.part (.index hentry)) fun p hp => ih.part (.partition hp)
  | @withExpr s e _ _ h ihs ihe => exact .computed kept ihs ihe.expr_of (.inl h) s.dtype
  | @withType s dtype _ ih =>
    exact .computed kept ih ih.own_expr (.inr id) dtype
  | @withSorting s indexSorting ascending _ ih =>
    exact ih.series_like rfl (kept.face (s := s) rfl ih.own) ih.own_expr
      (fun entry hentry => ih.part (.index hentry)) fun p hp => ih.part (.partition hp)
  | withIndex _ _ ihs ihindex =>
    exact .surrounded kept ihs ihindex fun p hp => ihs.part (.partition hp)
  | withPartition _ _ ihs ihpartition =>
    exact .surrounded kept ihs (fun entry hentry => ihs.part (.index hentry)) ihpartition
  | rebind _ ih => exact .rebind kept ih _
  | aggregate _ _ h ihs ihpartition => exact .aggregated kept ihs ihpartition h
  | windowed _ _ htext h ihs ihw =>
    obtain ⟨args, hargs, h⟩ := Series.windowed_eq_ok h
    exact .windowFunction kept ihs ihw (Throughout.args kept ihs.own_expr htext hargs) h
  | windowFunction _ _ _ h ihs ihw ihargs =>
    exact .windowFunction kept ihs ihw (fun arg harg => (ihargs arg harg).expr_of) h
  | compare _ _ h ihs ihother =>
    exact .comparedWith kept ihs ihother.own_expr (Series.compare_eq_ok h)
  | compareLiteral _ htext h ihs =>
    obtain ⟨other, hother, h⟩ := Series.compareLiteral_eq_ok h
    exact .comparedWith kept ihs (kept.literal htext hother) h
  -- partitions
  | all => exact .partition_flat (.inl rfl) (List.forall_mem_nil _)
  | groupBy _ h ih => exact .groupBy kept ih h
  | cube _ h ih => exact .cube kept ih h
  | rollup _ h ih => exact .rollup kept ih h
  | groupingList _ h ih => exact .groupingList kept ih h
  | groupingSet _ h ih => exact .groupingSet kept ih h
  | window _ _ h ihcolumns ihorder =>
    exact .window kept ihcolumns (fun key hkey => (ihorder key hkey).expr_of) h
  | withFrame _ h ih => exact .withFrame kept ih h
  | withMinValues _ ih =>
    exact .partition_window ⟨ih.window_spec.order, ih.window_spec.clause⟩ ih.columns_of
  | unframed _ ih => exact .unframed ih
  | rebindPartition _ h ih => exact .rebindPartition kept ih h
  -- dataframes
  | ofRelation hindex hdata => exact .ofRelation kept hindex hdata
  | lookup _ h ih =>
    obtain ⟨s, hs, heq⟩ := Outcome.map_eq_ok h
    cases heq
    exact ih.column hs
  | select _ h ih => exact ih.select h
  | sortBy _ h ih => exact ih.sortBy h
  | partitioned _ _ h ihdf ihseries => exact .partitioned kept ihdf ihseries h

end QueryFrame
