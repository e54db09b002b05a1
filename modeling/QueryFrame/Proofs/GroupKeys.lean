import QueryFrame.Proofs.Runs

/-!
# Keys that rows cannot be grouped on

What a key stands for is looked up in the dataframe, or brought along as a series of its relation
(`DataFrame.StandsFor`), and then has to be a column that can be grouped on. Three things can be
wrong with it (`DataFrame.KeyFault`). A dataframe finds the columns for some keys exactly if nothing
is wrong with any of them, and otherwise says something that is wrong
(`DataFrame.exists_keyColumns_iff`, `DataFrame.keyFault_of_keyColumns`).

The call that groups by some keys starts with these columns, and so does the call for a window
(`DataFrame.groupBy_eq`, `DataFrame.window_eq_keyColumns`). A dataframe without a partition takes
any partition, so there the faults of the keys are the only ones, apart from those of a frame.
-/

namespace QueryFrame

/-- What cannot be grouped on is found at fault. -/
theorem Columns.group_eq_error {columns : List Series} {fault : Error}
    (h : group columns = .error fault) :
    ∃ column ∈ columns, ∃ own, column.groupingFault? = some own ∧ fault = .grouping own := by
  rw [group] at h
  split at h
  · next own hown =>
    obtain ⟨column, hcolumn, hfault⟩ := List.exists_of_findSome?_eq_some hown
    exact ⟨column, hcolumn, own, hfault, (Except.error.inj h).symm⟩
  · cases h

namespace DataFrame

variable {df : DataFrame} {keys : List GroupKey}

/-! ## Looking up -/

/-- **There is no column of a name** exactly if it is neither among the data nor in the index. -/
theorem column_eq_error_iff {name : String} {fault : Error} :
    df.column name = .error fault ↔
      name ∉ Keyed.keys df.data ∧ name ∉ Keyed.keys df.index ∧
        fault = .dataFrame (.unknownColumn name) := by
  rw [← Keyed.find?_eq_none_iff, ← Keyed.find?_eq_none_iff, column]
  cases Keyed.find? name df.data <;> cases Keyed.find? name df.index <;> simp [eq_comm]

/-- What a key stands for. -/
inductive StandsFor (df : DataFrame) : GroupKey → Series → Prop
  /-- a name stands for a data column -/
  | data {name : String} {s : Series} (h : Keyed.find? name df.data = some s) :
      StandsFor df (.label name) s
  /-- or else for an index column -/
  | index {name : String} {s : Series} (hdata : name ∉ Keyed.keys df.data)
      (h : Keyed.find? name df.index = some s) : StandsFor df (.label name) s
  /-- a series of the relation stands for itself -/
  | series {s : Series} (h : s.relation = df.relation) : StandsFor df (.series s) s

/-- Why a key stands for nothing, and the code of that. -/
inductive Unresolved (df : DataFrame) : GroupKey → Error → String → Prop
  /-- there is no column of the name -/
  | unknown {name : String} (hdata : name ∉ Keyed.keys df.data)
      (hindex : name ∉ Keyed.keys df.index) :
      Unresolved df (.label name) (.dataFrame (.unknownColumn name)) "FRAME_001"
  /-- the series is taken from another relation -/
  | foreign {s : Series} (h : s.relation ≠ df.relation) :
      Unresolved df (.series s) (.dataFrame (.foreignKey s.name)) "FRAME_004"

/-- **A key is looked up** as what it stands for. -/
theorem resolveKey_eq_ok_iff {key : GroupKey} {s : Series} :
    df.resolveKey key = .ok s ↔ df.StandsFor key s := by
  constructor
  · intro h
    cases key with
    | label name =>
      rw [resolveKey, column] at h
      split at h
      · next found hfound =>
        obtain rfl := Except.ok.inj h
        rcases Option.or_eq_some_iff.mp hfound with hdata | ⟨hdata, hindex⟩
        · exact .data hdata
        · exact .index (Keyed.find?_eq_none_iff.mp hdata) hindex
      · cases h
    | series own =>
      rw [resolveKey] at h
      split at h
      · next hrelation =>
        obtain rfl := Except.ok.inj h
        exact .series hrelation
      · cases h
  · intro h
    cases h with
    | data h => rw [resolveKey, column, h, Option.some_or]
    | index hdata h =>
      rw [resolveKey, column, Keyed.find?_eq_none_iff.mpr hdata, Option.none_or, h]
    | series h => rw [resolveKey, if_pos h]

/-- A key that stands for nothing is refused for that. -/
theorem resolveKey_eq_error_iff {key : GroupKey} {fault : Error} :
    df.resolveKey key = .error fault ↔ ∃ code, df.Unresolved key fault code := by
  constructor
  · intro h
    cases key with
    | label name =>
      obtain ⟨hdata, hindex, rfl⟩ := column_eq_error_iff.mp h
      exact ⟨_, .unknown hdata hindex⟩
    | series s =>
      rw [resolveKey] at h
      split at h
      · cases h
      · next hrelation =>
        obtain rfl := Except.error.inj h
        exact ⟨_, .foreign hrelation⟩
  · rintro ⟨code, h⟩
    cases h with
    | unknown hdata hindex => exact column_eq_error_iff.mpr ⟨hdata, hindex, rfl⟩
    | foreign h => rw [resolveKey, if_neg h]

/-- Something that is wrong with one of the keys, as it is reported. -/
inductive KeyFault (df : DataFrame) (keys : List GroupKey) : Error → Prop
  /-- a name that no column has -/
  | unknown {name : String} (hkey : .label name ∈ keys) (hdata : name ∉ Keyed.keys df.data)
      (hindex : name ∉ Keyed.keys df.index) :
      KeyFault df keys (.dataFrame (.unknownColumn name))
  /-- a series of another relation -/
  | foreign {s : Series} (hkey : .series s ∈ keys) (hrelation : s.relation ≠ df.relation) :
      KeyFault df keys (.dataFrame (.foreignKey s.name))
  /-- a series or column that cannot be grouped on -/
  | ungroupable {key : GroupKey} {s : Series} {fault : GroupingFault} (hkey : key ∈ keys)
      (hs : df.resolveKey key = .ok s) (hfault : s.groupingFault? = some fault) :
      KeyFault df keys (.grouping fault)

/-- A key that stands for nothing is at fault. -/
theorem keyFault_of_resolveKey {key : GroupKey} (hkey : key ∈ keys) {fault : Error}
    (h : df.resolveKey key = .error fault) : df.KeyFault keys fault := by
  obtain ⟨code, h⟩ := resolveKey_eq_error_iff.mp h
  cases h with
  | unknown hdata hindex => exact .unknown hkey hdata hindex
  | foreign hrelation => exact .foreign hkey hrelation

/-! ## The columns to group on -/

/-- The columns that keys stand for, if rows can be grouped on them. -/
def keyColumns (df : DataFrame) (keys : List GroupKey) : Outcome Columns := do
  let columns ← df.resolve keys
  Columns.group columns

/-- **Keys are refused for something that is wrong with them.** -/
theorem keyFault_of_keyColumns {fault : Error} (h : df.keyColumns keys = .error fault) :
    df.KeyFault keys fault := by
  rcases Outcome.bind_eq_error h with h | ⟨columns, hcolumns, h⟩
  · obtain ⟨key, hkey, h⟩ := Outcome.mapM_eq_error h
    exact keyFault_of_resolveKey hkey h
  · obtain ⟨column, hcolumn, own, hfault, rfl⟩ := Columns.group_eq_error h
    obtain ⟨key, hkey, hresolve⟩ := Outcome.mem_of_mapM_eq_ok hcolumns hcolumn
    exact .ungroupable hkey hresolve hfault

/-- With columns for the keys, nothing is wrong with any of them. -/
theorem not_keyFault_of_keyColumns {columns : Columns} (h : df.keyColumns keys = .ok columns)
    (fault : Error) : ¬ df.KeyFault keys fault := by
  obtain ⟨found, hfound, hgroup⟩ := Outcome.bind_eq_ok h
  have hresolve : ∀ key ∈ keys, ∃ s ∈ found, df.resolveKey key = .ok s := fun key hkey =>
    Outcome.exists_of_forall₂ (Outcome.mapM_eq_ok hfound).flip hkey
  intro hfault
  cases hfault with
  | unknown hkey hdata hindex =>
    obtain ⟨s, -, hs⟩ := hresolve _ hkey
    cases (resolveKey_eq_error_iff.mpr ⟨_, .unknown hdata hindex⟩).symm.trans hs
  | foreign hkey hrelation =>
    obtain ⟨s, -, hs⟩ := hresolve _ hkey
    cases (resolveKey_eq_error_iff.mpr ⟨_, .foreign hrelation⟩).symm.trans hs
  | ungroupable hkey hs hfault =>
    obtain ⟨other, hother, hsame⟩ := hresolve _ hkey
    obtain rfl := Except.ok.inj (hs.symm.trans hsame)
    rw [(Columns.group_eq_ok hgroup).1 _ hother] at hfault
    cases hfault

/-- **There are columns for the keys exactly if nothing is wrong with them.** -/
theorem exists_keyColumns_iff :
    (∃ columns, df.keyColumns keys = .ok columns) ↔ ∀ fault, ¬ df.KeyFault keys fault := by
  constructor
  · rintro ⟨columns, h⟩
    exact not_keyFault_of_keyColumns h
  · intro hnone
    cases h : df.keyColumns keys with
    | error fault => exact absurd (keyFault_of_keyColumns h) (hnone fault)
    | ok columns => exact ⟨columns, rfl⟩

/-! ## The calls that use them -/

/-- A first partition can be applied, whatever it is. -/
theorem exists_applyPartition (hungrouped : df.partition = none) (p : Partition) :
    ∃ next, df.applyPartition p = .ok next := by
  rw [applyPartition, hungrouped]
  dsimp only
  split <;> exact ⟨_, rfl⟩

theorem groupBy_eq (df : DataFrame) (keys : List GroupKey) :
    df.groupBy keys = (df.keyColumns keys >>= fun columns =>
      df.applyPartition ⟨columns, .plain⟩) := by
  rw [groupBy, keyColumns]
  simp only [Partition.groupBy, bind_assoc, pure_bind]

/-- The columns of a window are looked at before its frame. -/
theorem windowFor_eq_keyColumns (df : DataFrame) (keys : List GroupKey) (frame : Option Frame)
    (minValues : Option UInt32) :
    df.windowFor keys frame minValues = (do
      let columns ← df.keyColumns keys
      (frame.getD df.settings.window).check.map fun checked => Window.partition
        ⟨columns, ⟨df.order, checked.1, (frame.getD df.settings.window).start,
          (frame.getD df.settings.window).stop, minValues.getD 0, checked.2⟩⟩) := by
  rw [windowFor, keyColumns]
  simp only [Window.make, bind_assoc, pure_bind]
  refine bind_congr fun columns => bind_congr fun grouped => ?_
  cases (frame.getD df.settings.window).check <;> rfl

/-- What follows is applied to the window. -/
theorem window_eq_keyColumns (df : DataFrame) (keys : List GroupKey) (frame : Option Frame)
    (minValues : Option UInt32) :
    df.window keys frame minValues = (do
      let columns ← df.keyColumns keys
      let window ← (frame.getD df.settings.window).check.map fun checked =>
        (⟨columns, ⟨df.order, checked.1, (frame.getD df.settings.window).start,
          (frame.getD df.settings.window).stop, minValues.getD 0, checked.2⟩⟩ : Window)
      df.applyPartition window.partition) := by
  rw [window_eq, windowFor_eq_keyColumns, bind_assoc]
  refine bind_congr fun columns => ?_
  cases (frame.getD df.settings.window).check <;> rfl

end DataFrame

end QueryFrame
