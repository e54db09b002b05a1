import QueryFrame.DataFrame.Basic

/-!
# Grouping dataframes

A dataframe is partitioned once. What it is to be grouped on is given by name or as series of its
relation, and is looked up from left to right before anything else happens.

A window keeps the rows, so the index, the data and their order stay. Any other partition makes one
row of each group: its columns become the index, a data column of such a name goes, and the order
is dropped.
-/

namespace QueryFrame

/-- What a dataframe is grouped on. -/
inductive GroupKey where
  /-- a column by name -/
  | label (name : String)
  /-- a series of the same relation -/
  | series (s : Series)

namespace DataFrame

/-- The series that a key stands for. -/
def resolveKey (df : DataFrame) : GroupKey → Outcome Series
  | .label name => df.column name
  | .series s =>
    if s.relation = df.relation then .ok s else .error (.dataFrame (.foreignKey s.name))

/-- The series that the keys stand for. -/
def resolve (df : DataFrame) (keys : List GroupKey) : Outcome (List Series) :=
  keys.mapM df.resolveKey

/-- A grouping for each list of keys. -/
def resolveLists (df : DataFrame) (lists : List (List GroupKey)) : Outcome (List Partition) :=
  lists.mapM fun keys => do
    let columns ← df.resolve keys
    Partition.groupBy columns

/-- The data columns under a partition, with the given index. -/
def dataUnder (data : Columns) (index : Columns) (partition : Partition) : Columns :=
  (data.filter fun entry => !Keyed.contains entry.1 index).map fun entry =>
    (entry.1, { entry.2 with index := index, partition := some partition })

/-- The dataframe under a partition, which has to be its first. -/
def applyPartition (df : DataFrame) (partition : Partition) : Outcome DataFrame :=
  match df.partition with
  | some current => .error (.dataFrame (.alreadyGrouped current.kind))
  | none =>
    if partition.isWindow then
      .ok { df with
        data := df.data.map fun entry => (entry.1, { entry.2 with partition := some partition })
        partition := some partition }
    else
      .ok { df with
        index := partition.columns
        data := dataUnder df.data partition.columns partition
        order := []
        partition := some partition }

/-- One row for each combination of values. -/
def groupBy (df : DataFrame) (keys : List GroupKey) : Outcome DataFrame := do
  let columns ← df.resolve keys
  let partition ← Partition.groupBy columns
  df.applyPartition partition

/-- The groups of every combination of the columns. -/
def cube (df : DataFrame) (keys : List GroupKey) : Outcome DataFrame := do
  let columns ← df.resolve keys
  let partition ← Partition.cube columns
  df.applyPartition partition

/-- The groups of each run of the columns from the first on. -/
def rollup (df : DataFrame) (keys : List GroupKey) : Outcome DataFrame := do
  let columns ← df.resolve keys
  let partition ← Partition.rollup columns
  df.applyPartition partition

/-- The groups of several groupings, as grouping sets. -/
def groupingSets (df : DataFrame) (sets : List (List GroupKey)) : Outcome DataFrame := do
  let children ← df.resolveLists sets
  let partition ← Partition.groupingSet children
  df.applyPartition partition

/-- The groups of several groupings, side by side. -/
def groupingLists (df : DataFrame) (lists : List (List GroupKey)) : Outcome DataFrame := do
  let children ← df.resolveLists lists
  let partition ← Partition.groupingList children
  df.applyPartition partition

/-- The rows divided by the columns, in the order of the dataframe. Without a frame that of the
settings is taken. -/
def window (df : DataFrame) (keys : List GroupKey) (frame : Option Frame)
    (minValues : Option UInt32) : Outcome DataFrame := do
  let columns ← df.resolve keys
  let window ← Window.make columns df.order (frame.getD df.settings.window) minValues
  df.applyPartition window.partition

/-- How many rows of a rolling window lie before and after the current one. A centred window with
an even number of rows has the one row more before it. -/
def rollingOffsets (size : UInt32) (centred : Bool) : UInt32 × UInt32 :=
  if centred then
    let after := (size - 1) / 2
    (size - 1 - after, after)
  else (size - 1, 0)

/-- The frame of a rolling window. -/
def rollingFrame (size : UInt32) (centred : Bool) : Frame :=
  let (before, after) := rollingOffsets size centred
  .rows (.preceding (.ofNat before.toNat))
    (if after = 0 then .currentRow else .following (.ofNat after.toNat))

/-- A frame of so many rows, up to the current row or with the current row in the middle. A value
is given once there are enough rows, all of them unless said otherwise. -/
def rolling (df : DataFrame) (size : UInt32) (minPeriods : Option UInt32) (centred : Bool) :
    Outcome DataFrame :=
  if size = 0 then .error (.frame .emptyRolling)
  else df.window [] (some (rollingFrame size centred)) (some (minPeriods.getD size))

/-- A frame from the first row to the current one. -/
def expanding (df : DataFrame) (minPeriods : Option UInt32) : Outcome DataFrame :=
  df.window [] (some (.rows .unboundedPreceding .currentRow)) minPeriods

end DataFrame

end QueryFrame
