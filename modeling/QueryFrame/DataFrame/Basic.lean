import QueryFrame.Settings

/-!
# Dataframes

A dataframe describes a query over a relation: index columns that identify a row or a group, data
columns, an order, and the partition that was applied to it. Columns are kept by name in the order
in which they were given. A data column hides an index column of its name.
-/

namespace QueryFrame

/-- A query over a relation. -/
structure DataFrame where
  /-- what the columns are taken from -/
  relation : Relation
  /-- what is taken for granted -/
  settings : Settings
  /-- the columns that identify a row or a group -/
  index : Columns
  /-- all other columns -/
  data : Columns
  /-- the order of the rows -/
  order : List SortKey
  /-- what the rows were grouped or windowed by -/
  partition : Option Partition

/-- What columns are selected by. -/
inductive Key where
  /-- a single column -/
  | label (name : String)
  /-- several columns -/
  | labels (names : List String)
  /-- rows by position, which nobody knows before the query runs -/
  | slice (start stop : Option Int64)

namespace Key

/-- A bound of a slice in running text, nothing if it is open. -/
def boundText : Option Int64 → String
  | some position => Number.Decimal.ofInt position.toInt
  | none => ""

/-- A key in running text. -/
def text : Key → String
  | .label name => Text.quoted name
  | .labels names => "[" ++ Text.joinWith ", " names ++ "]"
  | .slice start stop => boundText start ++ ":" ++ boundText stop

end Key

/-- What a key selects. -/
inductive Selection where
  | series (s : Series)
  | dataFrame (df : DataFrame)

namespace DataFrame

/-- Columns of a relation by name and type. -/
def columnsOf (relation : Relation) (fields : List (String × DataType)) : Columns :=
  Keyed.ofList (fields.map fun field => (field.1, .ofColumn relation field.1 field.2))

/-- The columns of a relation as they are. -/
def ofRelation (relation : Relation) (settings : Settings)
    (index data : List (String × DataType)) : DataFrame :=
  let index := columnsOf relation index
  { relation := relation
    settings := settings
    index := index
    data := (columnsOf relation data).map fun entry =>
      (entry.1, { entry.2 with index := index })
    order := []
    partition := none }

/-- The column of that name. -/
def column (df : DataFrame) (name : String) : Outcome Series :=
  match (Keyed.find? name df.data).or (Keyed.find? name df.index) with
  | some s => .ok s
  | none => .error (.dataFrame (.unknownColumn name))

/-- The data columns of the given names, in their order. -/
def selectColumns (df : DataFrame) (labels : List String) : Outcome (List (String × Series)) :=
  labels.mapM fun label =>
    match Keyed.find? label df.data with
    | some s => .ok (label, s)
    | none => .error (.dataFrame (.unknownColumn label))

/-- The dataframe with these data columns only, in that order. -/
def select (df : DataFrame) (labels : List String) : Outcome DataFrame := do
  let columns ← df.selectColumns labels
  pure { df with data := Keyed.ofList columns }

/-- What a key selects. -/
def get (df : DataFrame) : Key → Outcome Selection
  | .label name => (df.column name).map .series
  | .labels names => (df.select names).map .dataFrame
  | key => .error (.dataFrame (.unsupportedKey key.text))

/-- The flags of an order, one for each of `count` columns. A single flag is meant for all. -/
def spreadFlags (count : Nat) : List Bool → List Bool
  | [flag] => List.replicate count flag
  | flags => flags

/-- The dataframe in another order. There is one flag, or one for each column. -/
def sortBy (df : DataFrame) (names : List String) (ascending : List Bool) :
    Outcome DataFrame := do
  if ascending.length ≠ 1 && ascending.length ≠ names.length then
    .error (.dataFrame (.flagCount names.length ascending.length))
  else
    let columns ← names.mapM df.column
    pure { df with
      order := (columns.zip (spreadFlags names.length ascending)).map fun (column, flag) =>
        ⟨column.expr, flag⟩ }

/-- The names of the data columns. -/
def dataColumns (df : DataFrame) : List String :=
  Keyed.keys df.data

/-- The select list: index and data columns, with composites level by level. -/
def selectItems (df : DataFrame) : Outcome (List Expr) :=
  Series.selectItems false (Keyed.values df.index ++ Keyed.values df.data)

/-- The body of the clause that groups the rows, if they are grouped. -/
def groupClause (df : DataFrame) : Outcome (Option Expr) :=
  match df.partition with
  | some partition => partition.clause
  | none => .ok none

/-- The body of the clause that orders the rows, if they are ordered. -/
def orderClause (df : DataFrame) : Outcome (Option Expr) :=
  if df.order.isEmpty then .ok none
  else
    (Expr.construct .regular (SortKey.templates df.order) (df.order.map SortKey.expr)).map some

end DataFrame

end QueryFrame
