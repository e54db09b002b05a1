import QueryFrame.DataType
import QueryFrame.Relation
import QueryFrame.Window.Spec

/-!
# Series and partitions

A series is a column to be: a name, a type and the expression that computes it, over a relation.
It carries the index of the dataframe that it belongs to and the partition that it is computed
under. A composite series, such as an interval, also has levels, one series for each part.

A partition says how rows are put together: the columns that it groups on, by name, and what is
made of them. Lists and sets of groupings hold further partitions, and a window holds its order
and frame. Since a series holds partitions and a partition holds series, both are declared
together, as plain data.

`Series.same_iff` and `Partition.same_iff` say that the comparison of two series, or partitions, is
equality: of every part, at every depth, with collections compared entry by entry in order.
-/

namespace QueryFrame

mutual

/-- A column to be. -/
structure Series where
  /-- the name of the column -/
  name : String
  /-- the type of its values -/
  dtype : DataType
  /-- what computes it -/
  expr : Expr
  /-- where the columns of the expression come from -/
  relation : Relation
  /-- the index of the dataframe that it belongs to -/
  index : List (String × Series)
  /-- what it is grouped or windowed by -/
  partition : Option Partition
  /-- which index columns are sorted, smallest first -/
  indexSorting : List Bool
  /-- whether its own values are sorted, and smallest first -/
  ascending : Option Bool
  /-- the parts of a composite series -/
  levels : List (String × Series)

/-- How rows are put together. -/
structure Partition where
  /-- what it groups on -/
  columns : List (String × Series)
  /-- what is made of the columns -/
  shape : Shape

/-- What a partition makes of its columns. -/
inductive Shape where
  /-- one group for each combination of values -/
  | plain
  /-- one grouping for every combination of the columns -/
  | cube
  /-- one grouping for each run of the columns from the first on -/
  | rollup
  /-- the groupings of the partitions, side by side -/
  | lists (children : List Partition)
  /-- the same as grouping sets -/
  | sets (children : List Partition)
  /-- no groups: every row stays and looks at others -/
  | window (spec : WindowSpec)

end

/-- Series by name, in order. -/
abbrev Columns := List (String × Series)

/-! ### Equality -/

mutual

/-- Whether two series agree in every part. -/
def Series.same : Series → Series → Bool
  | ⟨name, dtype, expr, relation, index, partition, indexSorting, ascending, levels⟩,
    ⟨name', dtype', expr', relation', index', partition', indexSorting', ascending', levels'⟩ =>
    name = name' && dtype = dtype' && expr = expr' && relation = relation' &&
      Series.sameColumns index index' && Partition.sameOption partition partition' &&
      indexSorting = indexSorting' && ascending = ascending' &&
      Series.sameColumns levels levels'

/-- Whether two collections agree entry by entry. -/
def Series.sameColumns : List (String × Series) → List (String × Series) → Bool
  | [], [] => true
  | (key, series) :: rest, (key', series') :: rest' =>
    key = key' && Series.same series series' && Series.sameColumns rest rest'
  | _, _ => false

/-- Whether both partitions are missing or both are there and agree. -/
def Partition.sameOption : Option Partition → Option Partition → Bool
  | none, none => true
  | some left, some right => Partition.same left right
  | _, _ => false

/-- Whether two partitions agree in columns and shape. -/
def Partition.same : Partition → Partition → Bool
  | ⟨columns, shape⟩, ⟨columns', shape'⟩ =>
    Series.sameColumns columns columns' && Shape.same shape shape'

/-- Whether two shapes agree. -/
def Shape.same : Shape → Shape → Bool
  | .plain, .plain => true
  | .cube, .cube => true
  | .rollup, .rollup => true
  | .lists left, .lists right => Partition.sameAll left right
  | .sets left, .sets right => Partition.sameAll left right
  | .window left, .window right => left = right
  | _, _ => false

/-- Whether the partitions agree one by one. -/
def Partition.sameAll : List Partition → List Partition → Bool
  | [], [] => true
  | left :: lefts, right :: rights => Partition.same left right && Partition.sameAll lefts rights
  | _, _ => false

end

mutual

theorem Series.same_iff : (left right : Series) → (Series.same left right = true ↔ left = right)
  | ⟨name, dtype, expr, relation, index, partition, indexSorting, ascending, levels⟩,
    ⟨name', dtype', expr', relation', index', partition', indexSorting', ascending', levels'⟩ => by
    simp [Series.same, Series.sameColumns_iff index index', Series.sameColumns_iff levels levels',
      Partition.sameOption_iff partition partition', and_assoc]

theorem Series.sameColumns_iff :
    (left right : List (String × Series)) → (Series.sameColumns left right = true ↔ left = right)
  | [], right => by cases right <;> simp [Series.sameColumns]
  | (key, series) :: rest, [] => by simp [Series.sameColumns]
  | (key, series) :: rest, (key', series') :: rest' => by
    simp [Series.sameColumns, Series.same_iff series series', Series.sameColumns_iff rest rest']

theorem Partition.sameOption_iff :
    (left right : Option Partition) → (Partition.sameOption left right = true ↔ left = right)
  | none, right => by cases right <;> simp [Partition.sameOption]
  | some left, none => by simp [Partition.sameOption]
  | some left, some right => by simp [Partition.sameOption, Partition.same_iff left right]

theorem Partition.same_iff :
    (left right : Partition) → (Partition.same left right = true ↔ left = right)
  | ⟨columns, shape⟩, ⟨columns', shape'⟩ => by
    simp [Partition.same, Series.sameColumns_iff columns columns', Shape.same_iff shape shape']

theorem Shape.same_iff : (left right : Shape) → (Shape.same left right = true ↔ left = right)
  | .plain, right => by cases right <;> simp [Shape.same]
  | .cube, right => by cases right <;> simp [Shape.same]
  | .rollup, right => by cases right <;> simp [Shape.same]
  | .lists left, .lists right => by simp [Shape.same, Partition.sameAll_iff left right]
  | .sets left, .sets right => by simp [Shape.same, Partition.sameAll_iff left right]
  | .window left, right => by cases right <;> simp [Shape.same]
  | .lists _, .plain | .lists _, .cube | .lists _, .rollup | .lists _, .sets _
  | .lists _, .window _ | .sets _, .plain | .sets _, .cube | .sets _, .rollup
  | .sets _, .lists _ | .sets _, .window _ => by simp [Shape.same]

theorem Partition.sameAll_iff :
    (left right : List Partition) → (Partition.sameAll left right = true ↔ left = right)
  | [], right => by cases right <;> simp [Partition.sameAll]
  | left :: lefts, [] => by simp [Partition.sameAll]
  | left :: lefts, right :: rights => by
    simp [Partition.sameAll, Partition.same_iff left right, Partition.sameAll_iff lefts rights]

end

instance : DecidableEq Series := fun left right =>
  decidable_of_iff _ (Series.same_iff left right)

instance : DecidableEq Partition := fun left right =>
  decidable_of_iff _ (Partition.same_iff left right)

end QueryFrame
