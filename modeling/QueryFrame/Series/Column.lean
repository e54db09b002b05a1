import QueryFrame.Expr.Template
import QueryFrame.Keyed
import QueryFrame.Series.Basic

/-!
# Series as columns

Where series come from, how they are moved to another relation, and how they appear in a select
list: under their name, unless the expression is the column of that name already, or level by
level.
-/

namespace QueryFrame

namespace Series

/-- A series on its own: without index, partition, sorting or levels. -/
def single (relation : Relation) (name : String) (dtype : DataType) (expr : Expr) : Series :=
  ⟨name, dtype, expr, relation, [], none, [], none, []⟩

/-- A column of the relation as it is. -/
def ofColumn (relation : Relation) (name : String) (dtype : DataType) : Series :=
  single relation name dtype (.column name)

/-- A series with several levels. Its expression lists those of all levels in parentheses. Of
levels with one name the last is kept, in the place of the first. -/
def composite (relation : Relation) (name : String) (dtype : DataType) (levels : List Series) :
    Outcome Series := do
  let expr ← Expr.construct .regular ("(" ++ Expr.slots levels.length ", " ++ ")")
    (levels.map Series.expr)
  pure { single relation name dtype expr with
    levels := Keyed.ofList (levels.map fun level => (level.name, level)) }

/-- Whether there are levels. -/
def isComposite (s : Series) : Bool :=
  !s.levels.isEmpty

/-- The series as a column that is grouped on: without an index, partition or sorted index of its
own. -/
def asKey (s : Series) : Series :=
  { s with index := [], partition := none, indexSorting := [] }

mutual

/-- The series over another relation, with its index and levels. The partition stays. -/
def rebind (relation : Relation) : Series → Series
  | ⟨name, dtype, expr, _, index, partition, indexSorting, ascending, levels⟩ =>
    ⟨name, dtype, expr, relation, rebindAll relation index, partition, indexSorting, ascending,
      rebindAll relation levels⟩

/-- Every series of a collection over another relation. -/
def rebindAll (relation : Relation) : List (String × Series) → List (String × Series)
  | [] => []
  | (key, series) :: rest => (key, rebind relation series) :: rebindAll relation rest

end

/-- A collection is moved entry by entry, and no name changes. -/
theorem rebindAll_eq_map (relation : Relation) (columns : Columns) :
    rebindAll relation columns = columns.map fun entry => (entry.1, entry.2.rebind relation) := by
  induction columns with
  | nil => rfl
  | cons entry rest ih =>
    obtain ⟨key, series⟩ := entry
    rw [rebindAll, ih, List.map_cons]

/-- Moving a series replaces its relation, and the relation of its index and levels. -/
theorem rebind_eq (relation : Relation) (s : Series) :
    s.rebind relation =
      { s with
        relation := relation
        index := rebindAll relation s.index
        levels := rebindAll relation s.levels } := by
  cases s
  rfl

/-- The item of a select list for the series: its expression under its name. The column of that
name needs no alias. -/
def selectItem (s : Series) : Outcome Expr :=
  if s.expr = .column s.name then .ok s.expr else s.expr.aliased s.name

/-- The name of a level among the columns of a dataframe. -/
def levelName (s : Series) (level : String) : String :=
  s.name ++ "__" ++ level

/-- The items of a select list for the levels. -/
def levelItems (s : Series) : Outcome (List Expr) :=
  s.levels.mapM fun level => level.2.expr.aliased (s.levelName level.1)

/-- The expressions of the levels. -/
def levelExprs (s : Series) : List Expr :=
  s.levels.map fun level => level.2.expr

/-- The items of a select list for several series: one for each level of a composite series,
unless composites are wanted whole, and one for any other. -/
def selectItems (whole : Bool) : List Series → Outcome (List Expr)
  | [] => .ok []
  | s :: rest => do
    let items ← if s.isComposite && !whole then s.levelItems else s.selectItem.map ([·])
    let others ← selectItems whole rest
    pure (items ++ others)

/-- The expressions that a grouping on the series uses: those of the levels of a composite series,
or its own. -/
def groupExprs (s : Series) : List Expr :=
  if s.isComposite then s.levelExprs else [s.expr]

end Series

end QueryFrame
