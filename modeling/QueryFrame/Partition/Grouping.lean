import QueryFrame.Series.Column

/-!
# Columns to group on

A column can be grouped on when it is neither constant nor holds a window function or an
aggregate, and no level of it is constant. `Columns.group` takes the columns of a partition, or
gives the fault of the first column that has one. Of columns with one name the last is kept, in the
place of the first, but the others have to be valid too.
-/

namespace QueryFrame

/-- Why a series cannot be grouped on, if so. Of several faults the first one counts, and a
constant level is named before anything else is looked at. -/
def Series.groupingFault? (s : Series) : Option GroupingFault :=
  match s.levels.find? fun level => level.2.expr.isConstant with
  | some (level, _) => some (.constantLevel s.name level)
  | none =>
    if s.expr.isConstant then some (.constantSeries s.name)
    else if s.expr.hasWindow then some (.windowFunction s.name)
    else if s.expr.hasAggregate then some (.aggregateFunction s.name)
    else none

namespace Columns

/-- The columns as those of a partition. -/
def group (columns : List Series) : Outcome Columns :=
  match columns.findSome? Series.groupingFault? with
  | some fault => .error (.grouping fault)
  | none => .ok (Keyed.ofList (columns.map fun column => (column.name, column.asKey)))

/-- The relation of the first column. -/
def relation? (columns : Columns) : Option Relation :=
  columns.head?.map fun entry => entry.2.relation

/-- The expressions to group by. -/
def groupExprs (columns : Columns) : List Expr :=
  (Keyed.values columns).flatMap Series.groupExprs

/-- The items of a select list. -/
def selectItems (columns : Columns) (whole : Bool) : Outcome (List Expr) :=
  Series.selectItems whole (Keyed.values columns)

/-- The columns over another relation. They are checked again. -/
def rebind (relation : Relation) (columns : Columns) : Outcome Columns :=
  group ((Keyed.values columns).map (Series.rebind relation))

/-- The body of a clause that groups by the columns, nothing without columns. -/
def clause (columns : Columns) : Outcome (Option Expr) :=
  if columns.isEmpty then .ok none
  else (Expr.join (groupExprs columns) ", ").map some

end Columns

end QueryFrame
