import QueryFrame.Partition.Grouping

/-!
# Partitions

How partitions are formed, what they contribute to a query, and how they are moved to another
relation.

A list or set of groupings groups on the columns of all its members: of two members with a column
of one name, the first decides. A window groups nothing, so it is no member. The clause of a list
has one pair of parentheses for each member, also for one without columns, since an empty grouping
puts all rows together.
-/

namespace QueryFrame

namespace Shape

/-- What a shape is called in a sentence. -/
def kind : Shape → String
  | .plain => "group by"
  | .cube => "cube"
  | .rollup => "rollup"
  | .lists _ => "grouping list"
  | .sets _ => "grouping set"
  | .window _ => "window"

/-- Whether rows stay apart. -/
def isWindow : Shape → Bool
  | .window _ => true
  | _ => false

/-- The members of a list or set of groupings. -/
def children : Shape → List Partition
  | .lists children | .sets children => children
  | _ => []

end Shape

namespace Partition

/-- What a partition is called in a sentence. -/
def kind (p : Partition) : String :=
  p.shape.kind

/-- Whether rows stay apart. -/
def isWindow (p : Partition) : Bool :=
  p.shape.isWindow

/-- The members of a list or set of groupings. -/
def children (p : Partition) : List Partition :=
  p.shape.children

/-- The relation of the first column. -/
def relation? (p : Partition) : Option Relation :=
  Columns.relation? p.columns

/-- The same columns without anything made of them. -/
def plain (p : Partition) : Partition :=
  ⟨p.columns, .plain⟩

/-! ### Forming partitions -/

/-- One group for all rows. -/
def all : Partition :=
  ⟨[], .plain⟩

/-- One group for each combination of values. -/
def groupBy (columns : List Series) : Outcome Partition := do
  let columns ← Columns.group columns
  pure ⟨columns, .plain⟩

/-- One grouping for every combination of the columns. There has to be a column. -/
def cube (columns : List Series) : Outcome Partition := do
  let columns ← Columns.group columns
  if columns.isEmpty then .error (.grouping .emptyCube) else pure ⟨columns, .cube⟩

/-- One grouping for each run of the columns from the first on. There has to be a column. -/
def rollup (columns : List Series) : Outcome Partition := do
  let columns ← Columns.group columns
  if columns.isEmpty then .error (.grouping .emptyRollup) else pure ⟨columns, .rollup⟩

/-- The columns of the members after those in `found`. A name that was found is not looked at
again. -/
def merge (found : Columns) : List Partition → Outcome Columns
  | [] => .ok found
  | child :: rest =>
    if child.isWindow then .error (.grouping (.notGrouping child.kind))
    else
      merge (child.columns.foldl (fun found entry => Keyed.insertNew entry.1 entry.2 found) found)
        rest

/-- The columns that a list of groupings groups on. -/
def mergedColumns (children : List Partition) : Outcome Columns := do
  let merged ← merge [] children
  Columns.group (Keyed.values merged)

/-- Groupings side by side. -/
def groupingList (children : List Partition) : Outcome Partition := do
  let columns ← mergedColumns children
  pure ⟨columns, .lists children⟩

/-- Grouping sets. -/
def groupingSet (children : List Partition) : Outcome Partition := do
  let columns ← mergedColumns children
  pure ⟨columns, .sets children⟩

/-! ### What a partition contributes to a query -/

/-- The expressions to group by. -/
def groupExprs (p : Partition) : List Expr :=
  Columns.groupExprs p.columns

/-- The items of a select list for the columns, with composites whole or level by level. -/
def selectItems (p : Partition) (whole : Bool) : Outcome (List Expr) :=
  Columns.selectItems p.columns whole

/-- The clause of a list of groupings from those of its members, nothing without members. -/
def listClause (clauses : List Expr) : Outcome (Option Expr) :=
  if clauses.isEmpty then .ok none
  else
    (Expr.construct .regular
      (Text.joinWith ", " (List.replicate clauses.length ("(" ++ slot ++ ")"))) clauses).map some

/-- A clause inside the call of a grouping function. -/
def wrapClause (function : String) : Option Expr → Outcome (Option Expr)
  | some inner =>
    (Expr.construct .regular (function ++ " (" ++ slot ++ ")") [inner]).map some
  | none => .ok none

mutual

/-- The body of the clause that groups by a partition. A window has none, and neither has a
partition without columns or members. -/
def clause : Partition → Outcome (Option Expr)
  | ⟨columns, .plain⟩ => Columns.clause columns
  | ⟨columns, .cube⟩ => do
    let inner ← Columns.clause columns
    wrapClause "cube" inner
  | ⟨columns, .rollup⟩ => do
    let inner ← Columns.clause columns
    wrapClause "rollup" inner
  | ⟨_, .lists children⟩ => do
    let clauses ← clauses children
    listClause clauses
  | ⟨_, .sets children⟩ => do
    let clauses ← clauses children
    let inner ← listClause clauses
    wrapClause "grouping sets" inner
  | ⟨_, .window _⟩ => .ok none

/-- The clauses of the members, empty for a member that has none. -/
def clauses : List Partition → Outcome (List Expr)
  | [] => .ok []
  | child :: rest => do
    let first ← clause child
    let others ← clauses rest
    pure (first.getD .empty :: others)

end

/-! ### Moving a partition to another relation -/

mutual

/-- The partition over another relation. It is formed again from its parts. -/
def rebind (relation : Relation) : Partition → Outcome Partition
  | ⟨columns, .plain⟩ => do
    let columns ← Columns.rebind relation columns
    pure ⟨columns, .plain⟩
  | ⟨columns, .cube⟩ => do
    let columns ← Columns.rebind relation columns
    cube (Keyed.values columns)
  | ⟨columns, .rollup⟩ => do
    let columns ← Columns.rebind relation columns
    rollup (Keyed.values columns)
  | ⟨_, .lists children⟩ => do
    let children ← rebindAll relation children
    groupingList children
  | ⟨_, .sets children⟩ => do
    let children ← rebindAll relation children
    groupingSet children
  | ⟨columns, .window spec⟩ => do
    let columns ← Columns.rebind relation columns
    pure ⟨columns, .window spec⟩

/-- Every partition of a list over another relation. -/
def rebindAll (relation : Relation) : List Partition → Outcome (List Partition)
  | [] => .ok []
  | child :: rest => do
    let first ← rebind relation child
    let others ← rebindAll relation rest
    pure (first :: others)

end

end Partition

end QueryFrame
