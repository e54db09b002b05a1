import QueryFrame.Window.Basic

/-!
# Aggregates

An aggregate collapses the rows of each group of a partition into one. The result has the columns
of the partition as its index, so it lines up with other aggregates over the same partition. Over a
window the rows stay, and the result belongs to the index and partition of the series it was made
from.

An aggregate of an aggregate, or of a window function, is refused: SQL has no such calls.
-/

namespace QueryFrame

/-- The aggregates. -/
inductive Aggregate where
  | sum
  | mean
  | min
  | max
  | count
  /-- how many different values there are -/
  | nunique
  deriving DecidableEq

namespace Aggregate

/-- What an aggregate is called in a sentence. -/
def name : Aggregate → String
  | .sum => "sum"
  | .mean => "mean"
  | .min => "min"
  | .max => "max"
  | .count => "count"
  | .nunique => "nunique"

/-- All aggregates, in the order of their declaration. -/
def all : List Aggregate :=
  [.sum, .mean, .min, .max, .count, .nunique]

theorem mem_all (f : Aggregate) : f ∈ all := by
  cases f <;> decide

/-- The aggregate of that name. -/
def ofName? (name : String) : Option Aggregate :=
  all.find? fun f => f.name = name

/-- The SQL of an aggregate. -/
def template : Aggregate → String
  | .sum => "sum(" ++ slot ++ ")"
  | .mean => "avg(" ++ slot ++ ")"
  | .min => "min(" ++ slot ++ ")"
  | .max => "max(" ++ slot ++ ")"
  | .count => "count(" ++ slot ++ ")"
  | .nunique => "count(distinct " ++ slot ++ ")"

/-- The type of the result. -/
def resultType (f : Aggregate) (dtype : DataType) : DataType :=
  match f with
  | .sum | .min | .max => dtype
  | .mean => .float64
  | .count | .nunique => .int64

/-- Whether values of the type can be aggregated so. Sums and means need numbers, the least and the
greatest value need an order. -/
def supports (f : Aggregate) (dtype : DataType) : Bool :=
  match f with
  | .sum | .mean => dtype.isNumeric
  | .min | .max => dtype.comparableWith dtype
  | .count | .nunique => true

end Aggregate

namespace Series

/-- Refuses a partition whose first column belongs to another relation. -/
def checkRelation (s : Series) (columns : Columns) : Outcome Unit :=
  match Columns.relation? columns with
  | some relation =>
    if relation = s.relation then .ok () else .error (.series (.foreignPartition s.name))
  | none => .ok ()

/-- Refuses what cannot be aggregated: a type without the operation, an aggregate, and a window
function. -/
def checkAggregate (s : Series) (f : Aggregate) : Outcome Unit :=
  if !f.supports s.dtype then .error (.type (.unsupported s.dtype f.name))
  else if s.expr.hasAggregate then .error (.series (.alreadyAggregated s.name f.name))
  else if s.expr.hasWindow then .error (.series (.alreadyWindowed s.name f.name))
  else .ok ()

/-- The series with another expression and type. -/
def computed (s : Series) (expr : Expr) (dtype : DataType) : Series :=
  { s with expr := expr, dtype := dtype }

/-- An aggregate of the series over a partition, which is one group of all rows if none is
given. -/
def aggregate (s : Series) (f : Aggregate) (partition : Option Partition) : Outcome Series := do
  s.checkAggregate f
  let partition := partition.getD .all
  s.checkRelation partition.columns
  let call ← Expr.construct .aggregate f.template [s.expr]
  match partition.window? with
  | some window =>
    let expr ← window.apply call
    pure (s.computed expr (f.resultType s.dtype))
  | none =>
    pure { s.computed call (f.resultType s.dtype) with
      index := partition.columns
      partition := some partition }

end Series

end QueryFrame
