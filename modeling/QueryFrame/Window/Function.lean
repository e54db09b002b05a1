import QueryFrame.Dialect.Basic
import QueryFrame.Expr.Template

/-!
# Window functions

Navigation functions look at particular rows of the frame. Numbering functions depend on the
position of the row in its partition alone, and columnar engines do not accept a frame with them.
-/

namespace QueryFrame

/-- What a window function looks at. -/
inductive FunctionFamily where
  /-- other rows of the frame -/
  | navigation
  /-- the position of the row -/
  | numbering
  deriving DecidableEq

/-- The name of a family. -/
def FunctionFamily.name : FunctionFamily → String
  | .navigation => "navigation"
  | .numbering => "numbering"

/-- The window functions. -/
inductive WindowFunction where
  | firstValue
  | lastValue
  | nthValue
  | lead
  | lag
  | rank
  | denseRank
  | percentRank
  | cumeDist
  | ntile
  | rowNumber
  deriving DecidableEq

namespace WindowFunction

/-- The SQL name of a function. -/
def name : WindowFunction → String
  | .firstValue => "first_value"
  | .lastValue => "last_value"
  | .nthValue => "nth_value"
  | .lead => "lead"
  | .lag => "lag"
  | .rank => "rank"
  | .denseRank => "dense_rank"
  | .percentRank => "percent_rank"
  | .cumeDist => "cume_dist"
  | .ntile => "ntile"
  | .rowNumber => "row_number"

/-- What a function looks at. -/
def family : WindowFunction → FunctionFamily
  | .firstValue | .lastValue | .nthValue | .lead | .lag => .navigation
  | .rank | .denseRank | .percentRank | .cumeDist | .ntile | .rowNumber => .numbering

/-- All functions, in the order of their declaration. -/
def all : List WindowFunction :=
  [.firstValue, .lastValue, .nthValue, .lead, .lag, .rank, .denseRank, .percentRank, .cumeDist,
    .ntile, .rowNumber]

theorem mem_all (f : WindowFunction) : f ∈ all := by
  cases f <;> decide

/-- The function of that name. -/
def ofName? (name : String) : Option WindowFunction :=
  all.find? fun f => f.name = name

/-- Whether the dialect accepts a frame in a call of the function. -/
def acceptsFrame (f : WindowFunction) (d : Dialect) : Outcome Bool := do
  match ← d.family with
  | .rowStore => pure true
  | .columnarAnalytics => pure (f.family = .navigation)

/-- The call of a function, without its window. -/
def call (f : WindowFunction) (args : List Expr) : Outcome Expr :=
  Expr.construct .regular (f.name ++ "(" ++ Expr.slots args.length ", " ++ ")") args

end WindowFunction

end QueryFrame
