import QueryFrame.Literal
import QueryFrame.Series.Aggregate

/-!
# Window functions of series

A window function computes a value for each row from the rows around it. `WindowCall` lists the
calls with what each needs besides the series, and `Series.windowed` makes one. A numbering
function loses the frame of its window in a dialect that accepts none with it, since it does not
depend on the frame.
-/

namespace QueryFrame

open Number

/-- A call of a window function on a series. -/
inductive WindowCall where
  | firstValue
  | lastValue
  /-- the value of the row at that position of the frame, counted from one -/
  | nthValue (n : UInt32)
  /-- the value that many rows later, or a default past the last row -/
  | lead (offset : UInt32) (default : Option Literal)
  /-- the value that many rows earlier, or a default before the first row -/
  | lag (offset : UInt32) (default : Option Literal)
  | rowNumber
  | rank
  | denseRank
  | percentRank
  | cumeDist
  /-- the number of the part, when the rows are dealt into that many -/
  | ntile (buckets : UInt32)

namespace WindowCall

/-- The function that is called. -/
def function : WindowCall → WindowFunction
  | .firstValue => .firstValue
  | .lastValue => .lastValue
  | .nthValue _ => .nthValue
  | .lead _ _ => .lead
  | .lag _ _ => .lag
  | .rowNumber => .rowNumber
  | .rank => .rank
  | .denseRank => .denseRank
  | .percentRank => .percentRank
  | .cumeDist => .cumeDist
  | .ntile _ => .ntile

/-- The type of the result, when the series has the given one. -/
def resultType (call : WindowCall) (dtype : DataType) : DataType :=
  match call with
  | .firstValue | .lastValue | .nthValue _ | .lead _ _ | .lag _ _ => dtype
  | .rowNumber | .rank | .denseRank | .ntile _ => .int64
  | .percentRank | .cumeDist => .float64

/-- A count as an argument. -/
def countArg (n : UInt32) : Expr :=
  .constant (Decimal.ofNat n.toNat)

/-- A default as an argument, if there is one. -/
def defaultArg : Option Literal → Outcome (List Expr)
  | some literal => literal.expr.map ([·])
  | none => .ok []

/-- The arguments of the call. Numbering functions take none from the series. -/
def args (call : WindowCall) (own : Expr) : Outcome (List Expr) :=
  match call with
  | .firstValue | .lastValue => .ok [own]
  | .nthValue n => .ok [own, countArg n]
  | .lead offset default | .lag offset default => do
    let default ← defaultArg default
    pure (own :: countArg offset :: default)
  | .rowNumber | .rank | .denseRank | .percentRank | .cumeDist => .ok []
  | .ntile buckets => .ok [countArg buckets]

end WindowCall

namespace Series

/-- Any window function over a window, with the arguments and the type of the result given. -/
def windowFunction (s : Series) (w : Window) (f : WindowFunction) (args : List Expr)
    (dtype : DataType) (d : Dialect) : Outcome Series := do
  s.checkRelation w.columns
  let framed ← if f.family = .numbering then f.acceptsFrame d else pure true
  let expr ← (if framed then w else w.unframed).applyFor f args d
  pure (s.computed expr dtype)

/-- A window function of the series over a window. -/
def windowed (s : Series) (w : Window) (call : WindowCall) (d : Dialect) : Outcome Series := do
  let args ← call.args s.expr
  s.windowFunction w call.function args (call.resultType s.dtype) d

end Series

end QueryFrame
