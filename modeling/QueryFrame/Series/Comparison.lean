import QueryFrame.Literal
import QueryFrame.Series.Column

/-!
# Comparisons

Two series of one relation and one partition can be compared row by row, and a series can be
compared with a literal, when their types are comparable. The result is a series of truth values
that otherwise is the left operand.
-/

namespace QueryFrame

/-- The comparison operators. -/
inductive Comparison where
  | equal
  | notEqual
  | less
  | lessEqual
  | greater
  | greaterEqual
  deriving DecidableEq

namespace Comparison

/-- The SQL of an operator. -/
def symbol : Comparison → String
  | .equal => "="
  | .notEqual => "<>"
  | .less => "<"
  | .lessEqual => "<="
  | .greater => ">"
  | .greaterEqual => ">="

/-- All operators, in the order of their declaration. -/
def all : List Comparison :=
  [.equal, .notEqual, .less, .lessEqual, .greater, .greaterEqual]

theorem mem_all (op : Comparison) : op ∈ all := by
  cases op <;> decide

/-- The operator that is written so. -/
def ofSymbol? (symbol : String) : Option Comparison :=
  all.find? fun op => op.symbol = symbol

end Comparison

namespace Series

/-- Refuses operands that are not comparable. -/
def checkComparable (left right : DataType) (op : Comparison) : Outcome Unit :=
  if left.comparableWith right then .ok ()
  else .error (.type (.incomparable left right op.symbol))

/-- The comparison of the series with an expression. -/
def comparedWith (s : Series) (op : Comparison) (other : Expr) : Outcome Series := do
  let expr ← Expr.construct .regular ("(" ++ slot ++ ") " ++ op.symbol ++ " (" ++ slot ++ ")")
    [s.expr, other]
  pure { s with expr := expr, dtype := .bool }

/-- The comparison of two series. -/
def compare (s : Series) (op : Comparison) (other : Series) : Outcome Series := do
  checkComparable s.dtype other.dtype op
  if s.relation = other.relation && Partition.sameOption s.partition other.partition then
    s.comparedWith op other.expr
  else
    .error (.series (.foreignOperand s.name other.name))

/-- The comparison of a series with a literal. -/
def compareLiteral (s : Series) (op : Comparison) (value : Literal) : Outcome Series := do
  checkComparable s.dtype value.dtype op
  let other ← value.expr
  s.comparedWith op other

end Series

end QueryFrame
