import QueryFrame.Error.Cause
import QueryFrame.Expr.Basic
import QueryFrame.Number.Float64

/-!
# Literals

Values that are written into a query. Numbers and truth values are constants as they stand, a
string is quoted when it is rendered. There is no portable literal for a floating-point value that
is not a number.
-/

namespace QueryFrame

open Number

/-- A value to be written into a query. -/
inductive Literal where
  | int (value : Int64)
  | float (value : Float)
  | string (value : String)
  | bool (value : Bool)

namespace Literal

/-- The type of a literal. -/
def dtype : Literal → DataType
  | .int _ => .int64
  | .float _ => .float64
  | .string _ => .string
  | .bool _ => .bool

/-- The literal as an expression. -/
def expr : Literal → Outcome Expr
  | .int value => .ok (.constant (Decimal.ofInt value.toInt))
  | .float value =>
    if Float64.isFinite value then .ok (.constant (Float64.text value))
    else .error (.series (.nonFiniteLiteral (Float64.text value)))
  | .string value => .ok (.string value)
  | .bool true => .ok (.constant "true")
  | .bool false => .ok (.constant "false")

end Literal

end QueryFrame
