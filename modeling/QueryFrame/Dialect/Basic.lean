import QueryFrame.Error.Cause
import QueryFrame.Text

/-!
# Database dialects

SQL text is made for a dialect. Two dialects are known, one from each family of engines. Any other
name is a dialect too, since whoever reports it may know it, but it has no family, so nothing can
be rendered for it.
-/

namespace QueryFrame

/-- The families of engines, which differ in quoting and in what a window accepts. -/
inductive Family where
  /-- engines that store rows -/
  | rowStore
  /-- engines that store columns, for analytics -/
  | columnarAnalytics
  deriving DecidableEq

/-- The name of a family. -/
def Family.name : Family → String
  | .rowStore => "row_store"
  | .columnarAnalytics => "columnar_analytics"

/-- A database dialect. -/
inductive Dialect where
  | postgres
  | bigQuery
  /-- a dialect that is known by name only -/
  | other (name : String)
  deriving DecidableEq

namespace Dialect

/-- The name of a dialect. -/
def name : Dialect → String
  | .postgres => "postgresql"
  | .bigQuery => "bigquery"
  | .other name => name

/-- The dialect of that name. The known ones are recognised in any case, and the first of them by
its short name as well. -/
def ofName (name : String) : Dialect :=
  if Text.sameName name "postgres" || Text.sameName name "postgresql" then .postgres
  else if Text.sameName name "bigquery" then .bigQuery
  else .other name

/-- The family of a dialect. A dialect known by name only is refused. -/
def family : Dialect → Outcome Family
  | .postgres => .ok .rowStore
  | .bigQuery => .ok .columnarAnalytics
  | .other name => .error (.dialect (.unknown name))

end Dialect

end QueryFrame
