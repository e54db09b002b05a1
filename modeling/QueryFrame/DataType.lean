import QueryFrame.Text

/-!
# Data types

The types that a column can have, and the classes they fall into. Values may be compared when
their types are of one class and that class has an order; documents and composites have none.
-/

namespace QueryFrame

/-- The classes of types. -/
inductive TypeClass where
  | numeric
  | boolean
  | text
  | date
  | time
  | timestamp
  | interval
  | uuid
  | json
  | composite
  deriving DecidableEq

/-- The name of a class in running text. -/
def TypeClass.name : TypeClass → String
  | .numeric => "numeric"
  | .boolean => "boolean"
  | .text => "text"
  | .date => "date"
  | .time => "time"
  | .timestamp => "timestamp"
  | .interval => "interval"
  | .uuid => "uuid"
  | .json => "json"
  | .composite => "composite"

/-- Whether values of the class can be compared with each other. -/
def TypeClass.isComparable : TypeClass → Bool
  | .json | .composite => false
  | _ => true

/-- All classes, in the order of their declaration. -/
def TypeClass.all : List TypeClass :=
  [.numeric, .boolean, .text, .date, .time, .timestamp, .interval, .uuid, .json, .composite]

theorem TypeClass.mem_all (c : TypeClass) : c ∈ TypeClass.all := by
  cases c <;> decide

/-- The types of columns. -/
inductive DataType where
  | int64
  | float64
  | bool
  | string
  | date
  | time
  | timestamp
  | timedelta
  | uuid
  | json
  /-- lower bound, upper bound and the kinds of both bounds -/
  | numericInterval
  deriving DecidableEq

namespace DataType

/-- The name of a type. -/
def name : DataType → String
  | .int64 => "int64"
  | .float64 => "float64"
  | .bool => "bool"
  | .string => "string"
  | .date => "date"
  | .time => "time"
  | .timestamp => "timestamp"
  | .timedelta => "timedelta"
  | .uuid => "uuid"
  | .json => "json"
  | .numericInterval => "numeric_interval"

/-- The class of a type. -/
def typeClass : DataType → TypeClass
  | .int64 | .float64 => .numeric
  | .bool => .boolean
  | .string => .text
  | .date => .date
  | .time => .time
  | .timestamp => .timestamp
  | .timedelta => .interval
  | .uuid => .uuid
  | .json => .json
  | .numericInterval => .composite

/-- All types, in the order of their declaration. -/
def all : List DataType :=
  [.int64, .float64, .bool, .string, .date, .time, .timestamp, .timedelta, .uuid, .json,
    .numericInterval]

theorem mem_all (t : DataType) : t ∈ all := by
  cases t <;> decide

/-- Whether sums and means of the type exist. -/
def isNumeric (t : DataType) : Bool :=
  t.typeClass = .numeric

/-- Whether values of the two types may be compared. -/
def comparableWith (left right : DataType) : Bool :=
  left.typeClass = right.typeClass && left.typeClass.isComparable

theorem comparableWith_comm (left right : DataType) :
    left.comparableWith right = right.comparableWith left := by
  cases left <;> cases right <;> rfl

/-- The type of that name, in any spelling of its ASCII letters. -/
def ofName? (name : String) : Option DataType :=
  all.find? fun t => Text.sameName t.name name

/-- What is said about a name that no type has. -/
def unknownName (name : String) : String :=
  "unknown dtype " ++ Text.quoted name

end DataType

end QueryFrame
