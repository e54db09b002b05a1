import QueryFrame.DataType

/-!
# Why a request is refused

One type of causes per part of the library, and `Error` as their sum. A cause carries what its
wording needs and nothing else; the wording itself is in `QueryFrame.Error.Wording`.
-/

namespace QueryFrame

/-- Operations that the types of their operands do not admit. -/
inductive TypeFault where
  /-- a comparison across classes, or within a class without an order -/
  | incomparable (left right : DataType) (operator : String)
  /-- an aggregate that the type has no notion of -/
  | unsupported (dtype : DataType) (operation : String)
  deriving DecidableEq

/-- Templates that do not fit their arguments. -/
inductive TemplateFault where
  /-- there are `expected` slots, but `actual` arguments were given -/
  | slotMismatch (template : String) (expected actual : Nat)
  deriving DecidableEq

/-- What a database cannot do. -/
inductive DialectFault where
  /-- nothing is known about the dialect of that name -/
  | unknown (name : String)
  /-- the dialect takes no frame clause with this function -/
  | frameRefused (function dialect clause : String)
  deriving DecidableEq

/-- Columns that cannot be grouped on, and partitions that cannot be formed. -/
inductive GroupingFault where
  /-- a level of a composite series is a constant -/
  | constantLevel (series level : String)
  /-- the series is a constant -/
  | constantSeries (series : String)
  /-- the series holds a window function -/
  | windowFunction (series : String)
  /-- the series holds an aggregate -/
  | aggregateFunction (series : String)
  /-- a cube without columns -/
  | emptyCube
  /-- a rollup without columns -/
  | emptyRollup
  /-- a list of groupings with a partition in it that groups nothing -/
  | notGrouping (kind : String)
  deriving DecidableEq

/-- Window frames that mean nothing. -/
inductive FrameFault where
  /-- neither rows nor range -/
  | missingMode
  /-- an end without a start -/
  | missingStart
  /-- the start lies after every row -/
  | startUnboundedFollowing
  /-- the end lies before every row -/
  | endUnboundedPreceding
  /-- an offset below zero -/
  | negativeOffset (offset : Int64)
  /-- an offset where peers are counted, not rows -/
  | offsetInRange
  /-- the start lies after the end -/
  | inverted (start stop : String)
  /-- an offset from the current row to itself -/
  | offsetOnCurrentRow (offset : Int64)
  /-- a rolling window of no rows -/
  | emptyRolling
  deriving DecidableEq

/-- Operations that a series does not admit. -/
inductive SeriesFault where
  /-- the operands come from different relations or groupings -/
  | foreignOperand (left right : String)
  /-- an aggregate of an aggregate -/
  | alreadyAggregated (series operation : String)
  /-- a partition of another relation -/
  | foreignPartition (series : String)
  /-- an aggregate of a window function -/
  | alreadyWindowed (series operation : String)
  /-- a literal without a value -/
  | nonFiniteLiteral (value : String)
  deriving DecidableEq

/-- Requests that a dataframe cannot answer. -/
inductive DataFrameFault where
  /-- no column of that name -/
  | unknownColumn (name : String)
  /-- rows cannot be selected by position -/
  | unsupportedKey (key : String)
  /-- neither one flag nor one per column -/
  | flagCount (columns flags : Nat)
  /-- a grouping key of another relation -/
  | foreignKey (name : String)
  /-- the dataframe has a partition already -/
  | alreadyGrouped (kind : String)
  /-- settings that cannot be read -/
  | invalidSettings (reason : String)
  deriving DecidableEq

/-- Everything that a request can be refused for. -/
inductive Error where
  | type (fault : TypeFault)
  | template (fault : TemplateFault)
  | dialect (fault : DialectFault)
  | grouping (fault : GroupingFault)
  | frame (fault : FrameFault)
  | series (fault : SeriesFault)
  | dataFrame (fault : DataFrameFault)
  deriving DecidableEq

/-- The answer to a request: a value, or the reason why there is none. -/
abbrev Outcome (α : Type) := Except Error α

end QueryFrame
