import QueryFrame.Diagnostic
import QueryFrame.Error.Cause
import QueryFrame.Number.Decimal
import QueryFrame.Text

/-!
# How a refusal is worded

Every cause has a headline, the short sentence that names it, and a diagnostic, the full report.
Where the report has nothing to add, its message is the headline.

The codes are stable, and no two causes share one.
-/

namespace QueryFrame

open Number Text

namespace TypeFault

/-- The short sentence. -/
def headline : TypeFault → String
  | .incomparable left right _ => "Cannot compare " ++ left.name ++ " with " ++ right.name
  | .unsupported dtype operation =>
    "Operation " ++ operation ++ " is not supported for " ++ dtype.name

/-- The report. -/
def diagnostic (fault : TypeFault) : Diagnostic :=
  match fault with
  | .incomparable left right operator =>
    { code := "TYPE_001"
      category := .type
      message := fault.headline ++ " using " ++ quoted operator
      label := some (left.typeClass.name ++ " and " ++ right.typeClass.name ++ " values")
      help := some "Cast one side so both operands have a comparable type"
      notes := ["Numbers compare with numbers, text with text, temporal values with the same " ++
        "temporal type"] }
  | .unsupported dtype _ =>
    { code := "TYPE_002"
      category := .type
      message := fault.headline
      label := some (dtype.name ++ " column")
      help := none
      notes := [] }

end TypeFault

namespace TemplateFault

/-- How many slots and arguments there were. -/
def counts (expected actual : Nat) : String :=
  " has " ++ Decimal.ofNat expected ++ " placeholders but " ++ Decimal.ofNat actual ++
    " arguments were given"

/-- The short sentence. -/
def headline : TemplateFault → String
  | .slotMismatch _ expected actual => "Template" ++ counts expected actual

/-- The report. -/
def diagnostic : TemplateFault → Diagnostic
  | .slotMismatch template expected actual =>
    { code := "EXPRESSION_001"
      category := .validation
      message := "Template " ++ quoted template ++ counts expected actual
      label := some "placeholder count mismatch"
      help := some "Pass exactly one sub-expression per '\x7b\x7d' slot in the template"
      notes := [] }

end TemplateFault

namespace DialectFault

/-- The short sentence. -/
def headline : DialectFault → String
  | .unknown name => "Database dialect " ++ quoted name ++ " is not supported"
  | .frameRefused function dialect _ =>
    function ++ " does not support a window frame clause on " ++ dialect

/-- The report. -/
def diagnostic (fault : DialectFault) : Diagnostic :=
  match fault with
  | .unknown _ =>
    { code := "DIALECT_001"
      category := .capability
      message := fault.headline
      label := some "unknown dialect"
      help := some "Use one of the supported dialects: postgresql, bigquery"
      notes := [] }
  | .frameRefused _ _ clause =>
    { code := "DIALECT_002"
      category := .capability
      message := fault.headline
      label := some ("frame clause " ++ quoted clause)
      help := some "Remove the frame clause from the window before applying this function"
      notes := ["Numbering functions such as rank and row_number compute over the whole " ++
        "partition"] }

end DialectFault

namespace GroupingFault

/-- The short sentence. -/
def headline : GroupingFault → String
  | .constantLevel series level =>
    "Level " ++ quoted level ++ " of multi-level series " ++ quoted series ++
      " has a constant expression"
  | .constantSeries series =>
    "Grouping on series " ++ quoted series ++ " whose expression is a constant is not supported"
  | .windowFunction _ => "Window functions can not be used to group"
  | .aggregateFunction _ => "Aggregate functions can not be used to group"
  | .emptyCube => "Can not create a cube without group by columns"
  | .emptyRollup => "Can not create a rollup without group by columns"
  | .notGrouping kind => "Only grouping partitions are supported, got " ++ kind

/-- The report. -/
def diagnostic (fault : GroupingFault) : Diagnostic :=
  match fault with
  | .constantLevel series level =>
    { code := "GROUP_001"
      category := .validation
      message := "Level " ++ quoted level ++ " in multi-level series " ++ quoted series ++
        " has a constant expression"
      label := some "constant level"
      help := some "Materialize the series first"
      notes := [] }
  | .constantSeries _ =>
    { code := "GROUP_002"
      category := .validation
      message := fault.headline
      label := some "constant expression"
      help := some "Name the columns to group on explicitly"
      notes := ["Grouping by a number literal would group by the column at that position"] }
  | .windowFunction series =>
    { code := "GROUP_003"
      category := .validation
      message := "Series " ++ quoted series ++
        " contains a window function and can not be used to group"
      label := some "window function"
      help := some "Materialize the series first"
      notes := [] }
  | .aggregateFunction series =>
    { code := "GROUP_004"
      category := .validation
      message := "Series " ++ quoted series ++
        " contains an aggregate function and can not be used to group"
      label := some "aggregate function"
      help := some "Materialize the series first"
      notes := [] }
  | .emptyCube =>
    { code := "GROUP_005"
      category := .validation
      message := fault.headline
      label := none
      help := some "Pass at least one column to cube over"
      notes := [] }
  | .emptyRollup =>
    { code := "GROUP_006"
      category := .validation
      message := fault.headline
      label := none
      help := some "Pass at least one column to roll up"
      notes := [] }
  | .notGrouping _ =>
    { code := "GROUP_007"
      category := .validation
      message := fault.headline
      label := some "not a grouping"
      help := some "Use group by, cube, rollup or nested grouping lists"
      notes := ["A window never contributes a GROUP BY clause"] }

end GroupingFault

namespace FrameFault

/-- The short sentence. -/
def headline : FrameFault → String
  | .missingMode => "Mode needs to be defined"
  | .missingStart => "start boundary needs to be defined if end boundary is present"
  | .startUnboundedFollowing => "Start of frame can not be unbounded following"
  | .endUnboundedPreceding => "End of frame can not be unbounded preceding"
  | .negativeOffset offset =>
    "Frame offsets must be greater than or equal to zero, got " ++ Decimal.ofInt offset.toInt
  | .offsetInRange => "Frame offsets are only supported in ROWS mode"
  | .inverted _ _ => "Frame boundaries defined in wrong order"
  | .offsetOnCurrentRow _ => "Value not supported with CURRENT ROW"
  | .emptyRolling => "Rolling window size must be greater than zero"

/-- The stable code. -/
def code : FrameFault → String
  | .missingMode => "WINDOW_001"
  | .missingStart => "WINDOW_002"
  | .startUnboundedFollowing => "WINDOW_003"
  | .endUnboundedPreceding => "WINDOW_004"
  | .negativeOffset _ => "WINDOW_005"
  | .offsetInRange => "WINDOW_006"
  | .inverted _ _ => "WINDOW_007"
  | .offsetOnCurrentRow _ => "WINDOW_008"
  | .emptyRolling => "WINDOW_009"

/-- The advice. -/
def help : FrameFault → String
  | .missingMode => "Specify ROWS or RANGE"
  | .missingStart => "Give a start boundary, the end boundary alone is not a valid frame"
  | .startUnboundedFollowing => "Give the FOLLOWING start boundary an offset"
  | .endUnboundedPreceding => "Give the PRECEDING end boundary an offset"
  | .negativeOffset _ => "Use zero to select the current row itself"
  | .offsetInRange => "Use ROWS mode, or drop the offsets to frame on peers"
  | .inverted _ _ => "The frame start must not lie after the frame end"
  | .offsetOnCurrentRow _ => "Drop the offset from the CURRENT ROW boundary"
  | .emptyRolling => "Use a window of at least one row"

/-- The message of the report: an inverted frame is shown with both its bounds. -/
def message (fault : FrameFault) : String :=
  match fault with
  | .inverted start stop => fault.headline ++ ": " ++ start ++ " comes after " ++ stop
  | _ => fault.headline

/-- The report. -/
def diagnostic (fault : FrameFault) : Diagnostic :=
  { code := fault.code
    category := .validation
    message := fault.message
    label := some "invalid window frame"
    help := some fault.help
    notes := ["Frames are written as \x7b RANGE | ROWS \x7d BETWEEN frame_start AND frame_end"] }

end FrameFault

namespace SeriesFault

/-- The short sentence. -/
def headline : SeriesFault → String
  | .foreignOperand _ _ => "rhs has a different base_node or group_by"
  | .alreadyAggregated series _ => "Series " ++ quoted series ++ " is already aggregated"
  | .foreignPartition series =>
    "Partition is defined on a different base node than series " ++ quoted series
  | .alreadyWindowed series _ => "Series " ++ quoted series ++ " holds a window function"
  | .nonFiniteLiteral value => "Float literal " ++ value ++ " is not a finite number"

/-- The report. -/
def diagnostic (fault : SeriesFault) : Diagnostic :=
  match fault with
  | .foreignOperand left right =>
    { code := "SERIES_001"
      category := .validation
      message := "rhs " ++ quoted right ++ " has a different base_node or group_by than " ++
        quoted left
      label := some "operands from different relations"
      help := some "Combine series of the same dataframe and grouping, or materialize first"
      notes := [] }
  | .alreadyAggregated series operation =>
    { code := "SERIES_002"
      category := .validation
      message := "Can not apply " ++ operation ++ " to series " ++ quoted series ++
        ", it is already aggregated"
      label := some "nested aggregation"
      help := some "Materialize the aggregated series first"
      notes := [] }
  | .foreignPartition _ =>
    { code := "SERIES_003"
      category := .validation
      message := fault.headline
      label := some "foreign partition"
      help := some "Build the partition from columns of the same dataframe"
      notes := [] }
  | .alreadyWindowed series operation =>
    { code := "SERIES_004"
      category := .validation
      message := "Can not apply " ++ operation ++ " to series " ++ quoted series ++
        ", it holds a window function"
      label := some "nested window function"
      help := some "Materialize the windowed series first"
      notes := ["Aggregate and window function calls can not contain window function calls"] }
  | .nonFiniteLiteral _ =>
    { code := "SERIES_005"
      category := .validation
      message := fault.headline
      label := some "non-finite literal"
      help := some "Compare against a finite value, or filter NaN and infinity in the source"
      notes := [] }

end SeriesFault

namespace DataFrameFault

/-- The short sentence. -/
def headline : DataFrameFault → String
  | .unknownColumn name => "column " ++ quoted name ++ " not found"
  | .unsupportedKey key => "Unsupported key: " ++ key
  | .flagCount columns flags =>
    "Length of ascending (" ++ Decimal.ofNat flags ++ ") does not match length of by (" ++
      Decimal.ofNat columns ++ ")"
  | .foreignKey name => "Series " ++ quoted name ++ " belongs to another dataframe"
  | .alreadyGrouped _ => "DataFrame is already grouped"
  | .invalidSettings reason => "Invalid settings: " ++ reason

/-- The report. -/
def diagnostic (fault : DataFrameFault) : Diagnostic :=
  match fault with
  | .unknownColumn _ =>
    { code := "FRAME_001"
      category := .validation
      message := fault.headline
      label := some "this column does not exist in the dataframe"
      help := some "check for typos or ensure the column is part of the data or index"
      notes := [] }
  | .unsupportedKey _ =>
    { code := "FRAME_002"
      category := .validation
      message := fault.headline
      label := some "unsupported key type"
      help := some "Select columns by label, or a list of labels"
      notes := ["Row positions are not known before the query is executed"] }
  | .flagCount _ _ =>
    { code := "FRAME_003"
      category := .validation
      message := fault.headline
      label := none
      help := some "Pass one ascending flag, or one per sort column"
      notes := [] }
  | .foreignKey _ =>
    { code := "FRAME_004"
      category := .validation
      message := fault.headline
      label := some "different base node"
      help := some "Group on series of this dataframe"
      notes := [] }
  | .alreadyGrouped kind =>
    { code := "FRAME_005"
      category := .validation
      message := fault.headline ++ " by a " ++ kind
      label := none
      help := some "Aggregate and materialize before grouping again"
      notes := [] }
  | .invalidSettings _ =>
    { code := "FRAME_006"
      category := .validation
      message := fault.headline
      label := none
      help := none
      notes := [] }

end DataFrameFault

namespace Error

/-- The short sentence of a cause. -/
def headline : Error → String
  | .type fault => fault.headline
  | .template fault => fault.headline
  | .dialect fault => fault.headline
  | .grouping fault => fault.headline
  | .frame fault => fault.headline
  | .series fault => fault.headline
  | .dataFrame fault => fault.headline

/-- The report of a cause. -/
def diagnostic : Error → Diagnostic
  | .type fault => fault.diagnostic
  | .template fault => fault.diagnostic
  | .dialect fault => fault.diagnostic
  | .grouping fault => fault.diagnostic
  | .frame fault => fault.diagnostic
  | .series fault => fault.diagnostic
  | .dataFrame fault => fault.diagnostic

/-- The stable code of a cause. -/
def code (e : Error) : String :=
  e.diagnostic.code

end Error

end QueryFrame
