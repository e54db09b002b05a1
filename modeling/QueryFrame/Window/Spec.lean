import QueryFrame.Expr.Basic
import QueryFrame.Window.Frame

/-!
# What a window adds to its columns

Besides the columns that it is partitioned by, a window has an order, a frame and a least number of
rows that the frame has to hold.
-/

namespace QueryFrame

/-- A column of an order. -/
structure SortKey where
  /-- what is sorted by -/
  expr : Expr
  /-- smallest first -/
  ascending : Bool
  deriving DecidableEq

/-- A window without its columns. -/
structure WindowSpec where
  /-- the order of the rows -/
  order : List SortKey
  /-- what the frame counts -/
  mode : FrameMode
  /-- the first row of the frame -/
  start : Option Bound
  /-- the last row of the frame -/
  stop : Option Bound
  /-- the least number of rows in the frame, for a value to be given -/
  minValues : UInt32
  /-- the SQL of the frame, nothing if the database is to take its own -/
  clause : String
  deriving DecidableEq

namespace WindowSpec

/-- The frame as it could be asked for. -/
def frame (spec : WindowSpec) : Frame :=
  ⟨some spec.mode, spec.start, spec.stop⟩

/-- The same window without a frame. -/
def unframed (spec : WindowSpec) : WindowSpec :=
  { spec with start := none, stop := none, clause := "" }

end WindowSpec

end QueryFrame
