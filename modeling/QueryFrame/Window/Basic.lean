import QueryFrame.Partition.Basic
import QueryFrame.Window.Function

/-!
# Windows

A window is a partition that keeps its rows: columns that divide them, an order within each part,
and a frame around each row. A function is computed over it in an `over` clause. If the frame has
to hold a least number of rows, they are counted over the same clause, and the value is missing
where there are fewer.

Some functions take no frame in some dialects. `Window.applyFor` refuses such a call.
-/

namespace QueryFrame

/-- A window: the columns that divide the rows, and what is made of each part. -/
structure Window where
  /-- the columns that divide the rows -/
  columns : Columns
  /-- order, frame and least number of rows -/
  spec : WindowSpec
  deriving DecidableEq

/-- The window that a partition is, if it is one. -/
def Partition.window? : Partition → Option Window
  | ⟨columns, .window spec⟩ => some ⟨columns, spec⟩
  | _ => none

namespace Window

/-- The window as a partition. -/
def partition (w : Window) : Partition :=
  ⟨w.columns, .window w.spec⟩

@[simp] theorem window?_partition (w : Window) : w.partition.window? = some w := rfl

/-- A window with the given columns, order and frame. The columns are checked first, then the
frame. -/
def make (columns : List Series) (order : List SortKey) (frame : Frame)
    (minValues : Option UInt32) : Outcome Window := do
  let columns ← Columns.group columns
  let (mode, clause) ← frame.check
  pure ⟨columns, ⟨order, mode, frame.start, frame.stop, minValues.getD 0, clause⟩⟩

/-- The same window with another frame, and without a least number of rows. -/
def withFrame (w : Window) (frame : Frame) : Outcome Window :=
  make (Keyed.values w.columns) w.spec.order frame none

/-- The same window with another least number of rows. -/
def withMinValues (w : Window) (minValues : UInt32) : Window :=
  { w with spec := { w.spec with minValues := minValues } }

/-- The same window without a frame, for functions that look at the whole part anyway. -/
def unframed (w : Window) : Window :=
  { w with spec := w.spec.unframed }

/-! ### Calls over a window -/

/-- What the rows are divided by, if by anything. -/
def partitionPart (w : Window) : Outcome (List Expr) :=
  if w.columns.isEmpty then .ok []
  else
    let exprs := Columns.groupExprs w.columns
    (Expr.construct .regular ("partition by " ++ Expr.slots exprs.length ", ") exprs).map ([·])

end Window

namespace SortKey

/-- The template of one column of an order. -/
def template (key : SortKey) : String :=
  slot ++ if key.ascending then " asc" else " desc"

/-- The template of an order. -/
def templates (order : List SortKey) : String :=
  Text.joinWith ", " (order.map template)

end SortKey

namespace Window

/-- What the rows are ordered by, if by anything. -/
def orderPart (w : Window) : Outcome (List Expr) :=
  if w.spec.order.isEmpty then .ok []
  else
    (Expr.construct .regular ("order by " ++ SortKey.templates w.spec.order)
      (w.spec.order.map SortKey.expr)).map ([·])

/-- The frame, if there is one. -/
def framePart (w : Window) : List Expr :=
  if w.spec.clause.isEmpty then [] else [.raw w.spec.clause]

/-- The `over` clause. -/
def «over» (w : Window) : Outcome Expr := do
  let columns ← w.partitionPart
  let order ← w.orderPart
  let inner ← Expr.join (columns ++ order ++ w.framePart) " "
  Expr.construct .regular ("over (" ++ slot ++ ")") [inner]

/-- The template that gives a value only where the frame holds enough rows. Its slots are the
window, the call and the window again. -/
def guardTemplate (minValues : UInt32) : String :=
  "case when (count(1) " ++ slot ++ ") >= " ++ Number.Decimal.ofNat minValues.toNat ++ " then " ++
    slot ++ " " ++ slot ++ " else NULL end"

/-- A call over the window. -/
def apply (w : Window) (call : Expr) : Outcome Expr := do
  let clause ← w.over
  if w.spec.minValues = 0 then
    Expr.construct .window (slot ++ " " ++ slot) [call, clause]
  else
    Expr.construct .window (guardTemplate w.spec.minValues) [clause, call, clause]

/-- Refuses a function that the dialect does not accept with the frame of the window. Without a
frame there is nothing to refuse, whatever the dialect. -/
def checkFrameFor (w : Window) (f : WindowFunction) (d : Dialect) : Outcome Unit :=
  if w.spec.clause.isEmpty then .ok ()
  else do
    let accepted ← f.acceptsFrame d
    if accepted then .ok ()
    else .error (.dialect (.frameRefused f.name d.name w.spec.clause))

/-- A window function over the window, for a dialect. A frame that the dialect does not accept
with the function is refused. -/
def applyFor (w : Window) (f : WindowFunction) (args : List Expr) (d : Dialect) :
    Outcome Expr := do
  w.checkFrameFor f d
  let call ← f.call args
  w.apply call

end Window

end QueryFrame
