import QueryFrame.Error.Cause
import QueryFrame.Number.Decimal

/-!
# Window frames

A frame says which rows around the current one a window function looks at. It has a mode, which is
rows or range, and a bound at either end. Everything may be left out, and not every combination
means something: `Frame.check` accepts a frame and gives its mode and its SQL clause, or says what
is wrong with it. Of several faults the first in the order of the checks is reported.
-/

namespace QueryFrame

open Number

/-- What the offsets of a frame count. -/
inductive FrameMode where
  /-- rows -/
  | rows
  /-- values of the sort key, so that peers belong together -/
  | range
  deriving DecidableEq

/-- The keyword of a mode. -/
def FrameMode.keyword : FrameMode → String
  | .rows => "ROWS"
  | .range => "RANGE"

/-- Where a bound lies, seen from the current row. -/
inductive Boundary where
  | preceding
  | currentRow
  | following
  deriving DecidableEq

namespace Boundary

/-- The keyword of a boundary. -/
def keyword : Boundary → String
  | .preceding => "PRECEDING"
  | .currentRow => "CURRENT ROW"
  | .following => "FOLLOWING"

/-- The place of a boundary in the order of rows. -/
def rank : Boundary → Nat
  | .preceding => 0
  | .currentRow => 1
  | .following => 2

end Boundary

/-- One end of a frame. Without an offset a preceding or following bound is unbounded. -/
structure Bound where
  /-- on which side of the current row -/
  boundary : Boundary
  /-- how far from the current row -/
  offset : Option Int64
  deriving DecidableEq

namespace Bound

/-- Before every row. -/
def unboundedPreceding : Bound :=
  ⟨.preceding, none⟩

/-- That many rows before the current one. -/
def preceding (offset : Int64) : Bound :=
  ⟨.preceding, some offset⟩

/-- The current row. -/
def currentRow : Bound :=
  ⟨.currentRow, none⟩

/-- That many rows after the current one. -/
def following (offset : Int64) : Bound :=
  ⟨.following, some offset⟩

/-- After every row. -/
def unboundedFollowing : Bound :=
  ⟨.following, none⟩

/-- The SQL of a bound. The current row has no offset. -/
def clause : Bound → Outcome String
  | ⟨.currentRow, some offset⟩ => .error (.frame (.offsetOnCurrentRow offset))
  | ⟨.currentRow, none⟩ => .ok "CURRENT ROW"
  | ⟨boundary, none⟩ => .ok ("UNBOUNDED " ++ boundary.keyword)
  | ⟨boundary, some offset⟩ => .ok (Decimal.ofInt offset.toInt ++ " " ++ boundary.keyword)

/-- Whether a frame from `start` to `stop` would start after its end. Bounds on different sides of
the current row are in the order of the sides, bounds on one side in the order of their offsets. -/
def isAfter (start stop : Bound) : Bool :=
  if stop.boundary.rank < start.boundary.rank then true
  else match start, stop with
    | ⟨.preceding, some first⟩, ⟨.preceding, some last⟩ => first < last
    | ⟨.following, some first⟩, ⟨.following, some last⟩ => last < first
    | _, _ => false

end Bound

/-- A window frame as it is asked for. -/
structure Frame where
  /-- rows or range -/
  mode : Option FrameMode
  /-- the first row -/
  start : Option Bound
  /-- the last row -/
  stop : Option Bound
  deriving DecidableEq

namespace Frame

/-- Both bounds, counted in rows. -/
def rows (start stop : Bound) : Frame :=
  ⟨some .rows, some start, some stop⟩

/-- Both bounds, counted in peers. -/
def range (start stop : Bound) : Frame :=
  ⟨some .range, some start, some stop⟩

/-- No bounds, so that the database takes its own. -/
def unframed (mode : FrameMode) : Frame :=
  ⟨some mode, none, none⟩

/-- What databases take as frame: from the first row up to the current one and its peers. -/
def standard : Frame :=
  range .unboundedPreceding .currentRow

/-- The offsets, that of the start first. -/
def offsets (frame : Frame) : List Int64 :=
  (frame.start.bind Bound.offset).toList ++ (frame.stop.bind Bound.offset).toList

/-- Refuses a frame that starts after its end. -/
def checkOrder (frame : Frame) : Outcome Unit :=
  match frame.start, frame.stop with
  | some start, some stop =>
    if start.isAfter stop then do
      let first ← start.clause
      let last ← stop.clause
      .error (.frame (.inverted first last))
    else .ok ()
  | _, _ => .ok ()

/-- The SQL of a frame in the given mode, nothing without a start. -/
def clause (frame : Frame) (mode : FrameMode) : Outcome String :=
  match frame.start, frame.stop with
  | some start, none => do
    let first ← start.clause
    pure (mode.keyword ++ " " ++ first)
  | some start, some stop => do
    let first ← start.clause
    let last ← stop.clause
    pure (mode.keyword ++ " BETWEEN " ++ first ++ " AND " ++ last)
  | none, _ => .ok ""

/-- The mode and the SQL clause of a frame that means something, or the first fault of one that
does not. -/
def check (frame : Frame) : Outcome (FrameMode × String) :=
  match frame.mode with
  | none => .error (.frame .missingMode)
  | some mode =>
    if frame.start.isNone && frame.stop.isSome then .error (.frame .missingStart)
    else if frame.start = some .unboundedFollowing then
      .error (.frame .startUnboundedFollowing)
    else if frame.stop = some .unboundedPreceding then
      .error (.frame .endUnboundedPreceding)
    else match frame.offsets.find? (· < 0) with
      | some offset => .error (.frame (.negativeOffset offset))
      | none =>
        if mode = .range && !frame.offsets.isEmpty then .error (.frame .offsetInRange)
        else do
          frame.checkOrder
          let clause ← frame.clause mode
          pure (mode, clause)

end Frame

end QueryFrame
