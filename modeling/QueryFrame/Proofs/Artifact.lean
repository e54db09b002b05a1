import QueryFrame.Proofs.Kinds
import QueryFrame.Proofs.Operations
import QueryFrame.Proofs.Runs

/-!
# Everything a caller can hold

A caller holds expressions, series, partitions and dataframes, all of them values of `Artifact`.
New ones come from old ones: by operations, by taking a part of one (`Artifact.Part`), or by asking
one for an expression (`Artifact.Gives`). `Obtained` closes under all of it, in any order and to any
depth. What a caller brings along from outside, and where an expression may be put in by hand, is
left open as a `Supply`.
-/

namespace QueryFrame

/-- What a caller can hold. -/
inductive Artifact where
  | expr (e : Expr)
  | series (s : Series)
  | partition (p : Partition)
  | dataFrame (df : DataFrame)

namespace Artifact

/-- What can be taken out of an artifact. -/
inductive Part : Artifact → Artifact → Prop
  | expr (s : Series) : Part (.series s) (.expr s.expr)
  | level {s : Series} {entry : String × Series} (h : entry ∈ s.levels) :
      Part (.series s) (.series entry.2)
  | index {s : Series} {entry : String × Series} (h : entry ∈ s.index) :
      Part (.series s) (.series entry.2)
  | partition {s : Series} {p : Partition} (h : s.partition = some p) :
      Part (.series s) (.partition p)
  | column {p : Partition} {entry : String × Series} (h : entry ∈ p.columns) :
      Part (.partition p) (.series entry.2)
  | child {p child : Partition} (h : child ∈ p.children) : Part (.partition p) (.partition child)
  | windowOrder {w : Window} {key : SortKey} (h : key ∈ w.spec.order) :
      Part (.partition w.partition) (.expr key.expr)
  | frameIndex {df : DataFrame} {entry : String × Series} (h : entry ∈ df.index) :
      Part (.dataFrame df) (.series entry.2)
  | frameData {df : DataFrame} {entry : String × Series} (h : entry ∈ df.data) :
      Part (.dataFrame df) (.series entry.2)
  | frameOrder {df : DataFrame} {key : SortKey} (h : key ∈ df.order) :
      Part (.dataFrame df) (.expr key.expr)
  | framePartition {df : DataFrame} {p : Partition} (h : df.partition = some p) :
      Part (.dataFrame df) (.partition p)

/-- The expressions that an artifact makes on request. -/
inductive Gives : Artifact → Expr → Prop
  | selectItem {s : Series} {e : Expr} (h : s.selectItem = .ok e) : Gives (.series s) e
  | levelItem {s : Series} {items : List Expr} {e : Expr} (h : s.levelItems = .ok items)
      (he : e ∈ items) : Gives (.series s) e
  | levelExpr {s : Series} {e : Expr} (he : e ∈ s.levelExprs) : Gives (.series s) e
  | groupExpr {p : Partition} {e : Expr} (he : e ∈ p.groupExprs) : Gives (.partition p) e
  | clause {p : Partition} {e : Expr} (h : p.clause = .ok (some e)) : Gives (.partition p) e
  | partitionItem {p : Partition} {whole : Bool} {items : List Expr} {e : Expr}
      (h : p.selectItems whole = .ok items) (he : e ∈ items) : Gives (.partition p) e
  | overClause {w : Window} {e : Expr} (h : w.over = .ok e) : Gives (.partition w.partition) e
  | frameItem {df : DataFrame} {items : List Expr} {e : Expr} (h : df.selectItems = .ok items)
      (he : e ∈ items) : Gives (.dataFrame df) e
  | groupClause {df : DataFrame} {e : Expr} (h : df.groupClause = .ok (some e)) :
      Gives (.dataFrame df) e
  | orderClause {df : DataFrame} {e : Expr} (h : df.orderClause = .ok (some e)) :
      Gives (.dataFrame df) e

end Artifact

/-! ## What can be obtained -/

/-- What a caller brings along. -/
structure Supply where
  /-- the names, and the strings in literals -/
  text : String → Prop
  /-- expressions from elsewhere -/
  sql : Expr → Prop
  /-- the series whose expression may be replaced, and by what -/
  replaceable : Series → Expr → Prop

/-- The strings in a literal. -/
def Literal.texts : Literal → List String
  | .string value => [value]
  | _ => []

/-- The strings in a call. -/
def WindowCall.texts : WindowCall → List String
  | .lead _ (some literal) | .lag _ (some literal) => literal.texts
  | _ => []

/-- The series among the keys of a grouping. -/
def GroupKey.series? : GroupKey → Option Series
  | .label _ => none
  | .series s => some s

/-- The series that a call is made with. -/
def Grouping.series : Grouping → List Series
  | .groupBy keys | .cube keys | .rollup keys | .window keys _ _ => keys.filterMap GroupKey.series?
  | .groupingSets lists | .groupingLists lists => lists.flatten.filterMap GroupKey.series?
  | .rolling _ _ _ | .expanding _ => []

open Artifact in
/-- Whatever a caller can obtain, given what it brings along. -/
inductive Obtained (supply : Supply) : Artifact → Prop
  /-- an expression from elsewhere -/
  | sql {e : Expr} (h : supply.sql e) : Obtained supply (.expr e)
  /-- a literal as an expression -/
  | literal {value : Literal} {e : Expr} (htext : ∀ text ∈ value.texts, supply.text text)
      (h : value.expr = .ok e) : Obtained supply (.expr e)
  /-- the call of a window function -/
  | call {f : WindowFunction} {args : List Expr} {e : Expr}
      (hargs : ∀ arg ∈ args, Obtained supply (.expr arg)) (h : f.call args = .ok e) :
      Obtained supply (.expr e)
  /-- a call over a window -/
  | apply {w : Window} {call e : Expr} (hw : Obtained supply (.partition w.partition))
      (hcall : Obtained supply (.expr call)) (h : w.apply call = .ok e) : Obtained supply (.expr e)
  /-- a call over a window, for a dialect -/
  | applyFor {w : Window} {f : WindowFunction} {args : List Expr} {d : Dialect} {e : Expr}
      (hw : Obtained supply (.partition w.partition))
      (hargs : ∀ arg ∈ args, Obtained supply (.expr arg)) (h : w.applyFor f args d = .ok e) :
      Obtained supply (.expr e)
  /-- what an artifact makes on request -/
  | gives {a : Artifact} {e : Expr} (ha : Obtained supply a) (h : a.Gives e) :
      Obtained supply (.expr e)
  /-- a part of an artifact -/
  | part {a b : Artifact} (ha : Obtained supply a) (h : a.Part b) : Obtained supply b
  -- series
  | column {relation : Relation} {name : String} {dtype : DataType} (hname : supply.text name) :
      Obtained supply (.series (.ofColumn relation name dtype))
  | single {relation : Relation} {name : String} {dtype : DataType} {e : Expr}
      (hname : supply.text name) (he : Obtained supply (.expr e)) :
      Obtained supply (.series (.single relation name dtype e))
  | composite {relation : Relation} {name : String} {dtype : DataType} {levels : List Series}
      {s : Series} (hname : supply.text name)
      (hlevels : ∀ level ∈ levels, Obtained supply (.series level))
      (h : Series.composite relation name dtype levels = .ok s) : Obtained supply (.series s)
  | withName {s : Series} {name : String} (hs : Obtained supply (.series s))
      (hname : supply.text name) : Obtained supply (.series { s with name := name })
  | withExpr {s : Series} {e : Expr} (hs : Obtained supply (.series s))
      (he : Obtained supply (.expr e)) (h : supply.replaceable s e) :
      Obtained supply (.series { s with expr := e })
  | withType {s : Series} {dtype : DataType} (hs : Obtained supply (.series s)) :
      Obtained supply (.series { s with dtype := dtype })
  | withSorting {s : Series} {indexSorting : List Bool} {ascending : Option Bool}
      (hs : Obtained supply (.series s)) :
      Obtained supply (.series { s with indexSorting := indexSorting, ascending := ascending })
  | withIndex {s : Series} {index : Columns} (hs : Obtained supply (.series s))
      (hindex : ∀ entry ∈ index, Obtained supply (.series entry.2)) :
      Obtained supply (.series { s with index := index })
  | withPartition {s : Series} {partition : Option Partition} (hs : Obtained supply (.series s))
      (hpartition : ∀ p, partition = some p → Obtained supply (.partition p)) :
      Obtained supply (.series { s with partition := partition })
  | rebind {s : Series} {relation : Relation} (hs : Obtained supply (.series s)) :
      Obtained supply (.series (s.rebind relation))
  | aggregate {s next : Series} {f : Aggregate} {partition : Option Partition}
      (hs : Obtained supply (.series s))
      (hpartition : ∀ p, partition = some p → Obtained supply (.partition p))
      (h : s.aggregate f partition = .ok next) : Obtained supply (.series next)
  | windowed {s next : Series} {w : Window} {call : WindowCall} {d : Dialect}
      (hs : Obtained supply (.series s)) (hw : Obtained supply (.partition w.partition))
      (htext : ∀ text ∈ call.texts, supply.text text) (h : s.windowed w call d = .ok next) :
      Obtained supply (.series next)
  | windowFunction {s next : Series} {w : Window} {f : WindowFunction} {args : List Expr}
      {dtype : DataType} {d : Dialect} (hs : Obtained supply (.series s))
      (hw : Obtained supply (.partition w.partition))
      (hargs : ∀ arg ∈ args, Obtained supply (.expr arg))
      (h : s.windowFunction w f args dtype d = .ok next) : Obtained supply (.series next)
  | compare {s other next : Series} {op : Comparison} (hs : Obtained supply (.series s))
      (hother : Obtained supply (.series other)) (h : s.compare op other = .ok next) :
      Obtained supply (.series next)
  | compareLiteral {s next : Series} {op : Comparison} {value : Literal}
      (hs : Obtained supply (.series s)) (htext : ∀ text ∈ value.texts, supply.text text)
      (h : s.compareLiteral op value = .ok next) : Obtained supply (.series next)
  -- partitions
  | all : Obtained supply (.partition .all)
  | groupBy {columns : List Series} {p : Partition}
      (hcolumns : ∀ column ∈ columns, Obtained supply (.series column))
      (h : Partition.groupBy columns = .ok p) : Obtained supply (.partition p)
  | cube {columns : List Series} {p : Partition}
      (hcolumns : ∀ column ∈ columns, Obtained supply (.series column))
      (h : Partition.cube columns = .ok p) : Obtained supply (.partition p)
  | rollup {columns : List Series} {p : Partition}
      (hcolumns : ∀ column ∈ columns, Obtained supply (.series column))
      (h : Partition.rollup columns = .ok p) : Obtained supply (.partition p)
  | groupingList {children : List Partition} {p : Partition}
      (hchildren : ∀ child ∈ children, Obtained supply (.partition child))
      (h : Partition.groupingList children = .ok p) : Obtained supply (.partition p)
  | groupingSet {children : List Partition} {p : Partition}
      (hchildren : ∀ child ∈ children, Obtained supply (.partition child))
      (h : Partition.groupingSet children = .ok p) : Obtained supply (.partition p)
  | window {columns : List Series} {order : List SortKey} {frame : Frame}
      {minValues : Option UInt32} {w : Window}
      (hcolumns : ∀ column ∈ columns, Obtained supply (.series column))
      (horder : ∀ key ∈ order, Obtained supply (.expr key.expr))
      (h : Window.make columns order frame minValues = .ok w) :
      Obtained supply (.partition w.partition)
  | withFrame {w next : Window} {frame : Frame} (hw : Obtained supply (.partition w.partition))
      (h : w.withFrame frame = .ok next) : Obtained supply (.partition next.partition)
  | withMinValues {w : Window} {minValues : UInt32}
      (hw : Obtained supply (.partition w.partition)) :
      Obtained supply (.partition (w.withMinValues minValues).partition)
  | unframed {w : Window} (hw : Obtained supply (.partition w.partition)) :
      Obtained supply (.partition w.unframed.partition)
  | rebindPartition {p next : Partition} {relation : Relation}
      (hp : Obtained supply (.partition p)) (h : p.rebind relation = .ok next) :
      Obtained supply (.partition next)
  -- dataframes
  | ofRelation {relation : Relation} {settings : Settings} {index data : List (String × DataType)}
      (hindex : ∀ field ∈ index, supply.text field.1)
      (hdata : ∀ field ∈ data, supply.text field.1) :
      Obtained supply (.dataFrame (.ofRelation relation settings index data))
  | lookup {df : DataFrame} {name : String} {s : Series} (hdf : Obtained supply (.dataFrame df))
      (h : df.get (.label name) = .ok (.series s)) : Obtained supply (.series s)
  | select {df next : DataFrame} {names : List String} (hdf : Obtained supply (.dataFrame df))
      (h : df.select names = .ok next) : Obtained supply (.dataFrame next)
  | sortBy {df next : DataFrame} {names : List String} {ascending : List Bool}
      (hdf : Obtained supply (.dataFrame df)) (h : df.sortBy names ascending = .ok next) :
      Obtained supply (.dataFrame next)
  | partitioned {df next : DataFrame} {call : Grouping} (hdf : Obtained supply (.dataFrame df))
      (hseries : ∀ s ∈ call.series, Obtained supply (.series s))
      (h : df.partitioned call = .ok next) : Obtained supply (.dataFrame next)

end QueryFrame
