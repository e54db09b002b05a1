import QueryFrame.DataFrame.Basic

/-!
# Sample values

A relation, series, windows and dataframes to try the library on. Every column holds whole numbers,
since those admit every aggregate and every comparison among themselves.
-/

namespace QueryFrame.Sample

/-- The relation of the samples. -/
def relation : Relation :=
  .ofName "test"

/-- A column of whole numbers. -/
def series (relation : Relation) (name : String) : Series :=
  .ofColumn relation name .int64

/-- A composite of two series with different names. -/
def pair (name : String) (dtype : DataType) (first second : Series) : Series :=
  { Series.single relation name dtype
      ⟨.regular, [.raw "(", first.expr.token, .raw ", ", second.expr.token, .raw ")"]⟩ with
    levels := [(first.name, first), (second.name, second)] }

/-- An expression under an alias. -/
def aliased (e : Expr) (name : String) : Expr :=
  ⟨.regular, [e.token, .raw " as ", (Expr.identifier name).token]⟩

/-- Columns of whole numbers by their names. -/
def fields (names : List String) : List (String × DataType) :=
  names.map fun name => (name, .int64)

/-- A dataframe of whole numbers with standard settings. -/
def dataFrame (index data : List String) : DataFrame :=
  .ofRelation relation .standard (fields index) (fields data)

/-- The rows with one `b` in the order of `a`. A frame is a row with the one before it, and has to
hold both. -/
def window : Window :=
  ⟨[("b", series relation "b")],
    ⟨[⟨.column "a", true⟩], .rows, some (.preceding 1), some .currentRow, 2,
      "ROWS BETWEEN 1 PRECEDING AND CURRENT ROW"⟩⟩

/-- All rows in the order of `a`, without a frame. -/
def ordered : Window :=
  ⟨[], ⟨[⟨.column "a", true⟩], .rows, none, none, 0, ""⟩⟩

/-- The call of a function with a value and the number one, over `ordered`. -/
def shifted (function : String) (own : Expr) : Expr :=
  ⟨.window,
    [.nested .regular [.raw function, own.token, .raw ", ", (Expr.constant "1").token, .raw ")"],
      .raw " ",
      .nested .regular [.raw "over (",
        .nested .regular
          [.nested .regular [.raw "order by ", (Expr.column "a").token, .raw " asc"]],
        .raw ")"]]⟩

end QueryFrame.Sample
