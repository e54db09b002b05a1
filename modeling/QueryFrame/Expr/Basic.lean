/-!
# Expressions

An expression is an immutable fragment of SQL: a row of tokens together with what kind of value
they compute. A token is text taken as it is, a reference to a column of the relation, another
name, a string, or a whole expression. Since an expression inside another one keeps its own kind,
a token for it holds that kind and those tokens.

Two expressions are equal when their tokens and kinds are, not when they read the same as SQL.
`Expr.same` decides that, and `Expr.same_iff` says so.

The kinds decide three questions: whether the value is the same for every row (`isConstant`),
whether rows collapse (`hasAggregate`), and whether a window function occurs anywhere
(`hasWindow`). A windowed aggregate keeps every row, so an aggregate below a window function does
not count as one.
-/

namespace QueryFrame

/-- What an expression computes. -/
inductive ExprKind where
  /-- whatever its parts make of it -/
  | regular
  /-- the same value for every row -/
  | constant
  /-- one value for all rows of a group -/
  | aggregate
  /-- a value per row, computed over a window -/
  | window
  deriving DecidableEq

/-- The name of a kind. -/
def ExprKind.name : ExprKind → String
  | .regular => "regular"
  | .constant => "constant"
  | .aggregate => "aggregate"
  | .window => "window"

/-- A piece of an expression. -/
inductive Token where
  /-- SQL as it stands -/
  | raw (sql : String)
  /-- a column of the relation -/
  | column (name : String)
  /-- any other name -/
  | identifier (name : String)
  /-- the value of a string literal -/
  | string (value : String)
  /-- an expression within -/
  | nested (kind : ExprKind) (tokens : List Token)

/-- An immutable fragment of SQL. -/
structure Expr where
  /-- what it computes -/
  kind : ExprKind
  /-- its pieces in order -/
  tokens : List Token

/-! ### Equality -/

mutual

/-- Whether two tokens are the same. -/
def Token.same : Token → Token → Bool
  | .raw left, .raw right => left = right
  | .column left, .column right => left = right
  | .identifier left, .identifier right => left = right
  | .string left, .string right => left = right
  | .nested kind left, .nested kind' right => kind = kind' && Token.allSame left right
  | _, _ => false

/-- Whether two rows of tokens are the same, token by token. -/
def Token.allSame : List Token → List Token → Bool
  | [], [] => true
  | left :: lefts, right :: rights => Token.same left right && Token.allSame lefts rights
  | _, _ => false

end

mutual

theorem Token.same_iff : (left right : Token) → (Token.same left right = true ↔ left = right)
  | .raw left, right => by cases right <;> simp [Token.same]
  | .column left, right => by cases right <;> simp [Token.same]
  | .identifier left, right => by cases right <;> simp [Token.same]
  | .string left, right => by cases right <;> simp [Token.same]
  | .nested kind tokens, right => by
    cases right with
    | nested kind' tokens' => simp [Token.same, Token.allSame_iff tokens tokens']
    | _ => simp [Token.same]

theorem Token.allSame_iff :
    (lefts rights : List Token) → (Token.allSame lefts rights = true ↔ lefts = rights)
  | [], rights => by cases rights <;> simp [Token.allSame]
  | left :: lefts, rights => by
    cases rights with
    | nil => simp [Token.allSame]
    | cons right rights =>
      simp [Token.allSame, Token.same_iff left right, Token.allSame_iff lefts rights]

end

instance : DecidableEq Token := fun left right =>
  decidable_of_iff _ (Token.same_iff left right)

namespace Expr

/-- Whether two expressions are the same: of one kind, and the same token by token. -/
def same (left right : Expr) : Bool :=
  left.kind = right.kind && Token.allSame left.tokens right.tokens

theorem same_iff (left right : Expr) : left.same right = true ↔ left = right := by
  cases left
  cases right
  simp [same, Token.allSame_iff]

instance : DecidableEq Expr := fun left right =>
  decidable_of_iff _ (same_iff left right)

/-! ### Building blocks -/

/-- A fragment of no particular kind. -/
def ofTokens (tokens : List Token) : Expr :=
  ⟨.regular, tokens⟩

/-- No SQL at all. -/
def empty : Expr :=
  ofTokens []

/-- SQL as it stands. -/
def raw (sql : String) : Expr :=
  ofTokens [.raw sql]

/-- SQL with the same value for every row, such as a number. -/
def constant (sql : String) : Expr :=
  ⟨.constant, [.raw sql]⟩

/-- A string literal. -/
def string (value : String) : Expr :=
  ⟨.constant, [.string value]⟩

/-- A name that is no column of the relation. -/
def identifier (name : String) : Expr :=
  ofTokens [.identifier name]

/-- A column of the relation. -/
def column (name : String) : Expr :=
  ofTokens [.column name]

/-- Whether there are no tokens. -/
def isEmpty (e : Expr) : Bool :=
  e.tokens.isEmpty

/-- The expression as a token of a larger one. -/
def token (e : Expr) : Token :=
  .nested e.kind e.tokens

end Expr

/-! ### What an expression computes -/

mutual

/-- Whether a token has the same value for every row. -/
def Token.isConstant : Token → Bool
  | .raw _ | .string _ => true
  | .column _ | .identifier _ => false
  | .nested .constant _ => true
  | .nested .aggregate _ | .nested .window _ => false
  | .nested .regular tokens => !tokens.isEmpty && Token.allConstant tokens

/-- Whether every token has the same value for every row. -/
def Token.allConstant : List Token → Bool
  | [] => true
  | token :: rest => token.isConstant && Token.allConstant rest

end

mutual

/-- Whether rows collapse in a token. -/
def Token.hasAggregate : Token → Bool
  | .nested .aggregate _ => true
  | .nested .window _ => false
  | .nested _ tokens => Token.anyAggregate tokens
  | _ => false

/-- Whether rows collapse in some token. -/
def Token.anyAggregate : List Token → Bool
  | [] => false
  | token :: rest => token.hasAggregate || Token.anyAggregate rest

end

mutual

/-- Whether a token holds a window function. -/
def Token.hasWindow : Token → Bool
  | .nested kind tokens => kind = .window || Token.anyWindow tokens
  | _ => false

/-- Whether some token holds a window function. -/
def Token.anyWindow : List Token → Bool
  | [] => false
  | token :: rest => token.hasWindow || Token.anyWindow rest

end

mutual

/-- The columns that a token refers to, in order of appearance. -/
def Token.columns : Token → List String
  | .column name => [name]
  | .nested _ tokens => Token.allColumns tokens
  | _ => []

/-- The columns that the tokens refer to, in order of appearance. -/
def Token.allColumns : List Token → List String
  | [] => []
  | token :: rest => token.columns ++ Token.allColumns rest

end

namespace Expr

/-- Whether the value is the same for every row. A fragment of no particular kind is constant when
it has tokens and all of them are. -/
def isConstant (e : Expr) : Bool :=
  e.token.isConstant

/-- Whether rows collapse into one value. -/
def hasAggregate (e : Expr) : Bool :=
  e.token.hasAggregate

/-- Whether a window function occurs anywhere. -/
def hasWindow (e : Expr) : Bool :=
  e.token.hasWindow

/-- The columns referred to, in order of appearance, as often as they appear. -/
def columns (e : Expr) : List String :=
  e.token.columns

end Expr

end QueryFrame
