import QueryFrame.Expr.Render

/-!
# The leaves of an expression

Nesting says what an expression computes, but it leaves no trace in the text. What is written are
the leaves, from left to right: pieces of SQL as they stand, and names and strings in quotes.
`Expr.render_eq_leaves` says so, and every statement about rendered text goes through it.

Of the leaves a reader sees *pieces*. Neighbouring stretches of plain text are one piece, empty
text is none, and a column is preceded by the alias of its table and a dot when there is one
(`Expr.pieces`).
-/

namespace QueryFrame

/-- What is written of an expression at one place. -/
inductive Leaf where
  /-- SQL as it stands -/
  | raw (sql : String)
  /-- a column of the relation -/
  | column (name : String)
  /-- any other name -/
  | identifier (name : String)
  /-- the value of a string literal -/
  | string (value : String)
  deriving DecidableEq

mutual

/-- The leaves of a token, from left to right. -/
def Token.leaves : Token → List Leaf
  | .raw sql => [.raw sql]
  | .column name => [.column name]
  | .identifier name => [.identifier name]
  | .string value => [.string value]
  | .nested _ tokens => Token.allLeaves tokens

/-- The leaves of a row of tokens, from left to right. -/
def Token.allLeaves : List Token → List Leaf
  | [] => []
  | token :: rest => token.leaves ++ Token.allLeaves rest

end

/-- The leaves of an expression, from left to right. -/
def Expr.leaves (e : Expr) : List Leaf :=
  Token.allLeaves e.tokens

theorem Token.allLeaves_cons (token : Token) (rest : List Token) :
    Token.allLeaves (token :: rest) = token.leaves ++ Token.allLeaves rest := rfl

theorem Token.allLeaves_append (left right : List Token) :
    Token.allLeaves (left ++ right) = Token.allLeaves left ++ Token.allLeaves right := by
  induction left with
  | nil => rfl
  | cons token rest ih =>
    rw [List.cons_append, allLeaves_cons, allLeaves_cons, ih, List.append_assoc]

/-! ## Rendering is writing the leaves -/

/-- The text of a leaf, followed by `rest`. -/
def Leaf.renderOnto (target : Target) : Leaf → List Char → List Char
  | .raw sql, rest => sql.toList ++ rest
  | .column name, rest =>
    target.qualifyOnto (target.family.nameQuotes.quoteOnto name.toList rest)
  | .identifier name, rest => target.family.nameQuotes.quoteOnto name.toList rest
  | .string value, rest => target.family.stringQuotes.quoteOnto value.toList rest

/-- The text of the leaves in order. -/
def Leaf.renderAll (target : Target) (leaves : List Leaf) : List Char :=
  leaves.foldr (Leaf.renderOnto target) []

mutual

theorem Token.renderOnto_eq_leaves (target : Target) :
    (token : Token) → (rest : List Char) →
      token.renderOnto target rest = token.leaves.foldr (Leaf.renderOnto target) rest
  | .raw _, _ | .column _, _ | .identifier _, _ | .string _, _ => rfl
  | .nested _ tokens, rest => Token.renderAllOnto_eq_leaves target tokens rest

theorem Token.renderAllOnto_eq_leaves (target : Target) :
    (tokens : List Token) → (rest : List Char) →
      Token.renderAllOnto target tokens rest =
        (Token.allLeaves tokens).foldr (Leaf.renderOnto target) rest
  | [], _ => rfl
  | token :: tokens, rest => by
    rw [Token.renderAllOnto, Token.renderOnto_eq_leaves target token,
      Token.renderAllOnto_eq_leaves target tokens, Token.allLeaves_cons, List.foldr_append]

end

/-- The text of an expression is the text of its leaves. -/
theorem Expr.render_eq_leaves (target : Target) (e : Expr) :
    e.render target = Leaf.renderAll target e.leaves :=
  Token.renderAllOnto_eq_leaves target e.tokens []

/-! ## What a reader sees -/

/-- A part of SQL text as it is meant. -/
inductive Piece where
  /-- text outside quotes -/
  | plain (text : List Char)
  /-- what stands between two marks, without escapes -/
  | quoted (style : QuoteStyle) (content : List Char)
  deriving DecidableEq

namespace Piece

/-- One more piece in front of others. Plain text joins plain text, and no text is no piece. -/
def push : Piece → List Piece → List Piece
  | .plain [], rest => rest
  | .plain text, .plain more :: rest => .plain (text ++ more) :: rest
  | piece, rest => piece :: rest

/-- Pieces with no empty text, and no two stretches of plain text side by side. -/
def merge (pieces : List Piece) : List Piece :=
  pieces.foldr push []

@[simp] theorem push_quoted (style : QuoteStyle) (content : List Char) (rest : List Piece) :
    push (.quoted style content) rest = .quoted style content :: rest := rfl

/-- Text can be put in front one character after the other. -/
theorem push_plain_cons (c : Char) (text : List Char) (rest : List Piece) :
    push (.plain (c :: text)) rest = push (.plain [c]) (push (.plain text) rest) := by
  cases text with
  | nil => rfl
  | cons next text =>
    cases rest with
    | nil => rfl
    | cons piece rest => cases piece <;> rfl

end Piece

/-- What stands in front of a column: the alias of the table and a dot, or nothing. -/
def Target.qualifier (target : Target) : List Piece :=
  match target.table with
  | some table => [.quoted target.family.nameQuotes table.toList, .plain ['.']]
  | none => []

/-- What a reader should see of a leaf. -/
def Leaf.pieces (target : Target) : Leaf → List Piece
  | .raw sql => [.plain sql.toList]
  | .column name => target.qualifier ++ [.quoted target.family.nameQuotes name.toList]
  | .identifier name => [.quoted target.family.nameQuotes name.toList]
  | .string value => [.quoted target.family.stringQuotes value.toList]

/-- What a reader should see of an expression. -/
def Expr.pieces (target : Target) (e : Expr) : List Piece :=
  Piece.merge (e.leaves.flatMap (Leaf.pieces target))

end QueryFrame
