import QueryFrame.Dialect.Quoting
import QueryFrame.Expr.Basic

/-!
# Expressions as SQL text

Raw text is written as it stands, names and strings are quoted for the dialect, and a column is
qualified with the alias of its table when there is one. Everything is written in front of the
text that follows it, so each character is placed once.
-/

namespace QueryFrame

/-- What SQL text is made for. -/
structure Target where
  /-- decides the quoting -/
  family : Family
  /-- the alias of the table that columns are taken from -/
  table : Option String

/-- What stands in front of a column: the alias of the table and a dot, or nothing. -/
def Target.qualifyOnto (target : Target) (rest : List Char) : List Char :=
  match target.table with
  | some table => target.family.nameQuotes.quoteOnto table.toList ('.' :: rest)
  | none => rest

mutual

/-- The text of a token, followed by `rest`. -/
def Token.renderOnto (target : Target) : Token → List Char → List Char
  | .raw sql, rest => sql.toList ++ rest
  | .column name, rest =>
    target.qualifyOnto (target.family.nameQuotes.quoteOnto name.toList rest)
  | .identifier name, rest => target.family.nameQuotes.quoteOnto name.toList rest
  | .string value, rest => target.family.stringQuotes.quoteOnto value.toList rest
  | .nested _ tokens, rest => Token.renderAllOnto target tokens rest

/-- The text of the tokens in order, followed by `rest`. -/
def Token.renderAllOnto (target : Target) : List Token → List Char → List Char
  | [], rest => rest
  | token :: tokens, rest => token.renderOnto target (Token.renderAllOnto target tokens rest)

end

/-! ### What follows has no influence -/

theorem Target.qualifyOnto_eq (target : Target) (rest : List Char) :
    target.qualifyOnto rest = target.qualifyOnto [] ++ rest := by
  unfold Target.qualifyOnto
  split
  · rw [QuoteStyle.quoteOnto_eq, QuoteStyle.quoteOnto_eq _ _ ['.']]
    simp
  · rfl

mutual

/-- The text of a token does not depend on what follows it. -/
theorem Token.renderOnto_eq (target : Target) : (token : Token) → (rest : List Char) →
    token.renderOnto target rest = token.renderOnto target [] ++ rest
  | .raw sql, rest => by simp [Token.renderOnto]
  | .column name, rest => by
    simp only [Token.renderOnto]
    rw [Target.qualifyOnto_eq, Target.qualifyOnto_eq target (QuoteStyle.quoteOnto _ _ []),
      QuoteStyle.quoteOnto_eq, List.append_assoc]
  | .identifier name, rest => by
    simp only [Token.renderOnto]
    rw [QuoteStyle.quoteOnto_eq]
  | .string value, rest => by
    simp only [Token.renderOnto]
    rw [QuoteStyle.quoteOnto_eq]
  | .nested _ tokens, rest => by
    simp only [Token.renderOnto]
    exact Token.renderAllOnto_eq target tokens rest

/-- The text of a row of tokens does not depend on what follows it. -/
theorem Token.renderAllOnto_eq (target : Target) : (tokens : List Token) → (rest : List Char) →
    Token.renderAllOnto target tokens rest = Token.renderAllOnto target tokens [] ++ rest
  | [], rest => by simp [Token.renderAllOnto]
  | token :: tokens, rest => by
    simp only [Token.renderAllOnto]
    rw [Token.renderOnto_eq target token (Token.renderAllOnto target tokens rest),
      Token.renderOnto_eq target token (Token.renderAllOnto target tokens []),
      Token.renderAllOnto_eq target tokens rest, List.append_assoc]

end

namespace Expr

/-- The characters of an expression. -/
def render (target : Target) (e : Expr) : List Char :=
  Token.renderAllOnto target e.tokens []

/-- The SQL text of an expression in a dialect. Even an empty expression has none in a dialect
that is known by name only. -/
def toSql (e : Expr) (d : Dialect) (table : Option String) : Outcome String := do
  let family ← d.family
  pure (String.ofList (e.render ⟨family, table⟩))

end Expr

end QueryFrame
